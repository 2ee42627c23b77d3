import Gatehouse.Text.Blank
import Gatehouse.Text.Percent
import Gatehouse.Text.Units

/-!
# Addresses

The address of a request, and the path in it. Most addresses are a path with a query behind it.
Others name a scheme and a host as well; some of these have no path, and some are refused.
-/

namespace Gatehouse.Web.Address

-- The zero that sums start from is that of the core library, whatever else is imported.
attribute [local instance (2000)] Zero.ofOfNat0

def isMargin (character : Char) : Bool :=
  character.toNat < 33 || character == '\u00a0' || character == '\ufeff'

def trim (address : List Char) : List Char :=
  ((address.dropWhile isMargin).reverse.dropWhile isMargin).reverse

def isMark (character : Char) : Bool :=
  character == '?' || character == '#'

def beforeMarks (text : List Char) : List Char :=
  text.takeWhile fun character => !isMark character

def fromMarks (text : List Char) : List Char :=
  text.dropWhile fun character => !isMark character

def slashed (address : List Char) : List Char :=
  (beforeMarks address).map (fun character => if character == '\\' then '/' else character) ++
    fromMarks address

def isSimple (address : List Char) : Bool :=
  match address with
  | '/' :: '/' :: '/' :: _ => false
  | '/' :: _ =>
      !address.contains '#' && !(beforeMarks address).contains '@' && !address.any Text.isBlank
  | _ => false

def takeScheme (address : List Char) : Option (List Char × List Char) :=
  let isPart (character : Char) : Bool := character.isAlphanum || ".+-".toList.contains character
  match address.takeWhile isPart, address.dropWhile isPart with
  | [], _ => none
  | scheme, ':' :: rest => some (scheme, rest)
  | _, _ => none

def hostSchemes : List String := ["http", "https", "ftp", "gopher", "file", "ws", "wss"]

def scriptScheme : String := "javascript"

def hasLogin : List Char → Bool
  | '/' :: '/' :: rest =>
      let isPart (character : Char) : Bool := character != '@' && character != '/'
      !(rest.takeWhile isPart).isEmpty &&
        match rest.dropWhile isPart with
        | '@' :: first :: _ => isPart first
        | _ => false
  | _ => false

def endsHost (character : Char) : Bool :=
  character == '/' || isMark character

def foreign : List Char := " \"%';<>\\^`\x7b|\x7d".toList

def dropped : List Char := ['\t', '\n', '\r']

def splitLogin (text : List Char) : List Char × List Char :=
  let host := (text.reverse.takeWhile (· != '@')).reverse
  (text.take (text.length - host.length - 1), host)

/-- The host and what follows it; none if the login before it cannot be read. -/
def splitHost (text : List Char) : Option (List Char × List Char) :=
  let front := (text.takeWhile fun character => !endsHost character).filter fun character =>
    !dropped.contains character
  let behind := text.dropWhile fun character => !endsHost character
  let (login, host) := splitLogin front
  let isPart (character : Char) : Bool := !foreign.contains character
  if Text.Percent.isReadable login then
    some (host.takeWhile isPart, host.dropWhile isPart ++ behind)
  else none

def dropPort (host : List Char) : List Char :=
  match host.reverse.dropWhile Char.isDigit with
  | ':' :: rest => rest.reverse
  | _ => host

def isBracketed (host : List Char) : Bool :=
  host.head? == some '[' && host.getLast? == some ']'

/-- The greatest length of the name of a host; a longer one counts as none. -/
def maxHost : Nat := 255

/-- Whether a character is refused in the name of a host: brackets, the null character, and controls
and blanks beyond the basic ones. -/
def isRefused (character : Char) : Bool :=
  ['\x00', '[', ']'].contains character ||
    (0x80 ≤ character.toNat && character.toNat < 0xa0) ||
    (0xa0 ≤ character.toNat && character != '\ufeff' && Text.isBlank character)

/-- Whether the name of a host is refused. One that is made of nothing but marks that are not seen
names nothing. -/
def isRefusedName (name : List Char) : Bool :=
  name.any isRefused || (!name.isEmpty && name.all (· == '\ufeff'))

/-- Whether the address has the name of a host, and what follows the host; none if the name is
refused. -/
def afterHost (text : List Char) : Option (Bool × List Char) := do
  let (host, rest) ← splitHost text
  let host := dropPort host
  let fits (name : List Char) : Bool := (name.map Text.charUnits).sum ≤ maxHost
  if isBracketed host then
    if fits host && host.contains '\x00' then none
    else some (true, if rest.head? == some '/' then rest else '/' :: rest)
  else
    let name := host.takeWhile (· != ':')
    let rest := if name == host then rest else '/' :: host.dropWhile (· != ':') ++ rest
    if !fits name then some (false, rest)
    else if isRefusedName name then none
    else some (!name.isEmpty, rest)

def escaped : List Char := "\t\n\r \"'<>\\^`\x7b|\x7d".toList

def escapeChar (character : Char) : List Char :=
  if escaped.contains character then
    ['%', Nat.digitChar (character.toNat / 16), (Nat.digitChar (character.toNat % 16)).toUpper]
  else [character]

def filled? (text : List Char) : Option (List Char) :=
  match beforeMarks text with
  | [] => none
  | path => some path

def parsedPath? (address : List Char) : Option (List Char) :=
  let address := slashed (trim address)
  if isSimple address then some (address.takeWhile (· != '?'))
  else
    let scheme := takeScheme address
    let rest := (scheme.map Prod.snd).getD address
    let name := (scheme.map fun (name, _) => String.ofList name).getD ""
    let lower := String.ofList (name.toList.map Char.toLower)
    let slashes := (scheme.isSome || hasLogin address) && ['/', '/'].isPrefixOf rest
    if lower == scriptScheme then filled? rest
    else if slashes || (scheme.isSome && !hostSchemes.contains name) then
      match afterHost (if slashes then rest.drop 2 else rest) with
      | none => none
      | some (named, rest) =>
          (filled? (rest.flatMap escapeChar)).orElse fun _ =>
            if named && hostSchemes.contains lower then some ['/'] else none
    else filled? (rest.flatMap escapeChar)

def isOdd (character : Char) : Bool :=
  ['\t', '\n', '\x0c', '\r', ' ', '#', '\u00a0', '\ufeff'].contains character

def path? (address : List Char) : Option (List Char) :=
  match address with
  | '/' :: rest =>
      if rest.any isOdd then parsedPath? address else some (address.takeWhile (· != '?'))
  | _ => parsedPath? address

def splitScheme : List Char → Option (List Char × List Char)
  | [] => none
  | ':' :: '/' :: '/' :: rest => some ([], rest)
  | first :: rest => (splitScheme rest).map fun (front, behind) => (first :: front, behind)

/-- The scheme and the host in front of an address that does not begin with its path. They end at
the next slash; without one nothing is in front. -/
def origin (address : List Char) : List Char :=
  match address with
  | '/' :: _ => []
  | _ =>
      match splitScheme (address.takeWhile (· != '?')) with
      | none => []
      | some (front, _) =>
          let behind := address.drop (front.length + 3)
          if behind.contains '/' then
            address.take (front.length + 3) ++ behind.takeWhile (· != '/')
          else []

/-- An address without so many units of its path. What is left begins with a slash. -/
def below (units : Nat) (address : List Char) : List Char :=
  let front := origin address
  let path := address.drop front.length
  let rest := Text.decodeUnits ((path.flatMap Text.encodeChar).drop units)
  match front, rest with
  | [], '/' :: _ => rest
  | [], _ => '/' :: rest
  | _, _ => front ++ rest

example : path? "/a?b/c".toList = some "/a".toList := by decide +kernel
example : path? "HTTP://u:p@h:80/a b#c".toList = some "/a%20b".toList := by decide +kernel
example : path? "http://h".toList = some "/".toList := by decide +kernel
example : path? "http://%@h/a".toList = none := by decide +kernel
example : below 2 "http://h/a/b".toList = "http://h/b".toList := by decide +kernel
example : below 2 "/a?b".toList = "/?b".toList := by decide +kernel

end Gatehouse.Web.Address
