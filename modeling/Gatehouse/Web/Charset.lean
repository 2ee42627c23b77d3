import Gatehouse.Text.Base64
import Gatehouse.Text.Units
import Gatehouse.Text.UpperCase
import Gatehouse.Text.Utf8

/-!
# Encodings of content

The encodings in which the content of a request can be written, and the units that bytes spell in
them. In the two encodings for mail most bytes stand for themselves, and behind a mark come letters
for the bytes of units; a hyphen or any byte that is no letter ends them. In front of the units a
mark of their order may stand, which is dropped.
-/

namespace Gatehouse.Web

inductive Charset where
  | utf8
  | utf16
  | utf16Low
  | utf16High
  | utf7
  | utf7Mailbox
  deriving DecidableEq

namespace Charset

def table : List (String × Charset) := [
  ("utf8", .utf8), ("utf16", .utf16), ("utf16le", .utf16Low), ("utf16be", .utf16High),
  ("utf7", .utf7), ("utf7imap", .utf7Mailbox)]

def dropYear (name : List Char) : List Char :=
  match name.reverse with
  | fourth :: third :: second :: first :: ':' :: rest =>
      if [first, second, third, fourth].all Char.isDigit then rest.reverse else name
  | _ => name

/-- The encoding with a name in lower case; only its letters and digits count. -/
def ofName? (name : String) : Option Charset :=
  table.lookup (String.ofList ((dropYear name.toList).filter Char.isAlphanum))

def orderMark : Nat := 0xfeff

def dropMark : List Nat → List Nat
  | [] => []
  | first :: rest => if first = orderMark then rest else first :: rest

def unitsHigh : Bytes → List Nat
  | high :: low :: rest => (high.toNat * 256 + low.toNat) :: unitsHigh rest
  | _ => []

def unitsLow : Bytes → List Nat
  | low :: high :: rest => (high.toNat * 256 + low.toNat) :: unitsLow rest
  | _ => []

def sample : Nat := 64

/-- Whether each unit seems to have its higher byte first: the mark of their order says so, or where
there is none, more of them are basic characters that way than the other way round. -/
def looksHigh (bytes : Bytes) : Bool :=
  let basic (units : List Nat) : Nat := (units.filter fun unit => 0 < unit && unit < 256).length
  if (unitsHigh bytes).head? = some orderMark then true
  else if (unitsLow bytes).head? = some orderMark then false
  else basic (unitsLow (bytes.take sample)) < basic (unitsHigh (bytes.take sample))

def plainUnit (byte : UInt8) : Nat :=
  if byte < 0x80 then byte.toNat else 0xfffd

def lettered (letters : List Char) : List Nat :=
  dropMark (unitsHigh (Text.Base64.decode letters))

/-- An encoding for mail: the mark in front of letters, and the letters that stand for others. -/
structure Mail where
  mark : Char
  standIns : List (Char × Char)
  deriving DecidableEq

namespace Mail

def message : Mail := { mark := '+', standIns := [] }

def mailbox : Mail := { mark := '&', standIns := [(',', '/')] }

def letter? (mail : Mail) (byte : UInt8) : Option Char :=
  let character := Char.ofNat byte.toNat
  let letter := (mail.standIns.lookup character).getD character
  if (Text.Base64.value? letter).isSome then some letter else none

def takeLetters (mail : Mail) : Bytes → List Char × Bytes
  | [] => ([], [])
  | byte :: rest =>
      match mail.letter? byte with
      | some letter =>
          let (letters, behind) := mail.takeLetters rest
          (letter :: letters, behind)
      | none => ([], byte :: rest)

def group : Nat := 8

/-- The units of bytes, in a number of steps, and those of the letters at the very end that make up
no whole group. -/
def units (mail : Mail) : Nat → Bytes → List Nat × List Nat
  | 0, _ | _, [] => ([], [])
  | steps + 1, byte :: rest =>
      let mark := mail.mark.toNat
      let after (front : List Nat) (behind : Bytes) : List Nat × List Nat :=
        let (units, last) := mail.units steps behind
        (front ++ units, last)
      if byte.toNat = mark then
        match mail.takeLetters rest with
        | (letters, []) =>
            let whole := letters.length / group * group
            (lettered (letters.take whole), lettered (letters.drop whole))
        | (letters, next :: behind) =>
            if next.toNat = '-'.toNat then
              after (if letters.isEmpty then [mark] else lettered letters) behind
            else after (lettered letters) (next :: behind)
      else after [plainUnit byte] rest

def decode (mail : Mail) (bytes : Bytes) : List Nat :=
  let (units, last) := mail.units bytes.length bytes
  dropMark units ++ last

end Mail

def units (charset : Charset) (bytes : Bytes) : List Nat :=
  match charset with
  | .utf8 => dropMark ((Text.Utf8.decode bytes).flatMap Text.encodeChar)
  | .utf16 => dropMark (if looksHigh bytes then unitsHigh bytes else unitsLow bytes)
  | .utf16Low => dropMark (unitsLow bytes)
  | .utf16High => dropMark (unitsHigh bytes)
  | .utf7 => Mail.message.decode bytes
  | .utf7Mailbox => Mail.mailbox.decode bytes

def decode (charset : Charset) (bytes : Bytes) : List Char :=
  Text.decodeUnits (charset.units bytes)

example : ofName? "utf-16le:2000" = some .utf16Low := by decide +kernel
example : decode .utf7 (Text.Utf8.encode "a+AEI-+-+AEI") = "aB+B".toList := by decide +kernel
example : decode .utf16 [0xfe, 0xff, 0x00, 0x61] = "a".toList := by decide +kernel

end Charset

end Gatehouse.Web
