import Gatehouse.Json.Reader
import Gatehouse.Number.Reading
import Gatehouse.Text.UpperCase
import Gatehouse.Web.Charset
import Gatehouse.Web.Request

/-!
# The content of requests

The document that a request carries, or why its content is refused. A request without content, or
with content of another type, carries an empty document. Content is refused, in this order, for an
encoding that cannot be a text, for being packed in an unknown way, for a size that is too large,
for an unknown encoding, for another size than announced, and for not being a document.
-/

namespace Gatehouse.Web

/-!
## The type of content

The header that says what the content of a request is: a media type, and parameters behind
semicolons. Only spaces may stand around the signs. A header whose parameters are not well formed
names no type.
-/

structure ContentType where
  media : String
  parameters : List (String × String)
  deriving DecidableEq

namespace ContentType

def isTokenChar (character : Char) : Bool :=
  character.isAlphanum || "!#$%&'*+-.^_`|~".toList.contains character

def dropSpaces (text : List Char) : List Char :=
  text.dropWhile (· == ' ')

def isQuotable (character : Char) : Bool :=
  let code := character.toNat
  (0x20 ≤ code && code ≤ 0x7e) || (0x80 ≤ code && code ≤ 0xff)

def isEscapable (character : Char) : Bool :=
  0x20 ≤ character.toNat && character.toNat ≤ 0x7e

def takeQuoted : List Char → List Char → Option (List Char × List Char)
  | _, [] => none
  | taken, '"' :: rest => some (taken.reverse, rest)
  | taken, '\\' :: escaped :: rest =>
      if isEscapable escaped then takeQuoted (escaped :: taken) rest else none
  | taken, character :: rest =>
      if isQuotable character && character != '\\' then takeQuoted (character :: taken) rest
      else none

def takeValue : List Char → Option (List Char × List Char)
  | '"' :: rest => takeQuoted [] rest
  | text =>
      match text.takeWhile isTokenChar with
      | [] => none
      | word => some (word, text.dropWhile isTokenChar)

def takeParameter (text : List Char) : Option ((String × String) × List Char) := do
  let text := dropSpaces text
  let name := text.takeWhile isTokenChar
  if name.isEmpty then none
  else
    match dropSpaces (text.dropWhile isTokenChar) with
    | '=' :: rest =>
        let (value, rest) ← takeValue (dropSpaces rest)
        return ((Text.lowerBasic (String.ofList name), String.ofList value), dropSpaces rest)
    | _ => none

def takeParameters : Nat → List Char → Option (List (String × String))
  | _, [] => some []
  | budget + 1, ';' :: rest => do
      let (parameter, rest) ← takeParameter rest
      return parameter :: (← takeParameters budget rest)
  | _, _ => none

def read (header : String) : Option ContentType := do
  let text := header.toList
  let media := text.takeWhile (· != ';')
  let parameters ← takeParameters text.length (text.dropWhile (· != ';'))
  return {
    media := Text.lowerBasic (String.ofList (dropSpaces (dropSpaces media).reverse).reverse)
    parameters := parameters }

def isJson (type : ContentType) : Bool :=
  type.media == "application/json"

/-- The name of the encoding of the content, in lower case. The last one counts, and where none is
named it is the usual one. -/
def charset (type : ContentType) : String :=
  match (type.parameters.reverse.lookup "charset").filter fun name => !name.isEmpty with
  | some name => Text.lowerBasic name
  | none => "utf-8"

example : (read "Application/JSON ; charset=\"UTF\\-8\"").map
    (fun type => (type.isJson, type.charset)) = some (true, "utf-8") := by decide +kernel
example : read "application/json;" = none := by decide +kernel
example : read "application/json; a=\"\t\"" = none := by decide +kernel

end ContentType

/-! ## What content holds -/

inductive ContentFlaw where
  | encoding
  | tooLarge
  | unreadable
  deriving DecidableEq

def ContentFlaw.status : ContentFlaw → Nat
  | .encoding => 415
  | .tooLarge => 413
  | .unreadable => 400

def maxContent : Nat := 65536

def emptyContent : Json := .object []

def readDocument (content : List Char) : Except ContentFlaw Json :=
  if content.isEmpty then .ok emptyContent
  else
    match Json.skipSpace content with
    | '{' :: _ | '[' :: _ =>
        match Json.read (String.ofList content) with
        | some document => .ok document
        | none => .error .unreadable
    | _ => .error .unreadable

inductive Packing where
  | plain
  | packed
  | unknown
  deriving DecidableEq

namespace Request

def hasContent (request : Request) : Bool :=
  (request.headers.find? "transfer-encoding").isSome ||
    (request.headers.find? "content-length").any fun length => Number.ofText length != .nan

def announced? (request : Request) : Option Number :=
  ((request.headers.find? "content-length").filter fun length =>
    Number.ofText length != .nan).map Number.leadingInteger

def packing (request : Request) : Packing :=
  match (request.headers.filled? "content-encoding").map Text.lowerBasic with
  | none | some "identity" => .plain
  | some "gzip" | some "deflate" => .packed
  | some _ => .unknown

def type? (request : Request) : Option ContentType :=
  (request.headers.find? "content-type").bind ContentType.read

/-- The bytes of content as they were before it was packed, and whether they are all there. -/
def plain (request : Request) : Bytes × Bool :=
  match request.content, request.packing with
  | none, packing => ([], packing != .packed)
  | some content, .packed => (content.unpacked, content.whole)
  | some content, _ => (content.bytes, true)

def readAs (request : Request) (charset : String) : Except ContentFlaw Json := do
  let (bytes, whole) := request.plain
  let announced := if request.packing = .plain then request.announced? else none
  if request.packing = .unknown then throw .encoding
  if announced.any fun announced => Number.lt (.ofNat maxContent) announced then throw .tooLarge
  let some charset := Charset.ofName? charset | throw .encoding
  if maxContent < bytes.length then throw .tooLarge
  if !whole then throw .unreadable
  if announced.any fun announced => announced != .ofNat bytes.length then throw .unreadable
  readDocument (charset.decode bytes)

def document (request : Request) : Except ContentFlaw Json :=
  if !request.hasContent then .ok emptyContent
  else
    match request.type? with
    | none => .ok emptyContent
    | some type =>
        if !type.isJson then .ok emptyContent
        else if !"utf-".toList.isPrefixOf type.charset.toList then .error .encoding
        else request.readAs type.charset

end Request

end Gatehouse.Web
