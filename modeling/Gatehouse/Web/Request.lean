import Gatehouse.Text.UpperCase
import Gatehouse.Text.Utf8

/-!
# Requests to the web interface

A request as it comes in: how it asks, at which address, with which headers and which content.
Letter case in the names of headers does not matter. Several headers with one name count as one:
those that can have one value only have the first, and the others have all, separated by commas.
What is served does not depend on letter case in the way of asking either; how an answer is sent
does.
-/

namespace Gatehouse.Web

inductive Method where
  | get
  | head
  | post
  | options
  | other
  deriving DecidableEq

namespace Method

def name : Method → String
  | .get => "GET"
  | .head => "HEAD"
  | .post => "POST"
  | .options => "OPTIONS"
  | .other => ""

def ofName (name : String) : Method :=
  ([get, head, post, options].find? fun method => method.name == name).getD .other

end Method

abbrev Headers := List (String × String)

namespace Headers

def singular : List String := [
  "age", "authorization", "content-length", "content-type", "etag", "expires", "from", "host",
  "if-modified-since", "if-unmodified-since", "last-modified", "location", "max-forwards",
  "proxy-authorization", "referer", "retry-after", "server", "user-agent"]

def find? (headers : Headers) (name : String) : Option String :=
  match headers.filter fun header => Text.lowerBasic header.1 == name with
  | [] => none
  | first :: others =>
      some (if singular.contains name then first.2
        else ", ".intercalate (first.2 :: others.map Prod.snd))

def filled? (headers : Headers) (name : String) : Option String :=
  (headers.find? name).filter fun text => !text.isEmpty

def complete (headers : Headers) (name value : String) : Headers :=
  if (headers.find? name).isSome then headers else headers ++ [(name, value)]

end Headers

/-- The content of a request. What can be unpacked from it, in the way that the headers name, is not
worked out here: `unpacked` is what came out before the end or a flaw, and `whole` says which it
was. -/
structure Content where
  bytes : Bytes
  unpacked : Bytes
  whole : Bool
  deriving DecidableEq

/-- Content that is a text. Nothing can be unpacked from it. -/
def Content.ofText (text : String) : Content :=
  { bytes := Text.Utf8.encode text, unpacked := [], whole := false }

structure Request where
  method : String
  address : String
  headers : Headers
  content : Option Content
  deriving DecidableEq

namespace Request

def asked (request : Request) : Method :=
  .ofName (String.ofList (request.method.toList.map Char.toUpper))

def spelled (request : Request) : Method :=
  .ofName request.method

/-- A request whose headers say what its content is and how long, unless they say it already. -/
def described (request : Request) : Request :=
  match request.content with
  | none => request
  | some content =>
      { request with
        headers :=
          (request.headers.complete "content-type" "application/json").complete "content-length"
            (toString content.bytes.length) }

end Request

example : Headers.find? [("A", "1"), ("b", "2"), ("a", "3")] "a" = some "1, 3" := by decide +kernel
example : (Request.mk "get" "/" [] none).asked = .get := by decide +kernel
example : (Request.mk "get" "/" [] none).spelled = .other := by decide +kernel

end Gatehouse.Web
