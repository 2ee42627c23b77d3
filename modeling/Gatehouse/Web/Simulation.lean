import Gatehouse.Access.Payload
import Gatehouse.Json.Schema
import Gatehouse.Number.Reading
import Gatehouse.Time.Iso
import Gatehouse.Time.Reading

/-!
# Simulated requests

The web interface takes a document in place of a reader's message. The document is checked as a
whole, and every issue is reported. The device is read as a number out of almost anything; the
other parts must have their kinds.
-/

namespace Gatehouse.Web

open Json.Schema

structure Simulation where
  device : Number
  credential : String
  direction : Access.Direction
  reader : Access.Reader
  timestamp : Option Time.Instant
  deriving DecidableEq

namespace Simulation

mutual

/-- The text that a value stands for where a number is sought: an array is its elements with commas
between them, and an object has no readable text. -/
def looseText : Json → String
  | .null => "null"
  | .truth true => "true"
  | .truth false => "false"
  | .number value => value.text
  | .text value => value
  | .array elements => looseElements elements
  | .object _ => "[object Object]"

/-- The texts of elements with commas between them; a missing element has none. -/
def looseElements : List Json → String
  | [] => ""
  | [.null] => ""
  | [value] => looseText value
  | .null :: rest => "," ++ looseElements rest
  | value :: rest => looseText value ++ "," ++ looseElements rest

end

def looseNumber : Option Json → Number
  | none => .nan
  | some .null | some (.truth false) => .finite 0
  | some (.truth true) => .finite 1
  | some (.number value) => value
  | some (.text value) => .ofText value
  | some (.array elements) => .ofText (looseElements elements)
  | some (.object _) => .nan

def wholeNumber (path : List String) (value : Option Json) : Checked Number :=
  match looseNumber value with
  | .nan => issue path "Expected number, received nan"
  | number =>
      if number.toInt?.isSome then .ok number
      else issue path "Expected integer, received float"

def trimmedText (path : List String) (value : Option Json) : Checked String :=
  filledText path (value.map fun
    | .text text => .text (Text.trim text)
    | other => other)

def wordsText (words : List String) : String :=
  " | ".intercalate (words.map fun word => "'" ++ word ++ "'")

def wordOr {α : Type} (fallback : α) (words : List (String × α)) (path : List String) :
    Option Json → Checked α
  | none => .ok fallback
  | some (.text text) =>
      match words.lookup text with
      | some value => .ok value
      | none =>
          issue path ("Invalid enum value. Expected " ++ wordsText (words.map Prod.fst) ++
            ", received '" ++ text ++ "'")
  | some other => mismatch path (wordsText (words.map Prod.fst)) other

def directions : List (String × Access.Direction) :=
  Access.Direction.all.map fun direction => (direction.name, direction)

def readers : List (String × Access.Reader) :=
  Access.Reader.all.map fun reader => (reader.name, reader)

def optionalTime (path : List String) : Option Json → Checked (Option Time.Instant)
  | none => .ok none
  | some (.text text) =>
      if Time.Iso.isDatetime text then .ok (some (Time.Instant.read text))
      else issue path "Invalid datetime"
  | some other => mismatch path "string" other

def ofJson (document : Json) : Checked Simulation :=
  match document with
  | .object _ =>
      let start : Checked _ := .ok Simulation.mk
      let device := join start (wholeNumber ["deviceId"] (document.member? "deviceId"))
      let credential := join device (trimmedText ["credential"] (document.member? "credential"))
      let direction :=
        join credential (wordOr .unknown directions ["direction"] (document.member? "direction"))
      let reader :=
        join direction (wordOr .card readers ["readerType"] (document.member? "readerType"))
      join reader (optionalTime ["timestamp"] (document.member? "timestamp"))
  | other => mismatch [] "object" other

/-- The device and the request that a simulation means; without a time of its own it is made
now. -/
def request (simulation : Simulation) (now : Time.Instant) :
    Except Fault (Device × Access.Request) := do
  let device ← Device.ofNumber simulation.device
  let credential ← Access.readCredential Access.credentialPlace simulation.credential
  return (device,
    { credential := credential, timestamp := simulation.timestamp.getD now
      direction := simulation.direction, reader := simulation.reader })

end Simulation

end Gatehouse.Web
