import Gatehouse.Json.Reader
import Gatehouse.Json.Schema
import Gatehouse.Register.Memory
import Gatehouse.Time.Iso
import Gatehouse.Time.Reading

/-!
# Seeds

A seed is a document that lists users and cards. Missing parts get their usual values, unknown
members are ignored, and a document with any issue is refused as a whole. Dates must meet the
pattern for instants; the instant that they name is taken as it is, valid or not.
-/

namespace Gatehouse.Register

structure Seed where
  users : List UserDetails
  cards : List CardDetails
  deriving DecidableEq

namespace Seed

open Json.Schema

def bound (path : List String) : Option Json → Checked (Option Time.Instant)
  | none | some .null => .ok none
  | some (.text text) =>
      if Time.Iso.isDatetime text then .ok (some (Time.Instant.read text))
      else issue path "Invalid datetime"
  | some _ => issue path "Invalid input"

def user (path : List String) (document : Json) : Checked UserDetails :=
  match document with
  | .object _ =>
      let place (name : String) := path ++ [name]
      let start : Checked _ := .ok UserDetails.mk
      let registration :=
        join start (filledText (place "registration") (document.member? "registration"))
      let name := join registration (textOr "" (place "name") (document.member? "name"))
      let active := join name (truthOr true (place "active") (document.member? "active"))
      let validFrom := join active (bound (place "validFrom") (document.member? "validFrom"))
      let validUntil := join validFrom (bound (place "validUntil") (document.member? "validUntil"))
      let allowCard :=
        join validUntil (truthOr true (place "allowCard") (document.member? "allowCard"))
      let allowBiometric :=
        join allowCard (truthOr false (place "allowBiometric") (document.member? "allowBiometric"))
      let allowKeypad :=
        join allowBiometric (truthOr false (place "allowKeypad") (document.member? "allowKeypad"))
      join allowKeypad (optionalFilledText (place "code") (document.member? "code"))
  | other => mismatch path "object" other

def card (path : List String) (document : Json) : Checked CardDetails :=
  match document with
  | .object _ =>
      let place (name : String) := path ++ [name]
      let start : Checked _ := .ok CardDetails.mk
      let cardNumber := join start (filledText (place "cardNumber") (document.member? "cardNumber"))
      let registration :=
        join cardNumber (filledText (place "registration") (document.member? "registration"))
      let active := join registration (truthOr true (place "active") (document.member? "active"))
      let validFrom := join active (bound (place "validFrom") (document.member? "validFrom"))
      join validFrom (bound (place "validUntil") (document.member? "validUntil"))
  | other => mismatch path "object" other

def ofJson (document : Json) : Checked Seed :=
  match document with
  | .object _ =>
      let start : Checked _ := .ok Seed.mk
      let users := join start (elements user ["users"] (document.member? "users"))
      join users (elements card ["cards"] (document.member? "cards"))
  | other => mismatch [] "object" other

def ofJson? : Option Json → Checked Seed
  | some document => ofJson document
  | none => issue [] "Required"

def toMemory (seed : Seed) : Memory :=
  let withUsers := seed.users.foldl (fun memory details => (memory.addUser details).1) .empty
  seed.cards.foldl (fun memory details => (memory.addCard details none).1) withUsers

def register (document : Json) : Except Fault Memory :=
  match ofJson document with
  | .ok seed => .ok seed.toMemory
  | .error issues => .error (.schema issues)

/-- The register that a file seeds; no text stands for a file that does not exist. -/
def registerOfFile (file : String) (text : Option String) : Except Fault Memory :=
  match text with
  | none => .error .noFile
  | some text =>
      match Json.read text with
      | none => .error (.settings (.seedUnreadable file))
      | some document =>
          match ofJson document with
          | .ok seed => .ok seed.toMemory
          | .error issues => .error (.settings (.seedInvalid file issues))

end Seed

end Gatehouse.Register
