import Gatehouse.Json.Value
import Gatehouse.Number.Text

/-!
# Members of documents

Looking up members of a document as values of their kind. A member that is null counts as missing,
and something stands in for a missing member. Documents have no numbers without digits, so words
stand for these.
-/

namespace Gatehouse.Json

def ofNumber : Number → Json
  | .finite value => .number (.finite value)
  | other => .text other.text

def toNumber : Json → Number
  | .number value => value
  | .text "Infinity" => .infinite false
  | .text "-Infinity" => .infinite true
  | _ => .nan

def ofInt (value : Int) : Json :=
  .number (.ofInt value)

def toInt (document : Json) : Int :=
  document.toNumber.toInt?.getD 0

def ofOption {α : Type} (write : α → Json) : Option α → Json
  | some value => write value
  | none => .null

def texts (values : List String) : Json :=
  .array (values.map Json.text)

def elements : Json → List Json
  | .array elements => elements
  | _ => []

def members : Json → List (String × Json)
  | .object members => members
  | _ => []

def given? (document : Json) (name : String) : Option Json :=
  match document.member? name with
  | some .null | none => none
  | some value => some value

def partAt (document : Json) (name : String) : Json :=
  (document.given? name).getD (.object [])

def textAt? (document : Json) (name : String) : Option String :=
  (document.given? name).bind text?

def textAt (document : Json) (name : String) : String :=
  (document.textAt? name).getD ""

def truthAt (document : Json) (name : String) (fallback : Bool) : Bool :=
  ((document.given? name).bind truth?).getD fallback

def flagAt (document : Json) (name : String) : Bool :=
  document.truthAt name false

/-- Whether a value counts as true where a truth value is asked for: all but false, zero, the empty
text and null do. -/
def isTruthy : Json → Bool
  | .null => false
  | .truth value => value
  | .number value => value != .finite 0 && value != .nan
  | .text value => !value.isEmpty
  | .array _ | .object _ => true

def isTruthyAt (document : Json) (name : String) : Bool :=
  (document.member? name).any isTruthy

def numberAt (document : Json) (name : String) (fallback : Number) : Number :=
  ((document.given? name).map toNumber).getD fallback

def elementsAt (document : Json) (name : String) : List Json :=
  (document.partAt name).elements

def textsAt (document : Json) (name : String) : List String :=
  (document.elementsAt name).filterMap text?

def textMembers (document : Json) : List (String × String) :=
  document.members.filterMap fun (name, value) => value.text?.map fun text => (name, text)

@[simp] theorem toNumber_ofNumber (number : Number) : (ofNumber number).toNumber = number := by
  cases number with
  | nan => rfl
  | finite value => rfl
  | infinite negative => cases negative <;> rfl

@[simp] theorem toInt_ofInt (value : Int) : (ofInt value).toInt = value := by
  simp [ofInt, toInt, toNumber]

end Gatehouse.Json
