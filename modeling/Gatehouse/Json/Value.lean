import Gatehouse.Number.Basic

/-!
# Documents

The values of data documents, with the members of an object in their order of appearance. Looking
up a member takes the last one of its name.
-/

namespace Gatehouse

inductive Json where
  | null
  | truth (value : Bool)
  | number (value : Number)
  | text (value : String)
  | array (elements : List Json)
  | object (members : List (String × Json))

namespace Json

mutual

def decEq : (left right : Json) → Decidable (left = right)
  | .null, .null => isTrue rfl
  | .truth left, .truth right => decidable_of_iff (left = right) (by simp)
  | .number left, .number right => decidable_of_iff (left = right) (by simp)
  | .text left, .text right => decidable_of_iff (left = right) (by simp)
  | .array left, .array right =>
      have := decEqElements left right
      decidable_of_iff (left = right) (by simp)
  | .object left, .object right =>
      have := decEqMembers left right
      decidable_of_iff (left = right) (by simp)
  | .null, .truth _ | .null, .number _ | .null, .text _ | .null, .array _ | .null, .object _
  | .truth _, .null | .truth _, .number _ | .truth _, .text _ | .truth _, .array _
  | .truth _, .object _ | .number _, .null | .number _, .truth _ | .number _, .text _
  | .number _, .array _ | .number _, .object _ | .text _, .null | .text _, .truth _
  | .text _, .number _ | .text _, .array _ | .text _, .object _ | .array _, .null
  | .array _, .truth _ | .array _, .number _ | .array _, .text _ | .array _, .object _
  | .object _, .null | .object _, .truth _ | .object _, .number _ | .object _, .text _
  | .object _, .array _ => isFalse nofun

def decEqElements : (left right : List Json) → Decidable (left = right)
  | [], [] => isTrue rfl
  | left :: lefts, right :: rights =>
      have := decEq left right
      have := decEqElements lefts rights
      decidable_of_iff (left = right ∧ lefts = rights) (by simp)
  | [], _ :: _ | _ :: _, [] => isFalse nofun

def decEqMembers : (left right : List (String × Json)) → Decidable (left = right)
  | [], [] => isTrue rfl
  | (leftName, left) :: lefts, (rightName, right) :: rights =>
      have := decEq left right
      have := decEqMembers lefts rights
      decidable_of_iff (leftName = rightName ∧ left = right ∧ lefts = rights)
        (by simp [and_assoc])
  | [], _ :: _ | _ :: _, [] => isFalse nofun

end

instance : DecidableEq Json := decEq

def member? (document : Json) (name : String) : Option Json :=
  match document with
  | .object members => (members.reverse.find? fun member => member.1 == name).map Prod.snd
  | _ => none

def text? : Json → Option String
  | .text value => some value
  | _ => none

def truth? : Json → Option Bool
  | .truth value => some value
  | _ => none

def count (value : Nat) : Json :=
  .number (.ofNat value)

def optionalMember (name : String) (value : Option Json) : List (String × Json) :=
  match value with
  | some value => [(name, value)]
  | none => []

example : (Json.object [("a", .null), ("a", .truth true)]).member? "a" = some (.truth true) := rfl

end Json

end Gatehouse
