import Gatehouse.Json.Writer

/-!
# The order of members

A document that is kept has each member once: where a name is repeated its last value stands at its
first place. Members whose names are places of a list come first, in the order of the places; all
others keep the order in which they appeared.
-/

namespace Gatehouse.Json

def lastPlace : Nat := 4294967294

/-- The place that a name is: a number in digits, without zeros in front. -/
def placeOf? (name : String) : Option Nat :=
  match name.toList with
  | ['0'] => some 0
  | '0' :: _ | [] => none
  | digits =>
      if digits.all Char.isDigit then
        let place := digits.foldl (fun place digit => place * 10 + (digit.toNat - '0'.toNat)) 0
        if place ≤ lastPlace then some place else none
      else none

def keep (members : List (String × Json)) (member : String × Json) : List (String × Json) :=
  if members.any fun other => other.1 == member.1 then
    members.map fun other => if other.1 == member.1 then member else other
  else members ++ [member]

def insertPlaced (place : Nat) (member : String × Json) :
    List (Nat × String × Json) → List (Nat × String × Json)
  | [] => [(place, member)]
  | (other, held) :: rest =>
      if place < other then (place, member) :: (other, held) :: rest
      else (other, held) :: insertPlaced place member rest

def placed : List (String × Json) → List (Nat × String × Json)
  | [] => []
  | member :: rest =>
      match placeOf? member.1 with
      | some place => insertPlaced place member (placed rest)
      | none => placed rest

def settle (members : List (String × Json)) : List (String × Json) :=
  let kept := members.foldl keep []
  (placed kept).map Prod.snd ++ kept.filter fun member => (placeOf? member.1).isNone

mutual

def settled : Json → Json
  | .array elements => .array (settledElements elements)
  | .object members => .object (settle (settledMembers members))
  | other => other

def settledElements : List Json → List Json
  | [] => []
  | value :: rest => settled value :: settledElements rest

def settledMembers : List (String × Json) → List (String × Json)
  | [] => []
  | (name, value) :: rest => (name, settled value) :: settledMembers rest

end

example : write (settled (.object [("b", .null), ("10", .null), ("9", .null), ("b", .count 1)])) =
    "\x7b\"9\":null,\"10\":null,\"b\":1\x7d" := by decide +kernel

end Gatehouse.Json
