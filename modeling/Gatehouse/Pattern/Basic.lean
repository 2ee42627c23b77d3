import Gatehouse.Text.Blank
import Gatehouse.Text.Units
import Gatehouse.Text.UpperCase

/-!
# Patterns

Patterns of texts: what they are made of, and when two units of a text count as the same letter. A
text is seen as its sixteen-bit units, and letter case never matters.
-/

namespace Gatehouse

namespace Pattern

inductive Kind where
  | digit
  | blank
  | word
  deriving DecidableEq

inductive Item where
  | range (first last : Nat)
  | every (kind : Kind) (negated : Bool)
  deriving DecidableEq

end Pattern

/-- A pattern. An assertion looks at a place and takes nothing; a repetition takes as much as it can
or as little as it must. -/
inductive Pattern where
  | nothing
  | unit (code : Nat)
  | anything
  | oneOf (negated : Bool) (items : List Pattern.Item)
  | start
  | stop
  | edge (negated : Bool)
  | group (number : Nat) (inner : Pattern)
  | again (number : Nat)
  | look (ahead negated : Bool) (inner : Pattern)
  | times (least : Nat) (most : Option Nat) (greedy : Bool) (inner : Pattern)
  | sequence (first second : Pattern)
  | choice (first second : Pattern)
  deriving DecidableEq

namespace Pattern

def groups : Pattern → List Nat
  | .group number inner => number :: inner.groups
  | .look _ _ inner | .times _ _ _ inner => inner.groups
  | .sequence first second | .choice first second => first.groups ++ second.groups
  | _ => []

def takes : Pattern → Bool
  | .unit _ | .anything | .oneOf .. | .again _ => true
  | .nothing | .start | .stop | .edge _ | .look .. => false
  | .group _ inner => inner.takes
  | .times _ most _ inner => most != some 0 && inner.takes
  | .sequence first second | .choice first second => first.takes || second.takes

def upperUnit? (code : Nat) : Option Nat :=
  if 0xd800 ≤ code && code < 0xe000 then none
  else
    match Text.upperChar (Char.ofNat code) with
    | [upper] => if upper.toNat < 0x10000 then some upper.toNat else none
    | _ => none

/-- The unit that stands for all units of its letter. No other unit stands for one of the basic
alphabet. -/
def fold (code : Nat) : Nat :=
  match upperUnit? code with
  | some upper => if 0x80 ≤ code && upper < 0x80 then code else upper
  | none => code

def variants (folded : Nat) : List Nat :=
  let below := Text.upperRuns.map fun (_, _, _, distance) => ((folded : Int) - distance).toNat
  folded :: below.filter fun code => fold code == folded

def isWordUnit (code : Nat) : Bool :=
  let character := Char.ofNat code
  character.isAlphanum || character == '_'

def Kind.holds (code : Nat) : Kind → Bool
  | .digit => (Char.ofNat code).isDigit
  | .blank => Text.isBlank (Char.ofNat code)
  | .word => isWordUnit code

def Item.holds (code : Nat) : Item → Bool
  | .range first last => first ≤ code && code ≤ last
  | .every kind negated => kind.holds code != negated

def classHolds (items : List Item) (code : Nat) : Bool :=
  items.any (Item.holds code) ||
    (variants (fold code)).any fun variant => items.any (Item.holds variant)

def lineEnds : List Nat := [0x0a, 0x0d, 0x2028, 0x2029]

example : fold 'k'.toNat = 'K'.toNat := by decide +kernel
example : fold 'ſ'.toNat = 'ſ'.toNat := by decide +kernel
example : classHolds [.range 'a'.toNat 'f'.toNat] 'B'.toNat = true := by decide +kernel
example : classHolds [.range 'ǆ'.toNat 'ǆ'.toNat] 'ǅ'.toNat = true := by decide +kernel

end Pattern

end Gatehouse
