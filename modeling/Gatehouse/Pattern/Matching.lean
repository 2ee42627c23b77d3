import Gatehouse.Pattern.Basic

/-!
# Matching patterns

Where a pattern matches a text. The ways to match are tried in order, and each is followed by what
has to match next, until one of them succeeds as a whole. A pattern that looks back is matched from
its end to its beginning.
-/

namespace Gatehouse.Pattern

structure Place where
  position : Nat
  taken : Array (Option (Nat × Nat))
  deriving DecidableEq

namespace Place

def taken? (place : Place) (number : Nat) : Option (Nat × Nat) :=
  place.taken[number - 1]?.join

def forget (place : Place) (numbers : List Nat) : Place :=
  let erase (taken : Array (Option (Nat × Nat))) (number : Nat) : Array (Option (Nat × Nat)) :=
    taken.setIfInBounds (number - 1) none
  { place with taken := numbers.foldl erase place.taken }

def note (place : Place) (number left right : Nat) : Place :=
  let span := (min left right, max left right)
  { place with taken := place.taken.setIfInBounds (number - 1) (some span) }

end Place

abbrev Next := Place → Option Place

def takeUnit (text : Array Nat) (ahead : Bool) (test : Nat → Bool) (place : Place) (next : Next) :
    Option Place :=
  if ahead then
    match text[place.position]? with
    | some code =>
        if test code then next { place with position := place.position + 1 } else none
    | none => none
  else
    match place.position with
    | 0 => none
    | before + 1 =>
        if (text[before]?.any test) then next { place with position := before } else none

def takeUnits (text : Array Nat) (ahead : Bool) : List Nat → Next → Next
  | [], next, place => next place
  | code :: rest, next, place =>
      takeUnit text ahead (fun other => fold other == fold code) place fun after =>
        takeUnits text ahead rest next after

def isEdge (text : Array Nat) (position : Nat) : Bool :=
  let before := 0 < position && text[position - 1]?.any isWordUnit
  before != text[position]?.any isWordUnit

/-- Repeats a step within bounds, in a number of rounds. What is repeated without need has to move
on. -/
def iterate (step : Place → Next → Option Place) (numbers : List Nat) (greedy : Bool) :
    Nat → Nat → Option Nat → Place → Next → Option Place
  | 0, _, _, _, _ => none
  | rounds + 1, least, most, place, next =>
      if most = some 0 then next place
      else
        let more (_ : Unit) : Option Place :=
          step (place.forget numbers) fun after =>
            if least = 0 && after.position = place.position then none
            else iterate step numbers greedy rounds (least - 1) (most.map (· - 1)) after next
        if 0 < least then more ()
        else if greedy then (more ()).orElse fun _ => next place
        else (next place).orElse more

def run (text : Array Nat) : Bool → Pattern → Place → Next → Option Place
  | _, .nothing, place, next => next place
  | ahead, .unit code, place, next =>
      takeUnit text ahead (fun other => fold other == fold code) place next
  | ahead, .anything, place, next =>
      takeUnit text ahead (fun code => !lineEnds.contains code) place next
  | ahead, .oneOf negated items, place, next =>
      takeUnit text ahead (fun code => classHolds items code != negated) place next
  | _, .start, place, next => if place.position = 0 then next place else none
  | _, .stop, place, next => if place.position = text.size then next place else none
  | _, .edge negated, place, next =>
      if isEdge text place.position != negated then next place else none
  | ahead, .group number inner, place, next =>
      run text ahead inner place fun after =>
        next (after.note number place.position after.position)
  | ahead, .again number, place, next =>
      match place.taken? number with
      | none => next place
      | some (first, last) =>
          let units := (text.extract first last).toList
          takeUnits text ahead (if ahead then units else units.reverse) next place
  | _, .look ahead negated inner, place, next =>
      match run text ahead inner place some with
      | some after => if negated then none else next { after with position := place.position }
      | none => if negated then next place else none
  | ahead, .times least most greedy inner, place, next =>
      iterate (fun place next => run text ahead inner place next) inner.groups greedy
        (least + text.size + 2) least most place next
  | ahead, .sequence first second, place, next =>
      if ahead then run text ahead first place fun after => run text ahead second after next
      else run text ahead second place fun after => run text ahead first after next
  | ahead, .choice first second, place, next =>
      (run text ahead first place next).orElse fun _ => run text ahead second place next

structure Match where
  first : Nat
  whole : List Nat
  groups : List (Option (List Nat))
  deriving DecidableEq

/-- Matches a pattern from one of the last positions of a text on; so many are left to try. -/
def findFrom (pattern : Pattern) (count : Nat) (text : Array Nat) : Nat → Option Match
  | 0 => none
  | left + 1 =>
      let first := text.size - left
      let place : Place := { position := first, taken := Array.replicate count none }
      match run text true pattern place some with
      | none => findFrom pattern count text left
      | some place =>
          some {
            first := first
            whole := (text.extract first place.position).toList
            groups := place.taken.toList.map fun taken =>
              taken.map fun (first, last) => (text.extract first last).toList }

def find (pattern : Pattern) (text : List Nat) : Option Match :=
  findFrom pattern pattern.groups.length text.toArray (text.length + 1)

end Gatehouse.Pattern
