import Gatehouse.Number.Basic

/-!
# Capacities

How many things a list keeps when more and more are added.
-/

namespace Gatehouse

inductive Capacity where
  | unlimited
  | atMost (count : Nat)
  deriving DecidableEq

namespace Capacity

/-- The capacity that a number means; at least the minimum, a fraction counting as a whole. -/
def ofNumber (minimum : Nat) : Number → Capacity
  | .finite value => .atMost (max minimum value.ceil.toNat)
  | .infinite true => .atMost minimum
  | _ => .unlimited

def keepLast {α : Type} (capacity : Capacity) (items : List α) : List α :=
  match capacity with
  | .unlimited => items
  | .atMost count => items.drop (items.length - count)

end Capacity

end Gatehouse
