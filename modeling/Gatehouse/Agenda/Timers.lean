import Gatehouse.Number.Basic
import Gatehouse.Time.Instant

/-!
# Clocks and timers

Timers are a table of things that are due at fixed times. The table is kept in the order in which
they fire: by due time, and at equal times in the order in which they were set.
-/

namespace Gatehouse.Agenda

/-!
## Clocks

A clock says what time it is. Its stamp orders things that happen at one time, so that timers of
different tables can be merged. A clock may stand between two milliseconds, though instants never
do.
-/

structure Clock where
  now : Rat
  stamp : Nat
  deriving DecidableEq

namespace Clock

/-- The time a span after a time, as far as binary64 values tell times apart; a span that is no
finite number changes nothing. -/
def shift (now : Rat) (span : Number) : Rat :=
  match span with
  | .finite value =>
      match Number.nearest (now + value) with
      | .finite later => later
      | _ => now
  | _ => now

def instant (clock : Clock) : Time.Instant :=
  .ofMillis (Number.truncate clock.now)

def tick (clock : Clock) : Clock :=
  { clock with stamp := clock.stamp + 1 }

def later (clock : Clock) (span : Number) : Clock :=
  { clock.tick with now := shift clock.now span }

example : shift 100 (.finite (mkRat (-1) 4)) = mkRat 399 4 := by decide +kernel
example : instant ⟨mkRat 403 4, 0⟩ = .moment 100 := by decide +kernel

end Clock

/-! ## Timers -/

structure Pending (α : Type) where
  due : Rat
  stamp : Nat
  item : α
  deriving DecidableEq

/-- Whether one timer fires before another: it is due earlier, or was set earlier for the same
time. -/
def Pending.before {α β : Type} (left : Pending α) (right : Pending β) : Bool :=
  left.due < right.due || (left.due == right.due && left.stamp ≤ right.stamp)

def maxDelay : Nat := 2147483647

/-- The delay that timers make of a number: a fraction is dropped, and what is shorter than a
millisecond or longer than the longest delay counts as one millisecond. -/
def delay : Number → Nat
  | .finite value =>
      if value < 1 || (maxDelay : Rat) < value then 1 else value.floor.toNat
  | _ => 1

structure Timers (α : Type) where
  pending : List (Pending α)
  deriving DecidableEq

namespace Timers

variable {α : Type}

def none : Timers α := ⟨[]⟩

def insert (timer : Pending α) : List (Pending α) → List (Pending α)
  | [] => [timer]
  | first :: rest =>
      if timer.due < first.due then timer :: first :: rest else first :: insert timer rest

def set (timers : Timers α) (clock : Clock) (delay : Nat) (item : α) : Timers α :=
  ⟨insert ⟨clock.now + delay, clock.stamp, item⟩ timers.pending⟩

def cancel (timers : Timers α) (chosen : α → Bool) : Timers α :=
  ⟨timers.pending.filter fun timer => !chosen timer.item⟩

def any (timers : Timers α) (chosen : α → Bool) : Bool :=
  timers.pending.any fun timer => chosen timer.item

def next? (timers : Timers α) : Option (Pending α) :=
  timers.pending.head?

def rest (timers : Timers α) : Timers α :=
  ⟨timers.pending.tail⟩

theorem mem_insert {timer other : Pending α} {pending : List (Pending α)} :
    other ∈ insert timer pending ↔ other = timer ∨ other ∈ pending := by
  induction pending with
  | nil => simp [insert]
  | cons first rest induction =>
      by_cases earlier : timer.due < first.due
      · simp [insert, earlier]
      · simp only [insert, earlier, if_false, List.mem_cons, induction]
        constructor
        · rintro (equal | equal | member)
          · exact .inr (.inl equal)
          · exact .inl equal
          · exact .inr (.inr member)
        · rintro (equal | equal | member)
          · exact .inr (.inl equal)
          · exact .inl equal
          · exact .inr (.inr member)

theorem mem_pending_set {timers : Timers α} {clock : Clock} {delay : Nat} {item : α}
    {other : Pending α} :
    other ∈ (timers.set clock delay item).pending ↔
      other = ⟨clock.now + delay, clock.stamp, item⟩ ∨ other ∈ timers.pending :=
  mem_insert

theorem mem_pending_cancel {timers : Timers α} {chosen : α → Bool} {other : Pending α} :
    other ∈ (timers.cancel chosen).pending ↔
      other ∈ timers.pending ∧ chosen other.item = false := by
  simp [cancel]

end Timers

end Gatehouse.Agenda
