import Gatehouse.Agenda.Timers
import Mathlib.Algebra.Order.Ring.Rat
import Mathlib.Data.List.Perm.Basic
import Mathlib.Data.List.TakeWhile

/-!
# Timers in order

Setting a timer keeps the table in the order in which timers are due (`pairwise_insert`), and the
timers of other items in their places (`filter_insert`). So the timers that are left when some
moment has come are due after it, and those that are not were due by then (`mem_dropWhile_iff`,
`mem_takeWhile_iff`).
-/

namespace Gatehouse.Agenda

theorem delay_ofNat {count : Nat} (inRange : 1 ≤ count ∧ count ≤ maxDelay) :
    delay (.ofNat count) = count := by
  have low : ¬(count : Rat) < 1 := not_lt.mpr (by exact_mod_cast inRange.1)
  have high : ¬(maxDelay : Rat) < count := not_lt.mpr (by exact_mod_cast inRange.2)
  have whole : (count : Rat).floor = count := by
    exact_mod_cast Rat.floor_intCast (count : Int)
  simp [delay, Number.ofNat, low, high, whole]

/-- Timers wait one millisecond where they are asked to wait longer than they can. -/
theorem delay_of_long {count : Nat} (long : maxDelay < count) : delay (.ofNat count) = 1 := by
  have high : (maxDelay : Rat) < count := by exact_mod_cast long
  simp [delay, Number.ofNat, high]

namespace Timers

variable {α : Type} {timer : Pending α} {pending : List (Pending α)}

theorem insert_perm (timer : Pending α) (pending : List (Pending α)) :
    (insert timer pending).Perm (timer :: pending) := by
  induction pending with
  | nil => exact .refl _
  | cons first rest induction =>
      unfold insert
      split
      · exact .refl _
      · exact (induction.cons first).trans (.swap timer first rest)

theorem pairwise_insert
    (ordered : pending.Pairwise fun first second => first.due ≤ second.due) :
    (insert timer pending).Pairwise fun first second => first.due ≤ second.due := by
  induction pending with
  | nil => simp [insert]
  | cons first rest induction =>
      rcases List.pairwise_cons.mp ordered with ⟨front, later⟩
      rw [insert]
      split
      · next earlier =>
          refine List.pairwise_cons.mpr ⟨fun other member => ?_, ordered⟩
          rcases List.mem_cons.mp member with rfl | member
          · exact earlier.le
          · exact earlier.le.trans (front other member)
      · next later_or_same =>
          refine List.pairwise_cons.mpr ⟨fun other member => ?_, induction later⟩
          rcases mem_insert.mp member with rfl | member
          · exact not_lt.mp later_or_same
          · exact front other member

theorem insert_of_le (last : ∀ other ∈ pending, other.due ≤ timer.due) :
    insert timer pending = pending ++ [timer] := by
  induction pending with
  | nil => rfl
  | cons first rest induction =>
      rw [insert, if_neg (not_lt.mpr (last first List.mem_cons_self)),
        induction fun other member => last other (List.mem_cons_of_mem _ member),
        List.cons_append]

theorem filter_insert {chosen : Pending α → Bool} (other : chosen timer = false) :
    (insert timer pending).filter chosen = pending.filter chosen := by
  induction pending with
  | nil => simp [insert, other]
  | cons first rest induction =>
      rw [insert]
      split
      · simp [other]
      · simp [List.filter_cons, induction]

theorem lt_of_mem_dropWhile {moment : Rat}
    (ordered : pending.Pairwise fun first second => first.due ≤ second.due) :
    ∀ timer ∈ pending.dropWhile (fun timer => timer.due ≤ moment), moment < timer.due := by
  induction pending with
  | nil => simp
  | cons first rest induction =>
      rcases List.pairwise_cons.mp ordered with ⟨front, later⟩
      by_cases passed : first.due ≤ moment
      · simpa [passed] using induction later
      · simp only [List.dropWhile_cons, passed]
        intro timer member
        rcases List.mem_cons.mp (by simpa using member) with rfl | member
        · exact not_le.mp passed
        · exact (not_le.mp passed).trans_le (front timer member)

theorem mem_takeWhile_or_dropWhile (timer : Pending α) (pending : List (Pending α))
    (passed : Pending α → Bool) :
    timer ∈ pending ↔ timer ∈ pending.takeWhile passed ∨ timer ∈ pending.dropWhile passed := by
  rw [← List.mem_append, List.takeWhile_append_dropWhile]

theorem mem_takeWhile_iff {moment : Rat}
    (ordered : pending.Pairwise fun first second => first.due ≤ second.due) :
    timer ∈ pending.takeWhile (fun timer => timer.due ≤ moment) ↔
      timer ∈ pending ∧ timer.due ≤ moment := by
  rw [mem_takeWhile_or_dropWhile timer pending fun timer => timer.due ≤ moment]
  constructor
  · intro passed
    exact ⟨.inl passed, by simpa using List.mem_takeWhile_imp passed⟩
  · rintro ⟨passed | left, due⟩
    · exact passed
    · exact absurd due (not_le.mpr (lt_of_mem_dropWhile ordered timer left))

theorem mem_dropWhile_iff {moment : Rat}
    (ordered : pending.Pairwise fun first second => first.due ≤ second.due) :
    timer ∈ pending.dropWhile (fun timer => timer.due ≤ moment) ↔
      timer ∈ pending ∧ moment < timer.due := by
  rw [mem_takeWhile_or_dropWhile timer pending fun timer => timer.due ≤ moment]
  constructor
  · intro left
    exact ⟨.inr left, lt_of_mem_dropWhile ordered timer left⟩
  · rintro ⟨passed | left, later⟩
    · exact absurd (by simpa using List.mem_takeWhile_imp passed) (not_le.mpr later)
    · exact left

/-- Where each item has one timer at most, a timer is the only one of its item. -/
theorem filter_eq_singleton [DecidableEq α] (single : (pending.map Pending.item).Nodup)
    (member : timer ∈ pending) :
    pending.filter (fun other => other.item = timer.item) = [timer] := by
  induction pending with
  | nil => exact absurd member List.not_mem_nil
  | cons first rest induction =>
      rcases List.nodup_cons.mp single with ⟨fresh, single⟩
      rcases List.mem_cons.mp member with rfl | member
      · have none : rest.filter (fun other => other.item = timer.item) = [] := by
          apply List.filter_eq_nil_iff.mpr
          intro other later
          simpa using fun equal : other.item = timer.item =>
            fresh (List.mem_map.mpr ⟨other, later, equal⟩)
        simp [none]
      · have different : first.item ≠ timer.item := fun equal =>
          fresh (List.mem_map.mpr ⟨timer, member, equal.symm⟩)
        simp [different, induction single member]

end Timers

end Gatehouse.Agenda
