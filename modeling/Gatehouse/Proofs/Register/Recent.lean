import Gatehouse.Proofs.Number.Whole
import Gatehouse.Register.Query
import Gatehouse.Time.Instant

/-!
# Recent grants

A window reaches back from an instant to an earlier one. Where that is an instant of the calendar
it is found without rounding, so a comparison with it is a comparison of milliseconds:
`since_back_iff`.

Where every record of the log has its instant, the search for a recent grant is answered by whether
the log of the register in memory holds one. Adding to the log is answered, and adds one record; a
question that fails changes nothing.
-/

namespace Gatehouse.Time.Instant

/-- A window reaches back from an instant at some milliseconds to an instant that exists. -/
def Reaches (window : Rat) (millis : Int) : Prop :=
  ∃ earlier : Int, (millis : Rat) - window = earlier ∧ -farthest ≤ earlier ∧ earlier ≤ farthest

theorem truncate_whole (whole : Int) : Number.truncate (whole : Rat) = whole := by
  simp [Number.truncate]

theorem back_of_exact {window : Rat} {millis earlier : Int}
    (exact_difference : (millis : Rat) - window = earlier) (above : -farthest ≤ earlier)
    (below : earlier ≤ farthest) :
    (moment millis).back (.finite window) = .moment earlier := by
  have small : earlier.natAbs < 2 ^ 53 := by
    unfold farthest at above below
    omega
  simp only [back, exact_difference, Number.nearest_of_small small, truncate_whole]
  exact ofMillis_of_range above below

theorem since_back_iff {window : Rat} {millis : Int} (reaches : Reaches window millis)
    (other : Int) :
    (moment other).since ((moment millis).back (.finite window)) = true ↔
      (millis : Rat) - window ≤ other := by
  rcases reaches with ⟨earlier, difference, above, below⟩
  rw [back_of_exact difference above below, difference]
  simp only [since, decide_eq_true_eq]
  exact Int.cast_le.symm

end Gatehouse.Time.Instant

namespace Gatehouse.Register.Memory

variable (memory : Memory)

theorem answer_recentGrant (user : Reference) (direction : Access.Direction)
    (since : Time.Instant) (timed : ∀ record ∈ memory.log, record.timestamp.isSome) :
    memory.answer (.recentGrant user direction (some since)) =
      (memory, .recent (memory.log.any fun record =>
        isGrant user direction record && record.timestamp.any (·.since since))) := by
  have known : ∀ record ∈ memory.log.reverse.filter (isGrant user direction),
      record.timestamp.isSome := fun record member =>
    timed record (List.mem_reverse.mp (List.mem_filter.mp member).1)
  simp only [answer, recentGrant?, firstSince?_of_timed since _ known, List.find?_filter,
    List.isSome_find?, List.any_reverse, Bool.decide_and, Bool.decide_eq_true]

theorem log_answerUnless (outages : List (String × String)) (query : Query) :
    (memory.answerUnless outages query).1.log = memory.log ∨
      ∃ entry, query = .append entry ∧
        (memory.answerUnless outages query).1.log =
          memory.log ++ [{ entry with id := memory.log.length + 1 }] := by
  unfold answerUnless
  split
  · exact .inl rfl
  · cases query with
    | append entry => exact .inr ⟨entry, rfl, rfl⟩
    | recentGrant user direction since =>
        simp only [answer]
        split <;> exact .inl rfl
    | cardByNumber number => exact .inl rfl
    | userByRegistration registration => exact .inl rfl
    | userByCode code => exact .inl rfl

theorem answerUnless_look (outages : List (String × String)) {query : Query}
    (looks : ∀ entry, query ≠ .append entry) :
    (memory.answerUnless outages query).1 = memory ∧
      (memory.answerUnless outages query).2 ≠ .appended := by
  unfold answerUnless
  split
  · exact ⟨rfl, nofun⟩
  · cases query with
    | append entry => exact absurd rfl (looks entry)
    | recentGrant user direction since =>
        simp only [answer]
        split <;> exact ⟨rfl, nofun⟩
    | cardByNumber number => exact ⟨rfl, nofun⟩
    | userByRegistration registration => exact ⟨rfl, nofun⟩
    | userByCode code => exact ⟨rfl, nofun⟩

theorem answerUnless_append (outages : List (String × String)) (entry : LogEntry) :
    (∃ fault, memory.answerUnless outages (.append entry) = (memory, .failed fault)) ∨
      memory.answerUnless outages (.append entry) = ((memory.append entry).1, .appended) := by
  unfold answerUnless
  split
  · exact .inl ⟨_, rfl⟩
  · exact .inr rfl

/-- The search for a recent grant fails, or is answered by whether the log holds one. -/
theorem reply_recentGrant (outages : List (String × String)) (user : Reference)
    (direction : Access.Direction) (since : Time.Instant)
    (timed : ∀ record ∈ memory.log, record.timestamp.isSome) :
    (∃ fault, (memory.answerUnless outages
        (.recentGrant user direction (some since))).2 = .failed fault) ∨
      (memory.answerUnless outages (.recentGrant user direction (some since))).2 =
        .recent (memory.log.any fun record =>
          isGrant user direction record && record.timestamp.any (·.since since)) := by
  unfold answerUnless
  split
  · exact .inl ⟨_, rfl⟩
  · exact .inr (by rw [answer_recentGrant memory user direction since timed])

/-- The register with some more entries. -/
def appendAll (entries : List LogEntry) : Memory :=
  entries.foldl (fun memory entry => (memory.append entry).1) memory

theorem appendAll_append (entries more : List LogEntry) :
    memory.appendAll (entries ++ more) = (memory.appendAll entries).appendAll more :=
  List.foldl_append

end Gatehouse.Register.Memory
