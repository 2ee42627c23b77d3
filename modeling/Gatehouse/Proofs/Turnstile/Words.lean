import Gatehouse.Proofs.Turnstile.Moves
import Mathlib.Computability.RegularExpressions
import Mathlib.Algebra.Order.Kleene
import Mathlib.Order.CompletePartialOrder

/-!
# The events of a turnstile as words

The events that lead a turnstile from idle to some state spell words of a regular language
(`mem_words`). From idle to idle these are whole cycles; to waiting they are whole cycles and an
open one. Where the ledger keeps every transition, the events of each turnstile lead from idle to
its state, whatever is applied (`IsTraced.apply`).
-/

namespace Gatehouse.Turnstile

open RegularExpression Computability

/-- A grant with its acknowledgements. -/
def opening : RegularExpression Event :=
  char .grant * star (char .waiting)

def cycle : RegularExpression Event :=
  opening * (char .completed + char .timeout) * char .reset

/-- Whole cycles, and at most an open one behind them. -/
def life : RegularExpression Event :=
  star cycle * (1 + opening)

example : life.rmatch [.grant, .waiting, .completed, .reset, .grant] = true := by decide
example : life.rmatch [.grant, .completed, .grant] = false := by decide

namespace State

def walk (state : State) (events : List Event) : Option State :=
  events.foldlM State.next state

theorem walk_concat (state : State) (events : List Event) (event : Event) :
    state.walk (events ++ [event]) =
      (state.walk events).bind fun reached => reached.next event := by
  simp [walk, List.foldlM_append]

def words : State → RegularExpression Event
  | .idle => star cycle
  | .waitingRotation => star cycle * opening
  | .rotationCompleted => star cycle * opening * char .completed
  | .rotationTimeout => star cycle * opening * char .timeout

theorem words_opened :
    (words .idle).matches' * (char Event.grant).matches' ≤ (words .waitingRotation).matches' := by
  have opened : (char Event.grant).matches' ≤ opening.matches' := by
    calc (char Event.grant).matches'
        = (char Event.grant).matches' * 1 := (mul_one _).symm
      _ ≤ (char Event.grant).matches' * (char Event.waiting).matches'∗ := by
          gcongr
          exact one_le_kstar
  exact mul_le_mul_right opened _

theorem words_acknowledged :
    (words .waitingRotation).matches' * (char Event.waiting).matches' ≤
      (words .waitingRotation).matches' := by
  have longer : opening.matches' * (char Event.waiting).matches' ≤ opening.matches' := by
    calc opening.matches' * (char Event.waiting).matches'
        = (char Event.grant).matches' *
            ((char Event.waiting).matches'∗ * (char Event.waiting).matches') := mul_assoc _ _ _
      _ ≤ (char Event.grant).matches' * (char Event.waiting).matches'∗ := by
          gcongr
          exact kstar_mul_le_kstar
  calc (words .waitingRotation).matches' * (char Event.waiting).matches'
      = (star cycle).matches' * (opening.matches' * (char Event.waiting).matches') :=
        mul_assoc _ _ _
    _ ≤ (words .waitingRotation).matches' := mul_le_mul_right longer _

theorem words_reset {event : Event} (ending : event = .completed ∨ event = .timeout) :
    (star cycle * opening * char event).matches' * (char Event.reset).matches' ≤
      (words .idle).matches' := by
  have either : (char event).matches' ≤
      (char Event.completed + char Event.timeout).matches' := by
    rcases ending with rfl | rfl
    · exact le_sup_left
    · exact le_sup_right
  calc (star cycle * opening * char event).matches' * (char Event.reset).matches'
      = cycle.matches'∗ * (opening.matches' * (char event).matches' *
          (char Event.reset).matches') := by
        simp only [matches'_mul, matches'_star, mul_assoc]
    _ ≤ cycle.matches'∗ * cycle.matches' := by
        refine mul_le_mul_right ?_ _
        exact mul_le_mul_left (mul_le_mul_right either _) _
    _ ≤ (words .idle).matches' := kstar_mul_le_kstar

theorem words_step {state after : State} {event : Event}
    (possible : state.next event = some after) :
    state.words.matches' * (char event).matches' ≤ after.words.matches' := by
  -- Only the transitions of the table are left.
  cases state <;> cases event <;> cases possible
  case idle.grant => exact words_opened
  case waitingRotation.waiting => exact words_acknowledged
  case waitingRotation.completed => exact le_rfl
  case waitingRotation.timeout => exact le_rfl
  case rotationCompleted.reset => exact words_reset (.inl rfl)
  case rotationTimeout.reset => exact words_reset (.inr rfl)

theorem mem_words {state : State} {events : List Event}
    (walked : State.idle.walk events = some state) : events ∈ state.words.matches' := by
  induction events using List.reverseRecOn generalizing state with
  | nil =>
      obtain rfl : State.idle = state := by simpa [walk] using walked
      exact Language.nil_mem_kstar _
  | append_singleton events event induction =>
      rw [walk_concat] at walked
      rcases Option.bind_eq_some_iff.mp walked with ⟨before, earlier, possible⟩
      exact words_step possible (Language.append_mem_mul (induction earlier) rfl)

theorem mem_life {state : State} {events : List Event}
    (walked : State.idle.walk events = some state)
    (rests : state = .idle ∨ state = .waitingRotation) : events ∈ life.matches' := by
  have whole : (star cycle).matches' ≤ life.matches' := by
    calc (star cycle).matches'
        = (star cycle).matches' * 1 := (mul_one _).symm
      _ ≤ life.matches' := mul_le_mul_right le_sup_left _
  have open_behind : (star cycle * opening).matches' ≤ life.matches' :=
    mul_le_mul_right le_sup_right _
  rcases rests with rfl | rfl
  · exact whole (mem_words walked)
  · exact open_behind (mem_words walked)

end State

namespace Ledger

variable (ledger : Ledger) (now : Time.Instant) (device other : Device) (event : Event)

/-- The events of a turnstile, as far as its history goes. -/
def events (ledger : Ledger) (device : Device) : List Event :=
  (ledger.history device).map Transition.event

/-- Every transition is kept, and the events of each turnstile lead from idle to its state. -/
structure IsTraced (ledger : Ledger) : Prop where
  unlimited : ledger.capacity = .unlimited
  walked : ∀ device, State.idle.walk (ledger.events device) = some (ledger.state device)

theorem IsTraced.apply {ledger : Ledger} (traced : ledger.IsTraced) :
    (ledger.apply now device event).1.IsTraced where
  unlimited := (ledger.capacity_apply now device event).trans traced.unlimited
  walked := by
    intro other
    have before := traced.walked other
    rw [events] at before ⊢
    rw [history_apply _ _ _ _ _ traced.unlimited, state_apply, List.map_append]
    split
    · next equal =>
        subst equal
        cases possible : (ledger.state other).next event with
        | none => simpa [made, State.after, possible] using before
        | some after => simp [made, State.after, possible, State.walk_concat, before]
    · simpa using before

end Ledger

end Gatehouse.Turnstile
