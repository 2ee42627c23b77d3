import Gatehouse.Turnstile.Controller
import Mathlib.Data.List.Basic

/-!
# How turnstiles move

What every operation on the turnstiles does to the state of each of them: a grant opens an idle one,
a report that ends a cycle, a new request and an alarm make a waiting one idle, and nothing else
changes a state. Where the ledger keeps every transition, `openings` lists when a turnstile was
opened and `grants` counts it, and only a grant to an idle turnstile adds to them.
-/

namespace Gatehouse.Turnstile

/-- The state after an event; an event that is not possible changes nothing. -/
def State.after (state : State) (event : Event) : State :=
  (state.next event).getD state

namespace Ledger

variable (ledger : Ledger) (now : Time.Instant) (device other : Device) (event : Event)

def grants (ledger : Ledger) (device : Device) : Nat :=
  (ledger.history device).countP fun transition => transition.event = .grant

/-- When a turnstile was opened, as far as its history goes. -/
def openings (ledger : Ledger) (device : Device) : List Time.Instant :=
  ((ledger.history device).filter fun transition => transition.event = .grant).map Transition.time

theorem state_getD_fresh :
    ((ledger.known? device).getD (fresh now)).state = ledger.state device := by
  unfold Ledger.state
  cases ledger.known? device <;> rfl

theorem history_getD_fresh :
    ((ledger.known? device).getD (fresh now)).history = ledger.history device := by
  unfold Ledger.history
  cases ledger.known? device <;> rfl

theorem apply_cases :
    ((ledger.state device).next event = none ∧
      ledger.apply now device event =
        (ledger.put device ((ledger.known? device).getD (fresh now)),
          .error (.transition device (ledger.state device) event))) ∨
      ∃ after, (ledger.state device).next event = some after ∧
        ledger.apply now device event =
          (ledger.put device (Entry.after ledger.capacity ((ledger.known? device).getD (fresh now))
            ⟨ledger.state device, after, event, now⟩),
            .ok ⟨ledger.state device, after, event, now⟩) := by
  unfold apply
  simp only [state_getD_fresh]
  cases possible : (ledger.state device).next event with
  | none => exact .inl ⟨rfl, rfl⟩
  | some after => exact .inr ⟨after, rfl, rfl⟩

theorem state_put (entry : Entry) :
    (ledger.put device entry).state other =
      if other = device then entry.state else ledger.state other := by
  unfold Ledger.state
  rw [known?_put]
  split <;> rfl

theorem history_put (entry : Entry) :
    (ledger.put device entry).history other =
      if other = device then entry.history else ledger.history other := by
  unfold Ledger.history
  rw [known?_put]
  split <;> rfl

theorem state_apply :
    (ledger.apply now device event).1.state other =
      if other = device then (ledger.state device).after event else ledger.state other := by
  rcases ledger.apply_cases now device event with ⟨refused, same⟩ | ⟨after, possible, moved⟩
  · rw [same, state_put, state_getD_fresh, State.after, refused]
    rfl
  · rw [moved, state_put, State.after, possible]
    rfl

theorem capacity_apply : (ledger.apply now device event).1.capacity = ledger.capacity := by
  rcases ledger.apply_cases now device event with ⟨_, same⟩ | ⟨_, _, moved⟩
  · rw [same]
    rfl
  · rw [moved]
    rfl

def made (ledger : Ledger) (now : Time.Instant) (device : Device) (event : Event) :
    List Transition :=
  ((ledger.state device).next event).toList.map fun after =>
    ⟨ledger.state device, after, event, now⟩

theorem history_apply (unlimited : ledger.capacity = .unlimited) :
    (ledger.apply now device event).1.history other =
      ledger.history other ++ if other = device then ledger.made now device event else [] := by
  rcases ledger.apply_cases now device event with ⟨refused, same⟩ | ⟨after, possible, moved⟩
  · rw [same, history_put, history_getD_fresh]
    split
    · next equal => simp [made, refused, equal]
    · simp
  · rw [moved, history_put]
    simp only [Entry.after, unlimited, Capacity.keepLast, history_getD_fresh]
    split
    · next equal => simp [made, possible, equal]
    · simp

theorem openings_apply (unlimited : ledger.capacity = .unlimited) :
    (ledger.apply now device event).1.openings other =
      ledger.openings other ++
        if other = device ∧ event = .grant ∧ ledger.state device = .idle then [now] else [] := by
  rw [openings, history_apply _ _ _ _ _ unlimited, List.filter_append, List.map_append]
  congr 1
  by_cases equal : other = device
  · subst equal
    by_cases grants : event = .grant
    · subst grants
      cases state : ledger.state other <;> simp [made, state, State.next]
    · simp [made, grants]
  · simp [equal]

theorem grants_eq_length : ledger.grants device = (ledger.openings device).length := by
  rw [grants, openings, List.length_map, List.countP_eq_length_filter]

theorem grants_apply (unlimited : ledger.capacity = .unlimited) :
    (ledger.apply now device event).1.grants other =
      ledger.grants other +
        if other = device ∧ event = .grant ∧ ledger.state device = .idle then 1 else 0 := by
  rw [grants_eq_length, grants_eq_length, openings_apply _ _ _ _ _ unlimited, List.length_append]
  split <;> rfl

end Ledger

namespace Controller

variable (controller : Controller) (clock : Agenda.Clock) (device other : Device)

def grants (controller : Controller) (device : Device) : Nat :=
  controller.ledger.grants device

theorem state_apply (event : Event) :
    (controller.apply clock device event).1.state other =
      if other = device then (controller.state device).after event else controller.state other :=
  controller.ledger.state_apply clock.instant device other event

theorem grants_apply (unlimited : controller.ledger.capacity = .unlimited) (event : Event) :
    (controller.apply clock device event).1.grants other =
      controller.grants other +
        if other = device ∧ event = .grant ∧ controller.state device = .idle then 1 else 0 :=
  controller.ledger.grants_apply clock.instant device other event unlimited

theorem apply_of_possible {event : Event} {after : State}
    (possible : (controller.state device).next event = some after) :
    ∃ transition, controller.apply clock device event =
      ((controller.apply clock device event).1, .ok transition) := by
  unfold Controller.apply
  rcases controller.ledger.apply_cases clock.instant device event with
    ⟨refused, -⟩ | ⟨after, -, moved⟩
  · cases possible.symm.trans refused
  · rw [moved]
    exact ⟨_, rfl⟩

theorem apply_of_refused {event : Event} (refused : (controller.state device).next event = none) :
    ∃ fault, controller.apply clock device event =
      ((controller.apply clock device event).1, .error fault) := by
  unfold Controller.apply
  rcases controller.ledger.apply_cases clock.instant device event with
    ⟨-, same⟩ | ⟨after, possible, -⟩
  · rw [same]
    exact ⟨_, rfl⟩
  · cases refused.symm.trans possible

theorem grant_of_idle (idle : controller.state device = .idle) :
    ∃ transition, controller.grant clock device =
      ({ (controller.apply clock device .grant).1 with
          alarms := controller.alarms.arm clock device }, .ok transition) := by
  have possible : (controller.state device).next .grant = some .waitingRotation := by
    rw [idle]
    rfl
  rcases controller.apply_of_possible clock device possible with ⟨transition, opened⟩
  refine ⟨transition, ?_⟩
  unfold grant
  rw [opened]
  rfl

theorem report_of_end {status : Status} (waiting : controller.state device = .waitingRotation)
    (ending : status ≠ .waiting) :
    (controller.report clock device status).1 =
      (((controller.apply clock device status.event).1.disarm device).apply clock device
        .reset).1 := by
  have possible : (controller.state device).next status.event = some status.event.target := by
    rw [waiting]
    cases status <;> rfl
  rcases controller.apply_of_possible clock device possible with ⟨transition, moved⟩
  unfold report
  rw [moved]
  cases status with
  | waiting => exact absurd rfl ending
  | completed =>
      simp only
      split <;> next same => rw [same]
  | timeout =>
      simp only
      split <;> next same => rw [same]

theorem report_of_other {status : Status}
    (other : ¬(controller.state device = .waitingRotation ∧ status ≠ .waiting)) :
    (controller.report clock device status).1 =
      (controller.apply clock device status.event).1 := by
  unfold report
  cases possible : (controller.state device).next status.event with
  | none =>
      rcases controller.apply_of_refused clock device possible with ⟨fault, same⟩
      rw [same]
  | some after =>
      rcases controller.apply_of_possible clock device possible with ⟨transition, moved⟩
      rw [moved]
      cases status with
      | waiting => rfl
      | completed =>
          refine absurd ⟨?_, by decide⟩ other
          generalize controller.state device = state at possible
          cases state <;> first | rfl | cases possible
      | timeout =>
          refine absurd ⟨?_, by decide⟩ other
          generalize controller.state device = state at possible
          cases state <;> first | rfl | cases possible

end Controller

end Gatehouse.Turnstile
