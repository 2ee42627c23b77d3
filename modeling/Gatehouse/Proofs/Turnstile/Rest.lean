import Gatehouse.Proofs.Agenda.Timers
import Gatehouse.Proofs.Turnstile.Moves

/-!
# Turnstiles at rest

Between operations every turnstile is either idle and without an alarm, or waits for a rotation and
has one: `AtRest`. Reports, new requests and alarms keep this without opening a turnstile, which
`Calm` says; a grant keeps it and opens one.
-/

namespace Gatehouse.Turnstile

namespace Alarms

variable (alarms : Alarms) (clock : Agenda.Clock) (device other : Device)

/-- The turnstiles with an alarm, in the order in which the alarms go off. -/
def devices (alarms : Alarms) : List Device :=
  alarms.timers.pending.map Agenda.Pending.item

theorem isArmed_iff : alarms.isArmed device = true ↔ device ∈ alarms.devices := by
  simp [isArmed, Agenda.Timers.any, devices]

theorem devices_disarm :
    (alarms.disarm device).2.devices = alarms.devices.filter (· ≠ device) := by
  simp only [devices, disarm, Agenda.Timers.cancel, List.filter_map]
  congr 2
  funext timer
  simp [Bool.beq_eq_decide_eq]

theorem devices_arm :
    (alarms.arm clock device).devices.Perm (device :: (alarms.disarm device).2.devices) :=
  (Agenda.Timers.insert_perm _ _).map _

theorem of_mem_pending_arm {alarm : Agenda.Pending Device}
    (member : alarm ∈ (alarms.arm clock device).timers.pending) :
    alarm = ⟨clock.now + alarms.delay, clock.stamp, device⟩ ∨
      alarm ∈ alarms.timers.pending ∧ alarm.item ≠ device := by
  rcases Agenda.Timers.mem_pending_set.mp member with new | old
  · exact .inl new
  · exact .inr (by simpa using Agenda.Timers.mem_pending_cancel.mp old)

theorem isArmed_disarm :
    (alarms.disarm device).2.isArmed other = true ↔
      alarms.isArmed other = true ∧ other ≠ device := by
  rw [isArmed_iff, isArmed_iff, devices_disarm, List.mem_filter]
  simp

theorem isArmed_arm :
    (alarms.arm clock device).isArmed other = true ↔
      other = device ∨ alarms.isArmed other = true := by
  rw [isArmed_iff, (alarms.devices_arm clock device).mem_iff, List.mem_cons, ← isArmed_iff,
    isArmed_disarm]
  by_cases same : other = device <;> simp [same]

end Alarms

namespace Controller

/-- Every turnstile is idle without an alarm, or waits for a rotation with the one alarm it has. -/
structure AtRest (controller : Controller) : Prop where
  rests : ∀ device, controller.state device = .idle ∨ controller.state device = .waitingRotation
  armed : ∀ device,
    controller.isArmed device = true ↔ controller.state device = .waitingRotation
  single : controller.alarms.devices.Nodup

structure Calm (before after : Controller) : Prop where
  rest : after.AtRest
  idle : ∀ device, before.state device = .idle → after.state device = .idle
  capacity : after.ledger.capacity = before.ledger.capacity
  grants : before.ledger.capacity = .unlimited →
    ∀ device, after.grants device = before.grants device

theorem Calm.refl {controller : Controller} (rest : controller.AtRest) :
    Calm controller controller :=
  ⟨rest, fun _ idle => idle, rfl, fun _ _ => rfl⟩

theorem atRest_start (timeout limit : Number) : (start timeout limit).AtRest where
  rests _ := .inl rfl
  armed _ := by
    constructor
    · intro armed
      cases armed
    · intro waiting
      cases waiting
  single := List.nodup_nil

variable {controller : Controller} {clock : Agenda.Clock} {device : Device}

theorem AtRest.grant (rest : controller.AtRest) (idle : controller.state device = .idle) :
    (controller.grant clock device).1.AtRest ∧
      (controller.grant clock device).1.ledger.capacity = controller.ledger.capacity ∧
      (∀ other, other ≠ device →
        (controller.grant clock device).1.state other = controller.state other) ∧
      (controller.ledger.capacity = .unlimited → ∀ other,
        (controller.grant clock device).1.grants other =
          controller.grants other + if other = device then 1 else 0) := by
  rcases controller.grant_of_idle clock device idle with ⟨transition, granted⟩
  rw [granted]
  have states (other : Device) := controller.state_apply clock device other .grant
  refine ⟨⟨fun other => ?_, fun other => ?_, ?_⟩, ?_, fun other different => ?_, ?_⟩
  · show (controller.apply clock device .grant).1.state other = _ ∨
      (controller.apply clock device .grant).1.state other = _
    rw [states other, idle]
    split
    · exact .inr rfl
    · exact rest.rests other
  · show (controller.alarms.arm clock device).isArmed other = true ↔
      (controller.apply clock device .grant).1.state other = _
    rw [Alarms.isArmed_arm, states other, idle]
    split
    · next same => simp [same, State.after, State.next]
    · next different =>
        rw [or_iff_right different]
        exact rest.armed other
  · refine ((controller.alarms.devices_arm clock device).nodup_iff).mpr ?_
    rw [Alarms.devices_disarm]
    exact List.nodup_cons.mpr ⟨by simp, rest.single.filter _⟩
  · exact controller.ledger.capacity_apply clock.instant device .grant
  · show (controller.apply clock device .grant).1.state other = _
    rw [states other, if_neg different]
  · intro unlimited other
    refine (controller.grants_apply clock device other unlimited .grant).trans ?_
    simp [idle]

theorem AtRest.ends (rest : controller.AtRest)
    (waiting : controller.state device = .waitingRotation) {event : Event}
    (ending : event = .completed ∨ event = .timeout) {after : Controller}
    (ledger : after.ledger = ((controller.ledger.apply clock.instant device event).1.apply
      clock.instant device .reset).1)
    (alarms : after.alarms.devices = controller.alarms.devices.filter (· ≠ device)) :
    Calm controller after ∧ after.state device = .idle := by
  -- The ledger takes two events; between them the turnstile is in none of the states of rest.
  have states (other : Device) : after.state other =
      if other = device then .idle else controller.state other := by
    have last := (controller.ledger.apply clock.instant device event).1.state_apply
      clock.instant device other .reset
    have first (known : Device) :=
      controller.ledger.state_apply clock.instant device known event
    rw [← ledger, first, first] at last
    refine last.trans ?_
    split
    · rw [if_pos rfl, show controller.ledger.state device = _ from waiting]
      rcases ending with rfl | rfl <;> rfl
    · rfl
  have armed (other : Device) :
      after.isArmed other = true ↔ controller.isArmed other = true ∧ other ≠ device := by
    unfold Controller.isArmed
    rw [Alarms.isArmed_iff, Alarms.isArmed_iff, alarms, List.mem_filter]
    simp
  have capacity : after.ledger.capacity = controller.ledger.capacity := by
    rw [ledger, Ledger.capacity_apply, Ledger.capacity_apply]
  have not_grant : event ≠ .grant := by
    rcases ending with rfl | rfl <;> decide
  refine ⟨⟨⟨fun other => ?_, fun other => ?_, ?_⟩, fun other idle => ?_, capacity, ?_⟩, ?_⟩
  · rw [states]
    split
    · exact .inl rfl
    · exact rest.rests other
  · rw [armed, states]
    split
    · next same => simp [same]
    · next different => simpa [different] using rest.armed other
  · rw [alarms]
    exact rest.single.filter _
  · rw [states, idle]
    split <;> rfl
  · intro unlimited other
    unfold Controller.grants
    rw [ledger, Ledger.grants_apply _ _ _ _ _ ((Ledger.capacity_apply ..).trans unlimited),
      Ledger.grants_apply _ _ _ _ _ unlimited]
    simp [not_grant]
  · rw [states, if_pos rfl]

theorem AtRest.report (rest : controller.AtRest) (status : Status) :
    Calm controller (controller.report clock device status).1 := by
  by_cases ending : controller.state device = .waitingRotation ∧ status ≠ .waiting
  · have closing : status.event = .completed ∨ status.event = .timeout := by
      cases status with
      | waiting => exact absurd rfl ending.2
      | completed => exact .inl rfl
      | timeout => exact .inr rfl
    rw [controller.report_of_end clock device ending.1 ending.2]
    exact (rest.ends ending.1 closing rfl (controller.alarms.devices_disarm device)).1
  · rw [controller.report_of_other clock device ending]
    have states (other : Device) :
        (controller.apply clock device status.event).1.state other = controller.state other := by
      rw [controller.state_apply]
      split
      · next same =>
          rw [same]
          rcases rest.rests device with idle | waiting
          · rw [idle]
            cases status <;> rfl
          · rw [waiting]
            cases status with
            | waiting => rfl
            | completed => exact absurd ⟨waiting, by decide⟩ ending
            | timeout => exact absurd ⟨waiting, by decide⟩ ending
      · rfl
    have not_grant : status.event ≠ .grant := by
      cases status <;> decide
    refine ⟨⟨fun other => ?_, fun other => ?_, rest.single⟩, fun other idle => ?_,
      controller.ledger.capacity_apply clock.instant device _, fun unlimited other => ?_⟩
    · rw [states]
      exact rest.rests other
    · rw [states]
      exact rest.armed other
    · rw [states]
      exact idle
    · rw [controller.grants_apply clock device other unlimited]
      simp [not_grant]

theorem AtRest.recoverStale (rest : controller.AtRest) :
    Calm controller (controller.recoverStale clock device).1 ∧
      (controller.recoverStale clock device).1.state device = .idle := by
  unfold Controller.recoverStale
  split
  · next waiting =>
      exact rest.ends waiting (.inr rfl) rfl (controller.alarms.devices_disarm device)
  · next other => exact ⟨.refl rest, (rest.rests device).resolve_right other⟩

theorem AtRest.ring (rest : controller.AtRest) {timer : Agenda.Pending Device}
    (next : controller.alarms.timers.next? = some timer) :
    Calm controller (controller.ring clock timer.item).1 := by
  rcases List.head?_eq_some_iff.mp next with ⟨later, pending⟩
  have devices : controller.alarms.devices = timer.item :: later.map Agenda.Pending.item := by
    unfold Alarms.devices
    rw [pending, List.map_cons]
  have waiting : controller.state timer.item = .waitingRotation := by
    refine (rest.armed timer.item).mp ((Alarms.isArmed_iff ..).mpr ?_)
    rw [devices]
    exact List.mem_cons_self
  have fresh : timer.item ∉ later.map Agenda.Pending.item := by
    have := rest.single
    rw [devices] at this
    exact (List.nodup_cons.mp this).1
  have rung : (controller.ring clock timer.item).1 =
      ({ controller with alarms := controller.alarms.ring } : Controller).timeOut clock
        timer.item := by
    unfold Controller.ring Controller.expire
    rw [if_pos (by exact waiting)]
  rw [rung]
  refine (rest.ends waiting (.inr rfl) rfl ?_).1
  show controller.alarms.ring.devices = _
  rw [devices]
  unfold Alarms.devices Alarms.ring Agenda.Timers.rest
  rw [pending, List.filter_cons]
  simp only [ne_eq, not_true_eq_false, decide_false, Bool.false_eq_true, if_false, List.tail_cons]
  refine (List.filter_eq_self.mpr fun other member => ?_).symm
  simpa using fun same : other = timer.item => fresh (same ▸ member)

end Controller

end Gatehouse.Turnstile
