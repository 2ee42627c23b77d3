import Gatehouse.Proofs.Turnstile.Limit
import Gatehouse.Proofs.Turnstile.Operations

/-!
# Alarms that are punctual

An operation leaves all turnstiles as they are, opens an idle one and sets its alarm, or ends a
cycle together with its alarm: `Controller.Change`. So every alarm belongs to an open cycle and is
still to come (`Controller.IsPunctual`), and an open cycle keeps the alarm that it was opened with
until it ends (`Controller.IsDue`).
-/

namespace Gatehouse.Turnstile

theorem Ledger.history_apply_of_possible (ledger : Ledger) (now : Time.Instant) {device : Device}
    {event : Event} {after : State} (possible : (ledger.state device).next event = some after) :
    (ledger.apply now device event).1.history device =
      ledger.capacity.keepLast
        (ledger.history device ++ [⟨ledger.state device, after, event, now⟩]) := by
  rcases ledger.apply_cases now device event with ⟨refused, -⟩ | ⟨state, made, moved⟩
  · cases possible.symm.trans refused
  · obtain rfl := Option.some.inj (possible.symm.trans made)
    rw [moved, Ledger.history_put, if_pos rfl, Ledger.Entry.after, Ledger.history_getD_fresh]

namespace Controller

inductive Change (clock : Agenda.Clock) (before after : Controller) : Prop
  | alike :
      (∀ other, after.state other = before.state other) → after.alarms = before.alarms → Change ..
  | opens (device : Device) :
      before.state device = .idle →
      (∀ other, after.state other =
        if other = device then .waitingRotation else before.state other) →
      after.ledger.history device = before.ledger.capacity.keepLast
        (before.ledger.history device ++ [⟨.idle, .waitingRotation, .grant, clock.instant⟩]) →
      after.alarms = before.alarms.arm clock device → Change ..
  | ends (device : Device) :
      before.state device = .waitingRotation →
      (∀ other, after.state other = if other = device then .idle else before.state other) →
      after.alarms.delay = before.alarms.delay →
      after.alarms.timers.pending =
        before.alarms.timers.pending.filter (fun alarm => alarm.item ≠ device) → Change ..

/-- Every alarm is still to come and belongs to an open cycle, which has no other. -/
structure IsPunctual (delay : Nat) (now : Rat) (controller : Controller) : Prop where
  delay : controller.alarms.delay = delay
  armed : ∀ alarm ∈ controller.alarms.timers.pending,
    controller.state alarm.item = .waitingRotation
  single : controller.alarms.devices.Nodup
  ordered : controller.alarms.timers.pending.Pairwise fun first second => first.due ≤ second.due
  ahead : ∀ alarm ∈ controller.alarms.timers.pending, now ≤ alarm.due

structure IsDue (controller : Controller) (device : Device) (due : Rat) : Prop where
  waiting : controller.state device = .waitingRotation
  alarm : ∃ stamp, ⟨due, stamp, device⟩ ∈ controller.alarms.timers.pending

variable {controller after : Controller} {clock : Agenda.Clock} {device : Device} {delay : Nat}
  {now due : Rat}

theorem change_grant (controller : Controller) (clock : Agenda.Clock) (device : Device) :
    Change clock controller (controller.grant clock device).1 := by
  by_cases idle : controller.state device = .idle
  · obtain ⟨transition, granted⟩ := controller.grant_of_idle clock device idle
    rw [granted]
    refine .opens device idle (fun other => ?_) ?_ rfl
    · refine (controller.state_apply clock device other .grant).trans ?_
      rw [idle]
      rfl
    · have opened := controller.ledger.history_apply_of_possible clock.instant
        (congrArg (State.next · .grant) idle)
      rwa [show controller.ledger.state device = _ from idle] at opened
  · have refused : (controller.state device).next .grant = none := by
      cases state : controller.state device with
      | idle => exact absurd state idle
      | waitingRotation => rfl
      | rotationCompleted => rfl
      | rotationTimeout => rfl
    obtain ⟨fault, same⟩ := controller.apply_of_refused clock device refused
    have failed : (controller.grant clock device).2 = .error fault := by rw [grant, same]
    have alike := grant_error failed
    exact .alike alike.state alike.alarms

theorem state_ended (waiting : controller.state device = .waitingRotation) {event : Event}
    (ending : event = .completed ∨ event = .timeout)
    (ledger : after.ledger = ((controller.ledger.apply clock.instant device event).1.apply
      clock.instant device .reset).1) (other : Device) :
    after.state other = if other = device then .idle else controller.state other := by
  have first (known : Device) := controller.ledger.state_apply clock.instant device known event
  have last := (controller.ledger.apply clock.instant device event).1.state_apply
    clock.instant device other .reset
  rw [← ledger, first, first] at last
  refine last.trans ?_
  split
  · rw [if_pos rfl, show controller.ledger.state device = _ from waiting]
    rcases ending with rfl | rfl <;> rfl
  · rfl

theorem pending_disarm (controller : Controller) (device : Device) :
    (controller.disarm device).alarms.timers.pending =
      controller.alarms.timers.pending.filter (fun alarm => alarm.item ≠ device) := by
  simp [disarm, Alarms.disarm, Agenda.Timers.cancel, Bool.beq_eq_decide_eq]

theorem change_report (controller : Controller) (clock : Agenda.Clock) (device : Device)
    (status : Status) : Change clock controller (controller.report clock device status).1 := by
  by_cases ending : controller.state device = .waitingRotation ∧ status ≠ .waiting
  · have closing : status.event = .completed ∨ status.event = .timeout := by
      cases status with
      | waiting => exact absurd rfl ending.2
      | completed => exact .inl rfl
      | timeout => exact .inr rfl
    rw [controller.report_of_end clock device ending.1 ending.2]
    exact .ends device ending.1 (state_ended ending.1 closing rfl) rfl
      (controller.pending_disarm device)
  · rw [controller.report_of_other clock device ending]
    refine .alike (fun other => ?_) rfl
    rw [controller.state_apply]
    split
    · next same =>
        subst same
        -- Only a report that the reader waits is possible here, and it leaves the cycle open.
        cases state : controller.state other with
        | waitingRotation =>
            obtain rfl : status = .waiting := by simpa [state] using ending
            rfl
        | idle => cases status <;> rfl
        | rotationCompleted => cases status <;> rfl
        | rotationTimeout => cases status <;> rfl
    · rfl

theorem change_recoverStale (controller : Controller) (clock : Agenda.Clock) (device : Device) :
    Change clock controller (controller.recoverStale clock device).1 := by
  rw [recoverStale]
  split
  · next waiting =>
      exact .ends device waiting (state_ended waiting (.inr rfl) rfl) rfl
        (controller.pending_disarm device)
  · exact .alike (fun _ => rfl) rfl

theorem IsPunctual.ring_eq (punctual : IsPunctual delay now controller)
    {timer : Agenda.Pending Device} (next : controller.alarms.timers.next? = some timer)
    (clock : Agenda.Clock) :
    (controller.ring clock timer.item).1 =
      ({ controller with alarms := controller.alarms.ring } : Controller).timeOut clock
        timer.item := by
  have waiting := punctual.armed timer (List.mem_of_head? next)
  unfold Controller.ring Controller.expire
  rw [if_pos (by exact waiting)]

theorem IsPunctual.state_ring (punctual : IsPunctual delay now controller)
    {timer : Agenda.Pending Device} (next : controller.alarms.timers.next? = some timer)
    (clock : Agenda.Clock) (other : Device) :
    (controller.ring clock timer.item).1.state other =
      if other = timer.item then .idle else controller.state other := by
  rw [punctual.ring_eq next]
  exact state_ended (punctual.armed timer (List.mem_of_head? next)) (.inr rfl) rfl other

theorem IsPunctual.change_ring (punctual : IsPunctual delay now controller)
    {timer : Agenda.Pending Device} (next : controller.alarms.timers.next? = some timer)
    (clock : Agenda.Clock) :
    Change clock controller (controller.ring clock timer.item).1 := by
  obtain ⟨later, pending⟩ := List.head?_eq_some_iff.mp next
  have waiting := punctual.armed timer (List.mem_of_head? next)
  have fresh : timer.item ∉ later.map Agenda.Pending.item := by
    have single := punctual.single
    rw [Alarms.devices, pending, List.map_cons] at single
    exact (List.nodup_cons.mp single).1
  -- The alarm is the only one of its turnstile, so no other goes with it.
  refine .ends timer.item waiting (punctual.state_ring next clock) ?_ ?_
  all_goals rw [punctual.ring_eq next]
  · rfl
  · show controller.alarms.timers.pending.tail = _
    rw [pending, List.tail_cons, List.filter_cons_of_neg (by simp)]
    refine (List.filter_eq_self.mpr fun alarm present => ?_).symm
    simpa using fun same : alarm.item = timer.item =>
      fresh (List.mem_map.mpr ⟨alarm, present, same⟩)

theorem IsPunctual.history_ring (punctual : IsPunctual delay now controller)
    {timer : Agenda.Pending Device} (next : controller.alarms.timers.next? = some timer)
    (clock : Agenda.Clock) :
    (controller.ring clock timer.item).1.ledger.history timer.item =
      controller.ledger.capacity.keepLast (controller.ledger.history timer.item ++
        [⟨.waitingRotation, .rotationTimeout, .timeout, clock.instant⟩,
          ⟨.rotationTimeout, .idle, .reset, clock.instant⟩]) := by
  have waiting : controller.ledger.state timer.item = .waitingRotation :=
    punctual.armed timer (List.mem_of_head? next)
  have timedOut : (controller.ledger.apply clock.instant timer.item .timeout).1.state
      timer.item = .rotationTimeout := by
    rw [Ledger.state_apply, if_pos rfl, waiting]
    rfl
  have first := controller.ledger.history_apply_of_possible clock.instant
    (congrArg (State.next · .timeout) waiting)
  have second := Ledger.history_apply_of_possible _ clock.instant
    (congrArg (State.next · .reset) timedOut)
  rw [Ledger.capacity_apply, first, keepLast_append_keepLast, timedOut, waiting,
    List.append_assoc] at second
  rw [punctual.ring_eq next]
  exact second

namespace IsPunctual

theorem start (timeout limit : Number) (now : Rat) :
    IsPunctual (Agenda.delay timeout) now (.start timeout limit) where
  delay := rfl
  armed _ member := nomatch member
  single := List.nodup_nil
  ordered := .nil
  ahead _ member := nomatch member

theorem change (punctual : IsPunctual delay clock.now controller)
    (change : Change clock controller after) : IsPunctual delay clock.now after := by
  cases change with
  | alike states alarms =>
      refine ⟨alarms ▸ punctual.delay, fun alarm member => ?_, alarms ▸ punctual.single,
        alarms ▸ punctual.ordered, alarms ▸ punctual.ahead⟩
      rw [states]
      exact punctual.armed alarm (alarms ▸ member)
  | opens device idle states _ alarms =>
      refine ⟨alarms ▸ punctual.delay, fun alarm member => ?_, ?_, ?_, fun alarm member => ?_⟩
      · rw [alarms] at member
        rw [states]
        split
        · rfl
        · next different =>
            rcases Alarms.of_mem_pending_arm _ _ _ member with rfl | ⟨old, -⟩
            · exact absurd rfl different
            · exact punctual.armed alarm old
      · rw [alarms]
        refine ((controller.alarms.devices_arm clock device).nodup_iff).mpr ?_
        rw [Alarms.devices_disarm]
        exact List.nodup_cons.mpr ⟨by simp, punctual.single.filter _⟩
      · rw [alarms]
        exact Agenda.Timers.pairwise_insert (punctual.ordered.filter _)
      · rw [alarms] at member
        rcases Alarms.of_mem_pending_arm _ _ _ member with rfl | ⟨old, -⟩
        · exact le_add_of_nonneg_right Rat.natCast_nonneg
        · exact punctual.ahead alarm old
  | ends device waiting states same pending =>
      have fewer {alarm : Agenda.Pending Device}
          (member : alarm ∈ after.alarms.timers.pending) :
          alarm ∈ controller.alarms.timers.pending ∧ alarm.item ≠ device := by
        rw [pending, List.mem_filter] at member
        simpa using member
      refine ⟨same.trans punctual.delay, fun alarm member => ?_, ?_, ?_, fun alarm member => ?_⟩
      · rw [states, if_neg (fewer member).2]
        exact punctual.armed alarm (fewer member).1
      · rw [Alarms.devices, pending]
        exact punctual.single.sublist (List.filter_sublist.map _)
      · rw [pending]
        exact punctual.ordered.filter _
      · exact punctual.ahead alarm (fewer member).1

theorem close (punctual : IsPunctual delay now controller) :
    IsPunctual delay now controller.close where
  delay := punctual.delay
  armed _ member := nomatch member
  single := List.nodup_nil
  ordered := .nil
  ahead _ member := nomatch member

theorem pass {later : Rat} (punctual : IsPunctual delay now controller)
    (ahead : ∀ alarm ∈ controller.alarms.timers.pending, later ≤ alarm.due) :
    IsPunctual delay later controller :=
  { punctual with ahead := ahead }

theorem next_le (punctual : IsPunctual delay now controller) {timer : Agenda.Pending Device}
    (next : controller.alarms.timers.next? = some timer) :
    ∀ alarm ∈ controller.alarms.timers.pending, timer.due ≤ alarm.due := by
  obtain ⟨later, pending⟩ := List.head?_eq_some_iff.mp next
  have ordered := punctual.ordered
  rw [pending] at ordered ⊢
  intro alarm member
  rcases List.mem_cons.mp member with rfl | behind
  · exact le_rfl
  · exact (List.pairwise_cons.mp ordered).1 alarm behind

/-- The alarm of an open cycle is the only one of its turnstile, and still to come. -/
theorem of_isDue (punctual : IsPunctual delay now controller)
    (isDue : IsDue controller device due) :
    now ≤ due ∧ ∃ stamp, controller.alarms.of device = [⟨due, stamp, device⟩] := by
  obtain ⟨stamp, member⟩ := isDue.alarm
  exact ⟨punctual.ahead _ member, stamp, Agenda.Timers.filter_eq_singleton punctual.single member⟩

end IsPunctual

namespace IsDue

theorem change (isDue : IsDue controller device due) (change : Change clock controller after)
    (waiting : after.state device = .waitingRotation) : IsDue after device due := by
  obtain ⟨stamp, member⟩ := isDue.alarm
  refine ⟨waiting, stamp, ?_⟩
  cases change with
  | alike states alarms => exact alarms ▸ member
  | opens opened idle _ _ alarms =>
      have different : device ≠ opened := by
        rintro rfl
        cases idle.symm.trans isDue.waiting
      rw [alarms]
      refine Agenda.Timers.mem_pending_set.mpr (.inr ?_)
      exact Agenda.Timers.mem_pending_cancel.mpr ⟨member, by simpa using different⟩
  | ends ended _ states _ pending =>
      have different : device ≠ ended := by
        rintro rfl
        rw [states, if_pos rfl] at waiting
        cases waiting
      rw [pending]
      exact List.mem_filter.mpr ⟨member, by simpa using different⟩

/-- A cycle that was opened just now has an alarm that goes off after the delay, and its grant is
in the history. -/
theorem of_opened (change : Change clock controller after)
    (closed : controller.state device ≠ .waitingRotation)
    (waiting : after.state device = .waitingRotation) :
    IsDue after device (clock.now + controller.alarms.delay) ∧
      after.ledger.history device = controller.ledger.capacity.keepLast
        (controller.ledger.history device ++
          [⟨.idle, .waitingRotation, .grant, clock.instant⟩]) := by
  cases change with
  | alike states alarms => exact absurd ((states device).symm.trans waiting) closed
  | opens opened _ states history alarms =>
      rw [states] at waiting
      split at waiting
      · next same =>
          subst same
          refine ⟨⟨by rw [states, if_pos rfl], clock.stamp, ?_⟩, history⟩
          rw [alarms]
          exact Agenda.Timers.mem_pending_set.mpr (.inl rfl)
      · exact absurd waiting closed
  | ends ended _ states _ pending =>
      rw [states] at waiting
      split at waiting
      · cases waiting
      · exact absurd waiting closed

end IsDue

end Controller

end Gatehouse.Turnstile
