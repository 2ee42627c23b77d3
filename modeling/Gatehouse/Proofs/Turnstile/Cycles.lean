import Gatehouse.Proofs.Association
import Gatehouse.Proofs.Turnstile.Limit
import Gatehouse.Proofs.Turnstile.Operations

/-!
# Rotation cycles

A controller on duty performs operations one after another while time goes by. Between operations a
turnstile waits exactly when its alarm is set, and the alarm is due the timeout after the grant that
opened the turnstile (`IsCycling`). The events of each turnstile are whole cycles and at most an
open one. Both follow for every run from what one operation keeps (`rotation_cycles`).
-/

namespace Gatehouse.Turnstile

/-- A controller at work, with the moments at which it granted, the latest first. -/
structure Duty where
  controller : Controller
  clock : Agenda.Clock
  granted : List (Device × Rat)

namespace Duty

/-- A controller without turnstiles at some time. -/
def start (timeout limit : Number) (now : Rat) : Duty where
  controller := .start timeout limit
  clock := ⟨now, 0⟩
  granted := []

def perform (duty : Duty) (operation : Operation) : Duty where
  controller := (operation.perform duty.clock duty.controller).1
  clock := ⟨operation.timeAfter duty.clock.now, duty.clock.stamp + 1⟩
  granted :=
    match operation, (operation.perform duty.clock duty.controller).2 with
    | .grant device, .ok _ => (device, duty.clock.now) :: duty.granted
    | _, _ => duty.granted

def performAll (duty : Duty) (operations : List Operation) : Duty :=
  operations.foldl perform duty

/-- The moments at which a turnstile was granted, the earliest first. -/
def moments (duty : Duty) (device : Device) : List Rat :=
  ((duty.granted.filter fun (other, _) => other = device).map Prod.snd).reverse

theorem lookup_granted (duty : Duty) (device : Device) :
    duty.granted.lookup device = (duty.moments device).getLast? := by
  rw [moments, List.getLast?_reverse]
  induction duty.granted with
  | nil => rfl
  | cons head rest induction =>
      rcases head with ⟨other, moment⟩
      by_cases same : device = other
      · simp [same]
      · have different : ¬other = device := fun equal => same equal.symm
        simpa [Association.lookup_cons_of_ne same, different] using induction

end Duty

/-- What holds between operations: turnstiles are at rest, their histories are complete, and every
alarm is still to come and due the timeout after the last grant of its turnstile. -/
structure IsCycling (timeout : Nat) (duty : Duty) : Prop where
  rest : duty.controller.AtRest
  traced : duty.controller.ledger.IsTraced
  delay : duty.controller.alarms.delay = timeout
  ordered : duty.controller.alarms.timers.pending.Pairwise fun first second =>
    first.due ≤ second.due
  ahead : ∀ alarm ∈ duty.controller.alarms.timers.pending, duty.clock.now < alarm.due
  due : ∀ alarm ∈ duty.controller.alarms.timers.pending,
    ∃ moment, duty.granted.lookup alarm.item = some moment ∧ alarm.due = moment + timeout
  openings : ∀ device, duty.controller.ledger.openings device =
    (duty.moments device).map fun moment => (Agenda.Clock.mk moment 0).instant

namespace IsCycling

variable {timeout : Nat} {duty : Duty}

/-- Where no turnstile is opened and the alarms that are left are still to come, nothing is lost. -/
theorem goesOn {after : Controller} (cycling : IsCycling timeout duty)
    (continues : duty.controller.Continues after) (rest : after.AtRest) {clock : Agenda.Clock}
    (ahead : ∀ alarm ∈ after.alarms.timers.pending, clock.now < alarm.due) :
    IsCycling timeout { controller := after, clock := clock, granted := duty.granted } where
  rest := rest
  traced := continues.ledger.traced cycling.traced
  delay := continues.delay.trans cycling.delay
  ordered := cycling.ordered.sublist continues.alarms
  ahead := ahead
  due alarm member := cycling.due alarm (continues.alarms.subset member)
  openings device :=
    (continues.ledger.openings cycling.traced device).trans (cycling.openings device)

theorem start (now : Rat) (inRange : 1 ≤ timeout ∧ timeout ≤ Agenda.maxDelay) :
    IsCycling timeout (Duty.start (.ofNat timeout) (.infinite false) now) where
  rest := Controller.atRest_start _ _
  traced := ⟨rfl, fun _ => rfl⟩
  delay := Agenda.delay_ofNat inRange
  ordered := .nil
  ahead _ member := absurd member List.not_mem_nil
  due _ member := absurd member List.not_mem_nil
  openings _ := rfl

/-- A grant to an idle turnstile sets an alarm that is still to come, and due the timeout after the
moment of the grant. The other alarms keep their places. -/
theorem grant_of_idle (cycling : IsCycling timeout duty) (positive : 0 < timeout) {device : Device}
    (idle : duty.controller.state device = .idle) :
    IsCycling timeout (duty.perform (.grant device)) := by
  rcases duty.controller.grant_of_idle duty.clock device idle with ⟨transition, granted⟩
  have after : duty.perform (.grant device) =
      { controller := (duty.controller.grant duty.clock device).1
        clock := ⟨duty.clock.now, duty.clock.stamp + 1⟩
        granted := (device, duty.clock.now) :: duty.granted } := by
    simp only [Duty.perform, Operation.perform, granted, Except.map, Operation.timeAfter]
  have alarms : (duty.controller.grant duty.clock device).1.alarms =
      duty.controller.alarms.arm duty.clock device := by
    rw [granted]
  have ledger : (duty.controller.grant duty.clock device).1.ledger =
      (duty.controller.ledger.apply duty.clock.instant device .grant).1 := by
    rw [granted]
    rfl
  rw [after]
  refine ⟨(cycling.rest.grant idle).1, ?_, ?_, ?_, ?_, ?_, ?_⟩
  · rw [ledger]
    exact cycling.traced.apply _ _ _
  · rw [alarms]
    exact cycling.delay
  · rw [alarms]
    exact Agenda.Timers.pairwise_insert (cycling.ordered.filter _)
  · intro alarm member
    rw [alarms] at member
    rcases Alarms.of_mem_pending_arm _ _ _ member with rfl | ⟨old, _⟩
    · have : (0 : Rat) < timeout := by exact_mod_cast positive
      simpa [cycling.delay] using this
    · exact cycling.ahead alarm old
  · intro alarm member
    rw [alarms] at member
    rcases Alarms.of_mem_pending_arm _ _ _ member with rfl | ⟨old, different⟩
    · rw [cycling.delay]
      exact ⟨duty.clock.now, List.lookup_cons_self, rfl⟩
    · rw [Association.lookup_cons_of_ne different]
      exact cycling.due alarm old
  · intro other
    have opened := duty.controller.ledger.openings_apply duty.clock.instant device other .grant
      cycling.traced.unlimited
    rw [ledger, opened, cycling.openings other]
    by_cases same : other = device
    · subst same
      have now : duty.controller.ledger.state other = .idle := idle
      simp [Duty.moments, now, Agenda.Clock.instant]
    · have different : ¬device = other := fun equal => same equal.symm
      simp [Duty.moments, same, different]

theorem grant_of_waiting (cycling : IsCycling timeout duty) {device : Device}
    (waiting : duty.controller.state device = .waitingRotation) :
    IsCycling timeout (duty.perform (.grant device)) := by
  have refused : (duty.controller.state device).next .grant = none := by
    rw [waiting]
    rfl
  rcases duty.controller.apply_of_refused duty.clock device refused with ⟨fault, same⟩
  have granted : duty.controller.grant duty.clock device =
      ((duty.controller.apply duty.clock device .grant).1, .error fault) := by
    rw [Controller.grant, same]
  have after : duty.perform (.grant device) =
      { controller := (duty.controller.apply duty.clock device .grant).1
        clock := ⟨duty.clock.now, duty.clock.stamp + 1⟩
        granted := duty.granted } := by
    simp only [Duty.perform, Operation.perform, granted, Except.map, Operation.timeAfter]
  rw [after]
  refine cycling.goesOn (Controller.continues_apply ?_)
    (cycling.rest.of_alike (Controller.apply_error (congrArg Prod.snd same))) cycling.ahead
  simp [waiting]

theorem grant (cycling : IsCycling timeout duty) (positive : 0 < timeout) (device : Device) :
    IsCycling timeout (duty.perform (.grant device)) := by
  rcases cycling.rest.rests device with idle | waiting
  · exact cycling.grant_of_idle positive idle
  · exact cycling.grant_of_waiting waiting

theorem perform (cycling : IsCycling timeout duty) (positive : 0 < timeout)
    (operation : Operation) : IsCycling timeout (duty.perform operation) := by
  cases operation with
  | grant device => exact cycling.grant positive device
  | report device status =>
      exact cycling.goesOn (Controller.continues_report status)
        (cycling.rest.report status).rest
        fun alarm member => cycling.ahead alarm
          ((Controller.continues_report status).alarms.subset member)
  | recoverStale device =>
      exact cycling.goesOn Controller.continues_recoverStale cycling.rest.recoverStale.1.rest
        fun alarm member => cycling.ahead alarm
          (Controller.continues_recoverStale.alarms.subset member)
  | passTo moment =>
      -- The alarms that are left are behind those that went off, hence still to come.
      rcases Controller.advance_spec cycling.rest duty.clock (max duty.clock.now moment) with
        ⟨rest, continues, remaining, _⟩
      refine cycling.goesOn continues rest ?_
      rw [remaining]
      exact Agenda.Timers.lt_of_mem_dropWhile cycling.ordered

theorem performAll (cycling : IsCycling timeout duty) (positive : 0 < timeout)
    (operations : List Operation) : IsCycling timeout (duty.performAll operations) := by
  induction operations generalizing duty with
  | nil => exact cycling
  | cons operation rest induction => exact induction (cycling.perform positive operation)

theorem alarm (cycling : IsCycling timeout duty) {device : Device}
    (waiting : duty.controller.state device = .waitingRotation) :
    ∃ moment stamp, (duty.moments device).getLast? = some moment ∧
      duty.controller.alarms.of device = [⟨moment + timeout, stamp, device⟩] ∧
      duty.clock.now < moment + timeout := by
  have armed := (Alarms.isArmed_iff ..).mp ((cycling.rest.armed device).mpr waiting)
  rcases List.mem_map.mp armed with ⟨alarm, member, rfl⟩
  rcases cycling.due alarm member with ⟨moment, last, due⟩
  refine ⟨moment, alarm.stamp, (duty.lookup_granted _).symm.trans last, ?_, ?_⟩
  · rw [← due]
    exact Agenda.Timers.filter_eq_singleton cycling.rest.single member
  · rw [← due]
    exact cycling.ahead alarm member

end IsCycling

namespace Duty

variable {duty : Duty}

/-- The same with a limit on the histories. -/
def limited (duty : Duty) (capacity : Capacity) : Duty :=
  { duty with controller := duty.controller.limited capacity }

theorem perform_limited (capacity : Capacity)
    (unlimited : duty.controller.ledger.capacity = .unlimited) (operation : Operation) :
    (duty.limited capacity).perform operation = (duty.perform operation).limited capacity := by
  have same : operation.perform duty.clock (duty.controller.limited capacity) =
      ((operation.perform duty.clock duty.controller).1.limited capacity,
        (operation.perform duty.clock duty.controller).2) := by
    cases operation with
    | grant device =>
        simp only [Operation.perform, Controller.grant_limited capacity _ _ unlimited]
    | report device status =>
        simp only [Operation.perform, Controller.report_limited capacity _ _ unlimited]
    | recoverStale device =>
        simp only [Operation.perform, Controller.recoverStale_limited capacity _ _ unlimited]
    | passTo moment =>
        simp only [Operation.perform, Controller.advance_limited capacity _ unlimited]
  simp only [perform, limited, same]

theorem performAll_limited {timeout : Nat} (cycling : IsCycling timeout duty)
    (positive : 0 < timeout) (capacity : Capacity) (operations : List Operation) :
    (duty.limited capacity).performAll operations =
      (duty.performAll operations).limited capacity := by
  induction operations generalizing duty with
  | nil => rfl
  | cons operation rest induction =>
      rw [performAll, List.foldl_cons, perform_limited capacity cycling.traced.unlimited]
      exact induction (cycling.perform positive operation)

end Duty

/-- Whatever is asked of a controller in whatever order while time passes, with whatever limit on
histories: between operations every turnstile is idle, or it waits and has the one alarm that is
due the timeout after its last grant. All its events are whole cycles and at most an open one. An
operation that fails changes nothing to be seen, one on a turnstile nothing of the others, and when
time passes only those turnstiles change whose alarms are due. -/
theorem rotation_cycles {timeout : Nat} (inRange : 1 ≤ timeout ∧ timeout ≤ 2147483647)
    (limit : Number) (now : Rat) (operations : List Operation) :
    let duty := (Duty.start (.ofNat timeout) limit now).performAll operations
    let whole := (Duty.start (.ofNat timeout) (.infinite false) now).performAll operations
    duty = whole.limited (.ofNumber 1 limit) ∧
    (∀ device,
      (duty.controller.state device = .idle ∨ duty.controller.state device = .waitingRotation) ∧
      (duty.controller.isArmed device = true ↔
        duty.controller.state device = .waitingRotation) ∧
      (duty.controller.state device = .waitingRotation → ∃ moment stamp,
        (duty.moments device).getLast? = some moment ∧
        duty.controller.alarms.of device = [⟨moment + timeout, stamp, device⟩] ∧
        duty.clock.now < moment + timeout) ∧
      whole.controller.ledger.openings device =
        (duty.moments device).map (fun moment => (Agenda.Clock.mk moment 0).instant) ∧
      whole.controller.ledger.events device ∈ life.matches') ∧
    ∀ operation : Operation,
      let outcome := operation.perform duty.clock duty.controller
      (∀ fault, outcome.2 = .error fault → Controller.Alike duty.controller outcome.1) ∧
      (∀ device, operation.device? = some device →
        Controller.Apart device duty.controller outcome.1) ∧
      ∀ moment device, operation = .passTo moment →
        (∀ alarm ∈ duty.controller.alarms.of device, max duty.clock.now moment < alarm.due) →
        outcome.1.ledger.known? device = duty.controller.ledger.known? device ∧
          outcome.1.alarms.of device = duty.controller.alarms.of device := by
  intro duty whole
  -- The invariant is about the controller that keeps every transition. The limit cuts histories and
  -- nothing else, so the controller at hand shares its states and alarms.
  have start := IsCycling.start now inRange
  have cycling : IsCycling timeout whole := start.performAll inRange.1 operations
  have same : duty = whole.limited (.ofNumber 1 limit) :=
    Duty.performAll_limited start inRange.1 (.ofNumber 1 limit) operations
  have states (device : Device) : duty.controller.state device = whole.controller.state device := by
    rw [same]
    exact Controller.state_limited _ device
  have alarms : duty.controller.alarms = whole.controller.alarms := by
    rw [same]
    rfl
  have moments (device : Device) : duty.moments device = whole.moments device := by
    rw [same]
    rfl
  have rest : duty.controller.AtRest := by
    refine ⟨fun device => ?_, fun device => ?_, ?_⟩
    · rw [states]
      exact cycling.rest.rests device
    · rw [states, Controller.isArmed, alarms]
      exact cycling.rest.armed device
    · rw [alarms]
      exact cycling.rest.single
  refine ⟨same, fun device => ⟨rest.rests device, rest.armed device, ?_, ?_, ?_⟩, ?_⟩
  · intro waiting
    rw [moments, alarms, same]
    exact cycling.alarm ((states device).symm.trans waiting)
  · rw [moments]
    exact cycling.openings device
  · exact State.mem_life (cycling.traced.walked device) (cycling.rest.rests device)
  · intro operation
    refine ⟨fun fault => Operation.perform_error, fun device => Operation.perform_apart, ?_⟩
    rintro moment device rfl later
    exact (Controller.advance_spec rest duty.clock (max duty.clock.now moment)).2.2.2 device later

/-- A turnstile that is granted again after a whole cycle, with a grant that is refused in between,
has the alarm of its second grant. -/
theorem rotation_cycles_granted_again :
    let device : Device := ⟨7, by decide⟩
    let duty := (Duty.start (.ofNat 1000) (.finite 1) 0).performAll
      [.grant device, .report device .completed, .passTo 50, .grant device, .grant device,
        .passTo 1049]
    (1 ≤ 1000 ∧ 1000 ≤ 2147483647) ∧ duty.controller.state device = .waitingRotation ∧
      ∃ stamp, duty.controller.alarms.of device = [⟨50 + 1000, stamp, device⟩] := by
  intro device duty
  have inRange : 1 ≤ 1000 ∧ 1000 ≤ 2147483647 := by decide
  have waiting : duty.controller.state device = .waitingRotation := by decide +kernel
  have granted : duty.moments device = [0, 50] := by decide +kernel
  rcases rotation_cycles inRange (.finite 1) 0 [.grant device, .report device .completed,
    .passTo 50, .grant device, .grant device, .passTo 1049] with ⟨_, turnstiles, _⟩
  rcases (turnstiles device).2.2.1 waiting with ⟨moment, stamp, last, alarm, _⟩
  obtain rfl : 50 = moment := by
    rw [granted] at last
    simpa using last
  exact ⟨inRange, waiting, stamp, alarm⟩

end Gatehouse.Turnstile
