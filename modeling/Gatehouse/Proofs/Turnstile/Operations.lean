import Gatehouse.Proofs.Turnstile.Rest
import Gatehouse.Proofs.Turnstile.Words
import Mathlib.Algebra.Order.Ring.Rat
import Mathlib.Data.List.TakeWhile

/-!
# Operations on turnstiles

Everything that can be asked of a controller, and the passing of time, as one type. An operation
that fails changes nothing that can be seen of any turnstile (`perform_error`), and one on some
turnstile changes nothing of the others (`perform_apart`). Time passing lets all alarms go off that
are due, and touches only their turnstiles (`advance_spec`).
-/

namespace Gatehouse.Turnstile

/-- What a controller is asked to do, or that time passes up to a moment. -/
inductive Operation where
  | grant (device : Device)
  | report (device : Device) (status : Status)
  | recoverStale (device : Device)
  | passTo (moment : Rat)
  deriving DecidableEq

namespace Operation

/-- The turnstile that an operation is about. -/
def device? : Operation → Option Device
  | .grant device | .report device _ | .recoverStale device => some device
  | .passTo _ => none

/-- The time after an operation that begins at some time. No operation sets it back. -/
def timeAfter (now : Rat) : Operation → Rat
  | .passTo moment => max now moment
  | _ => now

/-- Performs an operation, and says whether it failed. -/
def perform (clock : Agenda.Clock) (controller : Controller) :
    Operation → Controller × Except Fault Unit
  | .grant device =>
      ((controller.grant clock device).1, (controller.grant clock device).2.map fun _ => ())
  | .report device status =>
      ((controller.report clock device status).1,
        (controller.report clock device status).2.map fun _ => ())
  | .recoverStale device => ((controller.recoverStale clock device).1, .ok ())
  | .passTo moment => ((controller.advance clock (max clock.now moment)).1, .ok ())

end Operation

namespace Ledger

inductive Continues (ledger : Ledger) : Ledger → Prop
  | refl : Continues ledger ledger
  | apply {later : Ledger} {now : Time.Instant} {device : Device} {event : Event}
      (closed : ¬(event = .grant ∧ later.state device = .idle)) (earlier : Continues ledger later) :
      Continues ledger (later.apply now device event).1

variable {ledger middle later : Ledger}

theorem Continues.trans (first : ledger.Continues middle) (second : middle.Continues later) :
    ledger.Continues later := by
  induction second with
  | refl => exact first
  | apply closed _ induction => exact .apply closed induction

theorem Continues.traced (continues : ledger.Continues later) (traced : ledger.IsTraced) :
    later.IsTraced := by
  induction continues with
  | refl => exact traced
  | apply _ _ induction => exact induction.apply _ _ _

theorem Continues.openings (continues : ledger.Continues later) (traced : ledger.IsTraced)
    (device : Device) : later.openings device = ledger.openings device := by
  induction continues with
  | refl => rfl
  | apply closed earlier induction =>
      rw [openings_apply _ _ _ _ _ (earlier.traced traced).unlimited,
        if_neg fun opened => closed opened.2, List.append_nil, induction]

end Ledger

/-- The alarms of one turnstile. -/
def Alarms.of (alarms : Alarms) (device : Device) : List (Agenda.Pending Device) :=
  alarms.timers.pending.filter fun alarm => alarm.item = device

namespace Controller

/-- Two controllers that show the same of every turnstile. -/
structure Alike (left right : Controller) : Prop where
  state : ∀ device, right.state device = left.state device
  history : ∀ device, right.ledger.history device = left.ledger.history device
  alarms : right.alarms = left.alarms

/-- Nothing has changed but for one turnstile. -/
structure Apart (device : Device) (before after : Controller) : Prop where
  known : ∀ other, other ≠ device → after.ledger.known? other = before.ledger.known? other
  alarms : ∀ other, other ≠ device → after.alarms.of other = before.alarms.of other

variable {controller after : Controller} {clock : Agenda.Clock} {device : Device}

theorem AtRest.of_alike (rest : controller.AtRest) (alike : Alike controller after) :
    after.AtRest where
  rests device := by
    rw [alike.state]
    exact rest.rests device
  armed device := by
    rw [alike.state, isArmed, alike.alarms]
    exact rest.armed device
  single := by
    rw [alike.alarms]
    exact rest.single

theorem Apart.refl : Apart device controller controller :=
  ⟨fun _ _ => rfl, fun _ _ => rfl⟩

theorem Apart.trans {later : Controller} (first : Apart device controller after)
    (second : Apart device after later) : Apart device controller later where
  known other different := (second.known other different).trans (first.known other different)
  alarms other different := (second.alarms other different).trans (first.alarms other different)

theorem apart_apply (event : Event) :
    Apart device controller (controller.apply clock device event).1 where
  known other different := by
    have kept (entry : Entry) :
        (controller.ledger.put device entry).known? other = controller.ledger.known? other := by
      rw [Ledger.known?_put, if_neg different]
    rw [Controller.apply]
    rcases controller.ledger.apply_cases clock.instant device event with ⟨_, same⟩ | ⟨_, _, moved⟩
    · simp [same, kept]
    · simp [moved, kept]
  alarms _ _ := rfl

theorem apart_disarm : Apart device controller (controller.disarm device) where
  known _ _ := rfl
  alarms other different := by
    simp only [Alarms.of, disarm, Alarms.disarm, Agenda.Timers.cancel, List.filter_filter]
    apply List.filter_congr
    intro alarm _
    by_cases same : alarm.item = other
    · simp [same, different]
    · simp [same]

theorem apart_arm :
    Apart device controller { controller with alarms := controller.alarms.arm clock device } where
  known _ _ := rfl
  alarms other different := by
    have cleared : Apart device controller (controller.disarm device) := apart_disarm
    exact (Agenda.Timers.filter_insert (decide_eq_false different.symm)).trans
      (cleared.alarms other different)

theorem apart_grant : Apart device controller (controller.grant clock device).1 := by
  have moved : Apart device controller (controller.apply clock device .grant).1 :=
    apart_apply .grant
  rw [grant]
  generalize controller.apply clock device .grant = result at moved
  rcases result with ⟨opened, fault | transition⟩
  · exact moved
  · exact moved.trans apart_arm

theorem apart_report (status : Status) :
    Apart device controller (controller.report clock device status).1 := by
  by_cases ending : controller.state device = .waitingRotation ∧ status ≠ .waiting
  · rw [controller.report_of_end clock device ending.1 ending.2]
    exact (apart_apply status.event).trans (apart_disarm.trans (apart_apply .reset))
  · rw [controller.report_of_other clock device ending]
    exact apart_apply status.event

theorem apart_timeOut : Apart device controller (controller.timeOut clock device) :=
  (apart_apply .timeout).trans (apart_apply .reset)

theorem apart_recoverStale : Apart device controller (controller.recoverStale clock device).1 := by
  rw [recoverStale]
  split
  · exact apart_disarm.trans apart_timeOut
  · exact .refl

theorem apart_expire : Apart device controller (controller.expire clock device).1 := by
  rw [expire]
  split
  · exact apart_timeOut
  · exact .refl

theorem apart_ring {alarm : Agenda.Pending Device} {later : List (Agenda.Pending Device)}
    (pending : controller.alarms.timers.pending = alarm :: later) :
    Apart alarm.item controller (controller.ring clock alarm.item).1 := by
  have rung : Apart alarm.item controller { controller with alarms := controller.alarms.ring } := by
    refine ⟨fun _ _ => rfl, fun other different => ?_⟩
    simp [Alarms.of, Alarms.ring, Agenda.Timers.rest, pending, different.symm]
  exact rung.trans apart_expire

theorem apply_error {event : Event} {fault : Fault}
    (failed : (controller.apply clock device event).2 = .error fault) :
    Alike controller (controller.apply clock device event).1 := by
  rw [Controller.apply] at failed ⊢
  rcases controller.ledger.apply_cases clock.instant device event with ⟨_, same⟩ | ⟨_, _, moved⟩
  · simp only [same]
    refine ⟨fun other => ?_, fun other => ?_, rfl⟩
    · rw [Controller.state, Ledger.state_put, Ledger.state_getD_fresh]
      split
      · next equal => rw [equal]; rfl
      · rfl
    · rw [Ledger.history_put, Ledger.history_getD_fresh]
      split
      · next equal => rw [equal]
      · rfl
  · simp [moved] at failed

theorem grant_error {fault : Fault} (failed : (controller.grant clock device).2 = .error fault) :
    Alike controller (controller.grant clock device).1 := by
  have refused (failed : (controller.apply clock device .grant).2 = .error fault) :
      Alike controller (controller.apply clock device .grant).1 := apply_error failed
  rw [grant] at failed ⊢
  generalize controller.apply clock device .grant = result at failed refused ⊢
  rcases result with ⟨opened, other | transition⟩
  · exact refused failed
  · cases failed

/-- A cycle that ends can be reset, so a report fails before it has changed anything. -/
theorem report_error {status : Status} {fault : Fault}
    (failed : (controller.report clock device status).2 = .error fault) :
    Alike controller (controller.report clock device status).1 := by
  cases possible : (controller.state device).next status.event with
  | none =>
      rcases controller.apply_of_refused clock device possible with ⟨reason, same⟩
      have refused := apply_error (congrArg Prod.snd same)
      rw [report, same]
      exact refused
  | some after =>
      rcases controller.apply_of_possible clock device possible with ⟨transition, moved⟩
      -- The event was possible, so the turnstile stands where its reset is possible too.
      exfalso
      have reached : ((controller.apply clock device status.event).1.disarm device).state device =
          status.event.target := by
        rw [← State.next_eq_target possible]
        have state := controller.state_apply clock device device status.event
        rwa [if_pos rfl, State.after, possible] at state
      have ends (ending : status ≠ .waiting) :
          (((controller.apply clock device status.event).1.disarm device).state device).next
            .reset = some .idle := by
        rw [reached]
        cases status with
        | waiting => exact absurd rfl ending
        | completed => rfl
        | timeout => rfl
      rw [report, moved] at failed
      cases status
      case waiting => cases failed
      all_goals
        rcases apply_of_possible _ clock device (ends (by decide)) with ⟨reset, ended⟩
        simp only at failed
        rw [ended] at failed
        cases failed

structure Continues (before after : Controller) : Prop where
  ledger : before.ledger.Continues after.ledger
  delay : after.alarms.delay = before.alarms.delay
  alarms : after.alarms.timers.pending.Sublist before.alarms.timers.pending

theorem Continues.refl : Continues controller controller :=
  ⟨.refl, rfl, .refl _⟩

theorem Continues.trans {later : Controller} (first : Continues controller after)
    (second : Continues after later) : Continues controller later where
  ledger := first.ledger.trans second.ledger
  delay := second.delay.trans first.delay
  alarms := second.alarms.trans first.alarms

theorem continues_apply {event : Event}
    (closed : ¬(event = .grant ∧ controller.state device = .idle)) :
    Continues controller (controller.apply clock device event).1 :=
  ⟨.apply closed .refl, rfl, .refl _⟩

theorem continues_disarm : Continues controller (controller.disarm device) :=
  ⟨.refl, rfl, List.filter_sublist⟩

theorem continues_timeOut : Continues controller (controller.timeOut clock device) :=
  (continues_apply (by simp)).trans (continues_apply (by simp))

theorem continues_report (status : Status) :
    Continues controller (controller.report clock device status).1 := by
  have closed : ¬(status.event = .grant ∧ controller.state device = .idle) := by
    cases status <;> simp [Status.event]
  by_cases ending : controller.state device = .waitingRotation ∧ status ≠ .waiting
  · rw [controller.report_of_end clock device ending.1 ending.2]
    exact (continues_apply closed).trans (continues_disarm.trans (continues_apply (by simp)))
  · rw [controller.report_of_other clock device ending]
    exact continues_apply closed

theorem continues_recoverStale :
    Continues controller (controller.recoverStale clock device).1 := by
  rw [recoverStale]
  split
  · exact continues_disarm.trans continues_timeOut
  · exact .refl

theorem continues_ring : Continues controller (controller.ring clock device).1 := by
  have rung : Continues controller { controller with alarms := controller.alarms.ring } :=
    ⟨.refl, rfl, List.tail_sublist _⟩
  rw [ring, expire]
  split
  · exact rung.trans continues_timeOut
  · exact rung

theorem expire_alarms (controller : Controller) (alarms : Alarms) (clock : Agenda.Clock)
    (device : Device) :
    ({ controller with alarms := alarms } : Controller).expire clock device =
      ({ (controller.expire clock device).1 with alarms := alarms },
        (controller.expire clock device).2) := by
  have state : ({ controller with alarms := alarms } : Controller).state device =
      controller.state device := rfl
  rw [expire, expire, state]
  split
  · rfl
  · rfl

theorem alarms_expire (controller : Controller) (clock : Agenda.Clock) (device : Device) :
    (controller.expire clock device).1.alarms = controller.alarms := by
  rw [expire]
  split <;> rfl

def waitingFor (controller : Controller) (pending : List (Agenda.Pending Device)) : Controller :=
  { controller with alarms := { controller.alarms with timers := ⟨pending⟩ } }

theorem expireAll_cons (controller : Controller) (stamp : Nat) (alarm : Agenda.Pending Device)
    (due : List (Agenda.Pending Device)) :
    (controller.expireAll stamp (alarm :: due)).1 =
      ((controller.expire ⟨alarm.due, stamp⟩ alarm.item).1.expireAll stamp due).1 :=
  rfl

theorem expireAll_spec (rest : controller.AtRest) (stamp : Nat)
    {due later : List (Agenda.Pending Device)}
    (pending : controller.alarms.timers.pending = due ++ later) :
    let after := ((controller.waitingFor later).expireAll stamp due).1
    after.AtRest ∧ Continues controller after ∧ after.alarms.timers.pending = later ∧
      ∀ device, (∀ alarm ∈ due, alarm.item ≠ device) →
        after.ledger.known? device = controller.ledger.known? device := by
  -- Each step is a ring of the controller that still has all its alarms: their removal in advance
  -- changes nothing of what a ring does to the ledger.
  induction due generalizing controller with
  | nil =>
      have same : controller.waitingFor later = controller := by
        rw [List.nil_append] at pending
        subst pending
        rfl
      simp only [expireAll, same]
      exact ⟨rest, .refl, pending, fun _ _ => trivial⟩
  | cons alarm due induction =>
      have calm : Calm controller (controller.ring ⟨alarm.due, stamp⟩ alarm.item).1 :=
        rest.ring (by simp [Agenda.Timers.next?, pending])
      have alarms : (controller.ring ⟨alarm.due, stamp⟩ alarm.item).1.alarms =
          controller.alarms.ring :=
        alarms_expire _ _ _
      have left : (controller.ring ⟨alarm.due, stamp⟩ alarm.item).1.alarms.timers.pending =
          due ++ later := by
        simp [alarms, Alarms.ring, Agenda.Timers.rest, pending]
      have expired : ((controller.waitingFor later).expire ⟨alarm.due, stamp⟩ alarm.item).1 =
          (controller.ring ⟨alarm.due, stamp⟩ alarm.item).1.waitingFor later := by
        simp only [waitingFor, ring, expire_alarms]
        rfl
      rcases induction calm.rest left with ⟨atRest, continues, remaining, untouched⟩
      rw [expireAll_cons, expired]
      refine ⟨atRest, continues_ring.trans continues, remaining, ?_⟩
      intro device apart
      simp only [List.mem_cons, forall_eq_or_imp] at apart
      exact (untouched device apart.2).trans ((apart_ring pending).known device apart.1.symm)

/-- When time passes, all alarms go off that are due by then; a turnstile without such an alarm
stays as it is. -/
theorem advance_spec (rest : controller.AtRest) (clock : Agenda.Clock) (target : Rat) :
    let after := (controller.advance clock target).1
    after.AtRest ∧ Continues controller after ∧
      after.alarms.timers.pending =
        controller.alarms.timers.pending.dropWhile (fun alarm => alarm.due ≤ target) ∧
      ∀ device, (∀ alarm ∈ controller.alarms.of device, target < alarm.due) →
        after.ledger.known? device = controller.ledger.known? device ∧
          after.alarms.of device = controller.alarms.of device := by
  have split := List.takeWhile_append_dropWhile (p := fun alarm => decide (alarm.due ≤ target))
    (l := controller.alarms.timers.pending)
  have passed : (controller.advance clock target).1 = ((controller.waitingFor
      (controller.alarms.timers.pending.dropWhile fun alarm => alarm.due ≤ target)).expireAll
        clock.stamp
        (controller.alarms.timers.pending.takeWhile fun alarm => alarm.due ≤ target)).1 :=
    rfl
  rw [passed]
  rcases expireAll_spec rest clock.stamp split.symm with ⟨atRest, continues, remaining, untouched⟩
  refine ⟨atRest, continues, remaining, ?_⟩
  intro device later
  have early : ∀ alarm ∈ controller.alarms.timers.pending.takeWhile
      (fun alarm => alarm.due ≤ target), alarm.item ≠ device := by
    intro alarm member equal
    have due := List.mem_takeWhile_imp member
    have mine : alarm ∈ controller.alarms.of device :=
      List.mem_filter.mpr ⟨(List.takeWhile_sublist _).subset member, by simpa using equal⟩
    exact absurd (later alarm mine) (Rat.not_lt.mpr (by simpa using due))
  refine ⟨untouched device early, ?_⟩
  have none : (controller.alarms.timers.pending.takeWhile fun alarm => alarm.due ≤ target).filter
      (fun alarm => alarm.item = device) = [] := by
    simpa using early
  have whole := congrArg (List.filter fun alarm => decide (alarm.item = device)) split
  rw [List.filter_append, none, List.nil_append] at whole
  rw [Alarms.of, remaining, whole, Alarms.of]

end Controller

namespace Operation

variable {operation : Operation} {clock : Agenda.Clock} {controller : Controller}

theorem map_eq_error_iff {α β : Type} {outcome : Except Fault α} {change : α → β} {fault : Fault} :
    outcome.map change = .error fault ↔ outcome = .error fault := by
  cases outcome <;> simp [Except.map]

theorem perform_error {fault : Fault}
    (failed : (operation.perform clock controller).2 = .error fault) :
    Controller.Alike controller (operation.perform clock controller).1 := by
  cases operation with
  | grant device => exact Controller.grant_error (map_eq_error_iff.mp failed)
  | report device status => exact Controller.report_error (map_eq_error_iff.mp failed)
  | recoverStale device => cases failed
  | passTo moment => cases failed

theorem perform_apart {device : Device} (about : operation.device? = some device) :
    Controller.Apart device controller (operation.perform clock controller).1 := by
  cases operation with
  | grant other =>
      cases about
      exact Controller.apart_grant
  | report other status =>
      cases about
      exact Controller.apart_report status
  | recoverStale other =>
      cases about
      exact Controller.apart_recoverStale
  | passTo moment => cases about

end Operation

end Gatehouse.Turnstile
