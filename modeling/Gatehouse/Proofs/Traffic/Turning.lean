import Gatehouse.Proofs.Traffic.Sessions
import Gatehouse.Proofs.Turnstile.Punctual

/-!
# What moves turnstiles in the traffic

Of all jobs only three kinds touch a turnstile: the decision of a request may open one, a request
that gets its turn closes one that nobody used, and a message may report on one. `Traffic.Turns`
tells them apart (`turns_perform`). An open cycle is ended by the last two only
(`Traffic.Turns.ends`), and by alarms.
-/

namespace Gatehouse

open Turnstile

namespace Turnstile.Controller

variable (controller : Controller) (clock : Agenda.Clock) (device : Device) {other : Device}

theorem Apart.state {before after : Controller} {device other : Device}
    (apart : Apart device before after) (different : other ≠ device) :
    after.state other = before.state other := by
  unfold Controller.state Ledger.state
  rw [apart.known other different]

theorem ledger_grant :
    (controller.grant clock device).1.ledger = (controller.apply clock device .grant).1.ledger := by
  unfold grant
  rcases controller.apply clock device .grant with ⟨opened, fault | transition⟩ <;> rfl

theorem waiting_grant (waiting : controller.state other = .waitingRotation) :
    (controller.grant clock device).1.state other = .waitingRotation := by
  unfold state
  rw [ledger_grant]
  refine (controller.state_apply clock device other .grant).trans ?_
  split
  · next same => rw [← same, waiting]; rfl
  · exact waiting

/-- A report ends the cycle of its own turnstile only, and not where it says that the reader
waits. -/
theorem waiting_report (status : Status) (waiting : controller.state other = .waitingRotation)
    (apart : ¬(other = device ∧ status ≠ .waiting)) :
    (controller.report clock device status).1.state other = .waitingRotation := by
  by_cases same : other = device
  · subst same
    obtain rfl : status = .waiting := by simpa using apart
    rw [controller.report_of_other clock other (by simp), controller.state_apply, if_pos rfl,
      waiting]
    rfl
  · have apart : Apart device controller (controller.report clock device status).1 :=
      apart_report status
    exact (apart.state same).trans waiting

theorem waiting_recoverStale (waiting : controller.state other = .waitingRotation)
    (different : other ≠ device) :
    (controller.recoverStale clock device).1.state other = .waitingRotation := by
  have apart : Apart device controller (controller.recoverStale clock device).1 :=
    apart_recoverStale
  exact (apart.state different).trans waiting

end Turnstile.Controller

namespace Traffic

/-- The turnstiles. -/
def turnstiles (traffic : Traffic) : Controller :=
  traffic.coordinator.turnstiles

inductive Turns (traffic : Traffic) (clock : Agenda.Clock) : TrafficJob → Controller → Prop
  | still {job : TrafficJob} : Turns traffic clock job traffic.turnstiles
  | granted {id : RequestId} {visit : Visit} {outcome : Except Fault Access.Decision} :
      traffic.coordinator.visit? id = some visit →
      Turns traffic clock (.validation (.outcome id outcome))
        (traffic.turnstiles.grant clock visit.device).1
  | recovered {id : RequestId} {visit : Visit} :
      traffic.coordinator.visit? id = some visit →
      Turns traffic clock (.begin id) (traffic.turnstiles.recoverStale clock visit.device).1
  | reported {id : SessionId} {message : Message} {session : Session} {status : Status} :
      (traffic.session? id).bind Session.next? = some (message, session) →
      Status.ofCommand? message.command = some status →
      Turns traffic clock (.handle id) (traffic.turnstiles.report clock message.device status).1

/-- The jobs that can end the cycle of a turnstile: a request of its device gets its turn, or a
message from it reports that the cycle is over. -/
inductive Ends (traffic : Traffic) (device : Device) : TrafficJob → Prop
  | recovered {id : RequestId} {visit : Visit} :
      traffic.coordinator.visit? id = some visit → visit.device = device →
      Ends traffic device (.begin id)
  | reported {id : SessionId} {message : Message} {session : Session} {status : Status} :
      (traffic.session? id).bind Session.next? = some (message, session) →
      message.device = device → Status.ofCommand? message.command = some status →
      status ≠ .waiting → Ends traffic device (.handle id)

variable {traffic : Traffic} {clock : Agenda.Clock} {job : TrafficJob} {after : Controller}
  {device : Device}

theorem turns_settle (id : RequestId) (outcome : Except Fault Access.Decision)
    (desk : Validation.Desk) :
    traffic.Turns clock (.validation (.outcome id outcome))
      ({ traffic with desk := desk }.settle clock id outcome).1.turnstiles := by
  cases known : traffic.coordinator.visit? id with
  | none =>
      have nobody : ({ traffic with desk := desk } : Traffic).coordinator.visit? id = none := known
      unfold settle
      rw [nobody]
      exact .still
  | some visit =>
      have found : ({ traffic with desk := desk } : Traffic).coordinator.visit? id = some visit :=
        known
      have turned := (turned_settle found clock outcome).1.turnstiles
      unfold turnstiles
      rw [turned, Coordinator.turnstilesAfter]
      split
      · exact .granted known
      · exact .still

theorem turns_handle (id : SessionId) :
    traffic.Turns clock (.handle id) (traffic.handle clock id).1.turnstiles := by
  cases found : (traffic.session? id).bind Session.next? with
  | none =>
      rw [traffic.handle_of_none clock found]
      exact .still
  | some both =>
      rcases both with ⟨message, next⟩
      rcases Option.bind_eq_some_iff.mp found with ⟨session, known, first⟩
      have handled : (traffic.handle clock id).1.turnstiles =
          (next.handle clock traffic.turnstiles message).turnstiles := by
        rcases traffic.handle_outcome clock known first with ⟨-, fault, ended⟩ | ⟨request, -, waits⟩
        · rw [ended]
          rfl
        · rw [waits]
          rfl
      rw [handled]
      unfold Session.handle
      split
      · unfold Session.handleRequest
        split <;> exact .still
      · split
        · next status command => exact .reported found command
        · split <;> exact .still

theorem turns_perform (traffic : Traffic) (clock : Agenda.Clock) (job : TrafficJob) :
    traffic.Turns clock job (traffic.perform clock job).1.turnstiles := by
  cases job with
  | validation job =>
      cases job with
      | outcome id outcome => exact turns_settle id outcome _
      | _ => exact .still
  | begin id =>
      cases known : traffic.coordinator.visit? id with
      | none =>
          unfold perform begin
          simp only [known]
          exact .still
      | some visit =>
          have turned : (traffic.perform clock (.begin id)).1.turnstiles =
              (traffic.turnstiles.recoverStale clock visit.device).1 :=
            (turned_begin known clock).turnstiles
          rw [turned]
          exact .recovered known
  | depart id result =>
      cases known : traffic.coordinator.visit? id with
      | none =>
          unfold perform depart
          simp only [known]
          exact .still
      | some visit =>
          unfold perform
          simp only [depart_eq known]
          exact .still
  | answered id result =>
      have turned : (traffic.perform clock (.answered id result)).1.turnstiles =
          traffic.turnstiles := (traffic.turned_answer id result).1.turnstiles
      rw [turned]
      exact .still
  | handle id => exact turns_handle id
  | handled id fault =>
      have turned : (traffic.perform clock (.handled id fault)).1.turnstiles =
          traffic.turnstiles := (traffic.turned_finish id fault).1.turnstiles
      rw [turned]
      exact .still

theorem Turns.change (turns : traffic.Turns clock job after) :
    Controller.Change clock traffic.turnstiles after := by
  cases turns with
  | still => exact .alike (fun _ => rfl) rfl
  | granted => exact Controller.change_grant ..
  | recovered => exact Controller.change_recoverStale ..
  | reported => exact Controller.change_report ..

theorem Turns.ends (turns : traffic.Turns clock job after)
    (waiting : traffic.turnstiles.state device = .waitingRotation)
    (ended : after.state device ≠ .waitingRotation) : traffic.Ends device job := by
  cases turns with
  | still => exact absurd waiting ended
  | granted => exact absurd (Controller.waiting_grant _ _ _ waiting) ended
  | recovered known =>
      refine .recovered known ?_
      by_contra different
      exact ended (Controller.waiting_recoverStale _ _ _ waiting fun same => different same.symm)
  | @reported id message session status found command =>
      have both : device = message.device ∧ status ≠ .waiting := by
        by_contra apart
        exact ended (Controller.waiting_report _ _ _ _ waiting apart)
      exact .reported found both.1.symm command both.2

end Traffic

end Gatehouse
