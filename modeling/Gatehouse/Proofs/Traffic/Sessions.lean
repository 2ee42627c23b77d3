import Gatehouse.Proofs.Traffic.Steps

/-!
# What sessions do to the requests

Taking bytes in, handling messages and passing results on leave the requests of all devices where
they are, except that a message may bring a new one; a report on a rotation moves its turnstile but
never opens it.
-/

namespace Gatehouse

open Access

def TrafficJob.isHandling : TrafficJob → Bool
  | .handle _ | .handled .. => true
  | _ => false

theorem Task.request?_of_handling {job : TrafficJob} (handling : job.isHandling = true) :
    (Task.job job).request? = none := by
  cases job <;> first | rfl | cases handling

namespace Session

variable (session : Session) (clock : Agenda.Clock) (turnstiles : Turnstile.Controller)
  (message : Message)

theorem handle_turnstiles :
    (session.handle clock turnstiles message).turnstiles = turnstiles ∨
      ∃ status, (session.handle clock turnstiles message).turnstiles =
        (turnstiles.report clock message.device status).1 := by
  unfold handle
  split
  · unfold handleRequest
    split <;> exact .inl rfl
  · split
    · next status _ =>
        unfold handleStatus
        exact .inr ⟨status, rfl⟩
    · split <;> exact .inl rfl

theorem handle_asking {request : Request}
    (asking : (session.handle clock turnstiles message).progress = .asking request) :
    message.command = .accessRequest ∧
      (session.handle clock turnstiles message).turnstiles = turnstiles := by
  unfold handle at asking ⊢
  split
  · next asks =>
      refine ⟨asks, ?_⟩
      unfold handleRequest
      split <;> rfl
  · next other =>
      rw [if_neg other] at asking
      split at asking
      · unfold handleStatus at asking
        cases asking
      · split at asking <;> cases asking

end Session

namespace Traffic

variable (traffic : Traffic)

theorem Turned.same (traffic : Traffic) : traffic.Turned traffic traffic.coordinator.turnstiles :=
  ⟨rfl, rfl, rfl, rfl, rfl⟩

theorem turned_receive (session : SessionId) (chunk : Bytes) :
    traffic.Turned (traffic.receive session chunk).1 traffic.coordinator.turnstiles ∧
      ∀ job ∈ (traffic.receive session chunk).2, job.2.isHandling = true := by
  unfold receive
  split
  · exact ⟨.same traffic, List.forall_mem_nil _⟩
  · refine ⟨⟨rfl, rfl, rfl, rfl, rfl⟩, fun job member => ?_⟩
    dsimp only at member
    split at member
    · rw [List.mem_singleton.mp member]
      rfl
    · cases member

theorem turned_close (session : SessionId) :
    traffic.Turned (traffic.closeSession session) traffic.coordinator.turnstiles := by
  unfold closeSession
  split
  · exact ⟨rfl, rfl, rfl, rfl, rfl⟩
  · exact .same traffic

theorem turned_answer (id : RequestId) (result : Except Fault Outcome) :
    traffic.Turned (traffic.answer id result).1 traffic.coordinator.turnstiles ∧
      ∀ job ∈ (traffic.answer id result).2, job.2.isHandling = true := by
  unfold answer
  split
  · exact ⟨⟨rfl, rfl, rfl, rfl, rfl⟩, List.forall_mem_nil _⟩
  · split
    · exact ⟨.same traffic, List.forall_mem_nil _⟩
    · split
      · exact ⟨.same traffic, List.forall_mem_nil _⟩
      · refine ⟨⟨rfl, rfl, rfl, rfl, rfl⟩, fun job member => ?_⟩
        rw [List.mem_singleton.mp member]
        rfl

theorem turned_finish (session : SessionId) (fault : Option Fault) :
    traffic.Turned (traffic.finish session fault).1 traffic.coordinator.turnstiles ∧
      ∀ job ∈ (traffic.finish session fault).2, job.2.isHandling = true := by
  unfold finish
  split
  · exact ⟨.same traffic, List.forall_mem_nil _⟩
  · refine ⟨⟨rfl, rfl, rfl, rfl, rfl⟩, fun job member => ?_⟩
    dsimp only at member
    split at member
    · cases member
    · rw [List.mem_singleton.mp member]
      rfl

/-- A visit comes in: it joins the line before its device, and is called where nobody was there. -/
structure Submitted (before after : Traffic) (visit : Visit) (jobs : Agenda.Line TrafficJob) :
    Prop where
  coordinator : after.coordinator = (before.coordinator.submit before.requests visit).1
  requests : after.requests = before.requests + 1
  askers : ∀ request asker, after.askers.lookup request = some asker →
    before.askers.lookup request = some asker ∨ request = before.requests
  jobs : jobs =
    if (before.coordinator.locks.line visit.device).isEmpty then [(0, .begin before.requests)]
    else []

theorem submitted_submit (visit : Visit) :
    traffic.Submitted (traffic.submit visit).1 visit (traffic.submit visit).2.2 :=
  ⟨rfl, rfl, fun _ _ asked => .inl asked, rfl⟩

theorem lookup_submitFor (id : SessionId) (visit : Visit) (request : RequestId) :
    (traffic.submitFor id visit).1.askers.lookup request =
      (traffic.askers.lookup request).or (if request = traffic.requests then some id else none) :=
  Association.lookup_concat request traffic.requests id traffic.askers

theorem asked_submitFor (id : SessionId) (visit : Visit) {request : RequestId}
    {asker : SessionId}
    (found : (traffic.submitFor id visit).1.askers.lookup request = some asker) :
    traffic.askers.lookup request = some asker ∨ request = traffic.requests ∧ asker = id := by
  rw [lookup_submitFor] at found
  rcases Option.or_eq_some_iff.mp found with before | ⟨_, now⟩
  · left
    exact before
  · right
    split at now
    · next new => exact ⟨new, (Option.some.inj now).symm⟩
    · cases now

variable (clock : Agenda.Clock)

theorem handle_of_none {id : SessionId}
    (nothing : (traffic.session? id).bind Session.next? = none) :
    traffic.handle clock id = (traffic, []) := by
  unfold handle
  rw [nothing]

/-- The traffic after a session has handled a message, as far as nobody is asked about it. -/
def handling (traffic : Traffic) (clock : Agenda.Clock) (id : SessionId) (session : Session)
    (message : Message) : Traffic :=
  let handled := session.handle clock traffic.coordinator.turnstiles message
  { traffic with
    coordinator := { traffic.coordinator with turnstiles := handled.turnstiles } }.putSession
      id handled.session handled.effects

theorem handle_outcome {id : SessionId}
    {session next : Session} {message : Message} (known : traffic.session? id = some session)
    (first : session.next? = some (message, next)) :
    ((∀ request, (next.handle clock traffic.coordinator.turnstiles message).progress ≠
        .asking request) ∧
      ∃ fault, traffic.handle clock id =
        (traffic.handling clock id next message, [(roundsToHandled, .handled id fault)])) ∨
      ∃ request, (next.handle clock traffic.coordinator.turnstiles message).progress =
          .asking request ∧
        traffic.handle clock id = (traffic.handling clock id next message).submitFor id
          { device := message.device, request := request, origin := .device } := by
  have found : (traffic.session? id).bind Session.next? = some (message, next) := by
    rw [known]
    exact first
  unfold handle
  rw [found]
  dsimp only
  cases progress : (next.handle clock traffic.coordinator.turnstiles message).progress with
  | done =>
      left
      exact ⟨nofun, none, rfl⟩
  | failed fault =>
      left
      exact ⟨nofun, some fault, rfl⟩
  | asking request =>
      right
      exact ⟨request, rfl, rfl⟩

theorem handle_cases (rest : traffic.coordinator.turnstiles.AtRest) (id : SessionId) :
    (∃ turnstiles, traffic.Turned (traffic.handle clock id).1 turnstiles ∧
        traffic.coordinator.turnstiles.Calm turnstiles ∧
        ∀ job ∈ (traffic.handle clock id).2, job.2.isHandling = true) ∨
      ∃ visit, traffic.Submitted (traffic.handle clock id).1 visit
        (traffic.handle clock id).2 := by
  cases found : (traffic.session? id).bind Session.next? with
  | none =>
      rw [traffic.handle_of_none clock found]
      exact .inl ⟨_, .same traffic, .refl rest, List.forall_mem_nil _⟩
  | some both =>
      rcases both with ⟨message, next⟩
      rcases Option.bind_eq_some_iff.mp found with ⟨session, known, first⟩
      have calm : traffic.coordinator.turnstiles.Calm
          (next.handle clock traffic.coordinator.turnstiles message).turnstiles := by
        rcases next.handle_turnstiles clock traffic.coordinator.turnstiles message with
          same | ⟨status, moved⟩
        · rw [same]
          exact .refl rest
        · rw [moved]
          exact rest.report status
      rcases traffic.handle_outcome clock known first with
        ⟨-, fault, ended⟩ | ⟨request, asks, waits⟩
      · rw [ended]
        refine .inl ⟨_, ⟨rfl, rfl, rfl, rfl, rfl⟩, calm, fun job member => ?_⟩
        rw [List.mem_singleton.mp member]
        rfl
      · rw [waits]
        rcases next.handle_asking clock traffic.coordinator.turnstiles message asks with ⟨-, same⟩
        have still : (traffic.handling clock id next message).coordinator =
            traffic.coordinator :=
          congrArg (fun turnstiles => { traffic.coordinator with turnstiles := turnstiles }) same
        refine .inr ⟨{ device := message.device, request := request, origin := .device }, ?_, rfl,
          ?_, rfl⟩
        · exact congrArg (fun known : Coordinator => (known.submit traffic.requests _).1) still
        · intro asked asker found
          exact (asked_submitFor _ id _ found).imp_right And.left

end Traffic

end Gatehouse
