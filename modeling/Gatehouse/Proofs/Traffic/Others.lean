import Gatehouse.Proofs.Traffic.Views

/-!
# What happens to others

Steps of other sessions, requests of other sessions, decisions and turnstiles pass a session by:
they change nothing in its view and bring no step of it (`Traffic.Passes`).
-/

namespace Gatehouse

open Access

namespace Traffic

/-- What happens leaves a session alone, and what follows from it is no step of the session. -/
structure Passes (id : SessionId) (traffic : Traffic)
    (outcome : Traffic × Agenda.Line TrafficJob) : Prop where
  spares : Spares id traffic outcome.1
  jobs : ∀ job ∈ outcome.2, Task.session? outcome.1.askers (.job job.2) ≠ some id

variable {traffic : Traffic} {id other : SessionId}

theorem Passes.stepsOf {outcome : Traffic × Agenda.Line TrafficJob}
    (passes : Passes id traffic outcome) (rest : List Task) :
    outcome.1.stepsOf id (rest ++ outcome.2.map fun entry => Task.job entry.2) =
      traffic.stepsOf id rest := by
  apply passes.spares.stepsOf
  intro task member
  rcases List.mem_map.mp member with ⟨job, present, rfl⟩
  exact passes.jobs job present

theorem Spares.passes {after : Traffic} (spares : Spares id traffic after) :
    Passes id traffic (after, []) :=
  ⟨spares, List.forall_mem_nil _⟩

theorem passes_receive (different : id ≠ other) (chunk : Bytes) :
    Passes id traffic (traffic.receive other chunk) := by
  unfold receive
  split
  · exact (Spares.refl id traffic).passes
  · refine ⟨.putSession different _ _, ?_⟩
    intro job member
    dsimp only at member
    split at member
    · rw [List.mem_singleton.mp member]
      exact fun same => different (Option.some.inj same).symm
    · cases member

theorem spares_closeSession (different : id ≠ other) :
    Spares id traffic (traffic.closeSession other) := by
  unfold closeSession
  split
  · next session _ =>
      apply Spares.of_same
      · exact (Association.lookup_overwritten id other _ _).trans (if_neg different)
      · rfl
      · rfl
      · rfl
  · exact .refl id traffic

theorem spares_openSession {session : Session} (known : traffic.session? id = some session)
    (another : Session) : Spares id traffic (traffic.openSession another).1 := by
  apply Spares.of_same
  · show (traffic.sessions ++ _).lookup id = _
    rw [List.lookup_append, show traffic.sessions.lookup id = _ from known]
    exact known.symm
  · rfl
  · rfl
  · rfl

theorem asked?_submit (numbered : traffic.Numbered) (visit : Visit) (request : RequestId) :
    (traffic.submit visit).1.asked? id request = traffic.asked? id request := by
  show (if traffic.askers.lookup request = some id then
    (traffic.coordinator.submit traffic.requests visit).1.visit? request else none) = _
  unfold asked?
  split
  · next mine =>
      have old := numbered _ _ mine
      refine (Association.lookup_concat request traffic.requests visit _).trans ?_
      rw [if_neg (Nat.ne_of_lt old), Option.or_none]
      rfl
  · rfl

theorem passes_submit (numbered : traffic.Numbered) (visit : Visit) :
    Passes id traffic ((traffic.submit visit).1, (traffic.submit visit).2.2) := by
  refine ⟨⟨rfl, fun _ => Iff.rfl, asked?_submit numbered visit, rfl⟩, ?_⟩
  intro job member
  have jobs := (traffic.submitted_submit visit).jobs
  rw [jobs] at member
  split at member
  · rw [List.mem_singleton.mp member]
    intro same
    cases same
  · cases member

theorem spares_begin (clock : Agenda.Clock) (request : RequestId) :
    Spares id traffic (traffic.begin clock request).1 := by
  unfold begin
  split
  · exact .refl id traffic
  · apply Spares.of_same
    · rfl
    · rfl
    · rfl
    · exact writtenBy_note _ id _

theorem writtenBy_announce (announcer : Announcer) (event : DecisionEvent) :
    (traffic.reveal (announcer.announce event).2).writtenBy id = traffic.writtenBy id := by
  show (traffic.happenings ++ (announcer.announce event).2).filterMap _ = _
  rw [List.filterMap_append]
  unfold Announcer.announce
  dsimp only
  split
  · exact List.append_nil _
  · exact List.append_nil _

theorem spares_settle (clock : Agenda.Clock) (request : RequestId)
    (outcome : Except Fault Decision) :
    Spares id traffic (traffic.settle clock request outcome).1 := by
  unfold settle
  split
  · exact .refl id traffic
  · next visit known =>
      have settled := traffic.coordinator.coordinator_settle clock visit
        traffic.announcer.audience outcome
      dsimp only
      rw [settled]
      split
      · apply Spares.of_same
        · rfl
        · rfl
        · rfl
        · exact writtenBy_note _ id _
      · apply Spares.of_same
        · rfl
        · rfl
        · rfl
        · exact (writtenBy_announce _ _).trans (writtenBy_note _ id _)

theorem passes_depart {request : RequestId} {visit : Visit}
    (known : traffic.coordinator.visit? request = some visit)
    (another : traffic.askers.lookup request ≠ some id) (result : Except Fault Outcome) :
    Passes id traffic (traffic.depart request result) := by
  rw [depart_eq known]
  constructor
  case spares =>
    refine ⟨rfl, fun _ => Iff.rfl, fun asked => ?_, rfl⟩
    show (if traffic.askers.lookup asked = some id then
      (traffic.coordinator.depart request visit).1.visit? asked else none) = _
    unfold asked?
    split
    · next mine =>
        refine (Association.lookup_filter_ne asked request _).trans ?_
        rw [if_neg fun same : asked = request => another (same ▸ mine)]
        rfl
    · rfl
  case jobs =>
    intro job member
    rcases List.mem_append.mp member with next | answered
    · rcases List.mem_map.mp next with ⟨follower, _, rfl⟩
      intro same
      cases same
    · rw [List.mem_singleton.mp answered]
      exact another

theorem passes_answer {request : RequestId} (another : traffic.askers.lookup request ≠ some id)
    (result : Except Fault Outcome) : Passes id traffic (traffic.answer request result) := by
  unfold answer
  split
  · apply Spares.passes
    apply Spares.of_same
    · rfl
    · rfl
    · rfl
    · exact List.filterMap_append.trans (List.append_nil _)
  · next asker found =>
      have different : id ≠ asker := fun same => another (same ▸ found)
      split
      · exact (Spares.refl id traffic).passes
      · split
        · exact (Spares.refl id traffic).passes
        · refine ⟨.putSession different _ _, ?_⟩
          intro job member
          rw [List.mem_singleton.mp member]
          exact fun same => different (Option.some.inj same).symm

theorem passes_submitFor (numbered : traffic.Numbered) (different : id ≠ other) (visit : Visit) :
    Passes id traffic (traffic.submitFor other visit) := by
  have askers (request : RequestId) :
      (traffic.submitFor other visit).1.askers.lookup request = some id ↔
        traffic.askers.lookup request = some id := by
    rw [lookup_submitFor]
    cases traffic.askers.lookup request with
    | some asker => exact Iff.rfl
    | none =>
        rw [Option.none_or]
        constructor
        · intro mine
          split at mine
          · exact absurd (Option.some.inj mine).symm different
          · cases mine
        · intro mine
          cases mine
  have passes : Passes id traffic ((traffic.submit visit).1, (traffic.submit visit).2.2) :=
    passes_submit numbered visit
  constructor
  case spares =>
    refine ⟨rfl, askers, fun request => ?_, rfl⟩
    unfold asked?
    simp only [askers]
    exact passes.spares.asked request
  case jobs =>
    intro job member
    have jobs : (traffic.submitFor other visit).2 = (traffic.submit visit).2.2 := rfl
    rw [jobs, (traffic.submitted_submit visit).jobs] at member
    split at member
    · rw [List.mem_singleton.mp member]
      intro same
      cases same
    · cases member

theorem Spares.trans {before middle after : Traffic} (first : Spares id before middle)
    (later : Spares id middle after) : Spares id before after where
  session := later.session.trans first.session
  askers request := (later.askers request).trans (first.askers request)
  asked request := (later.asked request).trans (first.asked request)
  written := later.written.trans first.written

theorem spares_handling (different : id ≠ other) (clock : Agenda.Clock) (session : Session)
    (message : Message) : Spares id traffic (traffic.handling clock other session message) := by
  apply Spares.of_same
  · exact (session?_putSession _ other id _ _).trans (if_neg different)
  · rfl
  · rfl
  · refine (writtenBy_putSession _ other id _ _).trans ?_
    rw [if_neg fun same => different same.symm, List.append_nil]
    rfl

theorem passes_handle (numbered : traffic.Numbered) (different : id ≠ other)
    (clock : Agenda.Clock) : Passes id traffic (traffic.handle clock other) := by
  cases found : (traffic.session? other).bind Session.next? with
  | none =>
      rw [traffic.handle_of_none clock found]
      exact (Spares.refl id traffic).passes
  | some both =>
      rcases both with ⟨message, next⟩
      rcases Option.bind_eq_some_iff.mp found with ⟨session, known, first⟩
      have spares : Spares id traffic (traffic.handling clock other next message) :=
        spares_handling different clock next message
      rcases traffic.handle_outcome clock known first with ⟨_, fault, ended⟩ | ⟨request, _, asks⟩
      · rw [ended]
        refine ⟨spares, ?_⟩
        intro job member
        rw [List.mem_singleton.mp member]
        exact fun same => different (Option.some.inj same).symm
      · rw [asks]
        have still : (traffic.handling clock other next message).Numbered := numbered
        have passes := passes_submitFor still different
          { device := message.device, request := request, origin := .device }
        exact ⟨spares.trans passes.spares, passes.jobs⟩

theorem passes_finish (different : id ≠ other) (fault : Option Fault) :
    Passes id traffic (traffic.finish other fault) := by
  unfold finish
  split
  · exact (Spares.refl id traffic).passes
  · refine ⟨.putSession different _ _, ?_⟩
    intro job member
    dsimp only at member
    split at member
    · cases member
    · rw [List.mem_singleton.mp member]
      exact fun same => different (Option.some.inj same).symm

end Traffic

end Gatehouse
