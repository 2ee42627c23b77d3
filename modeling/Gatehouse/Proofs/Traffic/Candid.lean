import Gatehouse.Proofs.Session.Grants
import Gatehouse.Proofs.Traffic.Decided
import Gatehouse.Proofs.Traffic.Views

/-!
# Requests whose decisions can be told

Announcements do not fail where the announcer lists no failures and its history can keep its limit,
and requests of sessions have times that can be announced. `Traffic.Candid` says both, and that
responses keep their seconds; every move keeps it. So a decision about a request of a session ends
with its response, or an announcement may fail (`Candid.comes`).
-/

namespace Gatehouse

open Access

namespace Announcer

/-- Nobody fails on an announcement. -/
def IsReliable (announcer : Announcer) : Prop :=
  announcer.listening = true →
    announcer.failures = [] ∧ (History.countOf announcer.history.limit).isSome = true

variable {announcer : Announcer}

theorem IsReliable.audience (reliable : announcer.IsReliable) (fault : Fault) :
    announcer.audience ≠ .failing fault := by
  unfold Announcer.audience
  cases listening : announcer.listening with
  | false => nofun
  | true =>
      rcases reliable listening with ⟨failures, limit⟩
      have kept : announcer.history.obstacle = none := by
        unfold History.obstacle
        rw [if_neg]
        rw [Option.isNone_eq_false_iff.mpr limit, Bool.and_false]
        exact Bool.false_ne_true
      rw [failures, kept]
      nofun

theorem IsReliable.announce (reliable : announcer.IsReliable) (event : DecisionEvent) :
    (announcer.announce event).1.IsReliable := by
  unfold Announcer.announce
  dsimp only
  split
  · exact reliable
  · exact reliable

end Announcer

namespace Traffic

/-- Responses have the seconds of the terms, and a decision about a request of a session can be
announced if announcements do not fail. -/
structure Candid (traffic : Traffic) (terms : Terms) : Prop where
  seconds_eq : traffic.coordinator.seconds = terms.seconds
  reliable : terms.heard → traffic.announcer.IsReliable
  dated : ∀ request asker visit, traffic.askers.lookup request = some asker →
    traffic.coordinator.visit? request = some visit →
    visit.request.timestamp.isValid = true

variable {traffic : Traffic} {terms : Terms}

namespace Candid

theorem receive (candid : traffic.Candid terms) (id : SessionId) (chunk : Bytes) :
    (traffic.receive id chunk).1.Candid terms := by
  unfold Traffic.receive
  split
  · exact candid
  · exact ⟨candid.seconds_eq, candid.reliable, candid.dated⟩

theorem close (candid : traffic.Candid terms) (id : SessionId) :
    (traffic.closeSession id).Candid terms := by
  unfold closeSession
  split
  · exact ⟨candid.seconds_eq, candid.reliable, candid.dated⟩
  · exact candid

theorem submit (candid : traffic.Candid terms) (numbered : traffic.Numbered) (visit : Visit) :
    (traffic.submit visit).1.Candid terms := by
  refine ⟨candid.seconds_eq, candid.reliable, fun request asker known asked found => ?_⟩
  have old := Nat.ne_of_lt (numbered request asker asked)
  have before : traffic.coordinator.visit? request = some known := by
    have added := Association.lookup_concat request traffic.requests visit
      traffic.coordinator.visits
    rw [if_neg old, Option.or_none] at added
    exact added.symm.trans found
  exact candid.dated request asker known asked before

theorem submitFor (candid : traffic.Candid terms)
    (fresh : traffic.coordinator.visit? traffic.requests = none) (id : SessionId) {visit : Visit}
    (valid : visit.request.timestamp.isValid = true) :
    (traffic.submitFor id visit).1.Candid terms := by
  refine ⟨candid.seconds_eq, candid.reliable, fun request asker known asked found => ?_⟩
  have added : (traffic.submitFor id visit).1.coordinator.visit? request =
      (traffic.coordinator.visit? request).or
        (if request = traffic.requests then some visit else none) :=
    Association.lookup_concat request traffic.requests visit _
  rw [added] at found
  rw [lookup_submitFor] at asked
  by_cases new : request = traffic.requests
  · rw [new, fresh, if_pos rfl, Option.none_or] at found
    cases found
    exact valid
  · rw [if_neg new, Option.or_none] at asked found
    exact candid.dated request asker known asked found

theorem handle (candid : traffic.Candid terms)
    (fresh : traffic.coordinator.visit? traffic.requests = none) (clock : Agenda.Clock)
    (id : SessionId) : (traffic.handle clock id).1.Candid terms := by
  cases found : (traffic.session? id).bind Session.next? with
  | none =>
      rw [traffic.handle_of_none clock found]
      exact candid
  | some both =>
      rcases both with ⟨message, next⟩
      rcases Option.bind_eq_some_iff.mp found with ⟨session, known, first⟩
      have handling : (traffic.handling clock id next message).Candid terms :=
        ⟨candid.seconds_eq, candid.reliable, candid.dated⟩
      rcases traffic.handle_outcome clock known first with
        ⟨_, fault, ended⟩ | ⟨request, asks, passes⟩
      · rw [ended]
        exact handling
      · rw [passes]
        have valid := next.isValid_asking clock traffic.coordinator.turnstiles message asks
        exact handling.submitFor fresh id valid

theorem begin (candid : traffic.Candid terms) (clock : Agenda.Clock) (id : RequestId) :
    (traffic.begin clock id).1.Candid terms := by
  unfold Traffic.begin
  split
  · exact candid
  · exact ⟨candid.seconds_eq, candid.reliable, candid.dated⟩

theorem settle (candid : traffic.Candid terms) (clock : Agenda.Clock) (id : RequestId)
    (outcome : Except Fault Decision) : (traffic.settle clock id outcome).1.Candid terms := by
  unfold Traffic.settle
  split
  · exact candid
  · next visit known =>
      dsimp only
      rw [traffic.coordinator.coordinator_settle clock visit]
      split
      · exact ⟨candid.seconds_eq, candid.reliable, candid.dated⟩
      · exact ⟨candid.seconds_eq, fun heard => (candid.reliable heard).announce _, candid.dated⟩

theorem depart (candid : traffic.Candid terms) {id : RequestId} {visit : Visit}
    (known : traffic.coordinator.visit? id = some visit) (result : Except Fault Outcome) :
    (traffic.depart id result).1.Candid terms := by
  rw [depart_eq known]
  refine ⟨candid.seconds_eq, candid.reliable, fun request asker other asked found => ?_⟩
  rw [show Coordinator.visit? _ request = _ from Coordinator.visit?_depart request] at found
  split at found
  · cases found
  · exact candid.dated request asker other asked found

theorem answer (candid : traffic.Candid terms) (id : RequestId)
    (result : Except Fault Outcome) : (traffic.answer id result).1.Candid terms := by
  unfold Traffic.answer
  split
  · exact ⟨candid.seconds_eq, candid.reliable, candid.dated⟩
  · split
    · exact candid
    · split
      · exact candid
      · exact ⟨candid.seconds_eq, candid.reliable, candid.dated⟩

theorem finish (candid : traffic.Candid terms) (id : SessionId) (fault : Option Fault) :
    (traffic.finish id fault).1.Candid terms := by
  unfold Traffic.finish
  split
  · exact candid
  · exact ⟨candid.seconds_eq, candid.reliable, candid.dated⟩

theorem heard (candid : traffic.Candid terms) (heard : terms.heard) {request : RequestId}
    {asker : SessionId} {visit : Visit} (asked : traffic.askers.lookup request = some asker)
    (known : traffic.coordinator.visit? request = some visit) :
    ¬traffic.announcer.audience.Misses visit := by
  have valid := candid.dated request asker visit asked known
  cases listener : traffic.announcer.audience with
  | nobody => exact id
  | listening =>
      intro invalid
      rw [show visit.request.timestamp = .invalid from invalid] at valid
      cases valid
  | failing fault => exact absurd listener ((candid.reliable heard).audience fault)

end Candid

end Traffic

variable {floor : Floor} {terms : Terms}

theorem Orderly.candid_work (orderly : Orderly floor) (candid : floor.traffic.Candid terms)
    (clock : Agenda.Clock) (place : Nat) :
    (floor.work clock place).traffic.Candid terms := by
  unfold Floor.work
  cases found : floor.tasks[place]? with
  | none => exact candid
  | some task =>
      cases task with
      | verdict id => exact candid
      | job job =>
          cases job with
          | validation job => exact absurd (List.mem_of_getElem? found) (orderly.plain job)
          | begin id => exact candid.begin clock id
          | depart id result =>
              rcases Agenda.Pool.split_at found with ⟨front, back, whole, _⟩
              rcases orderly.take whole rfl with ⟨visit, waiting, taken⟩
              exact candid.depart taken.known result
          | answered id result => exact candid.answer id result
          | handle session => exact candid.handle orderly.queued.fresh.1 clock session
          | handled session fault => exact candid.finish session fault

theorem Orderly.candid_play (orderly : Orderly floor) (numbered : floor.traffic.Numbered)
    (candid : floor.traffic.Candid terms) (move : FloorMove) :
    (floor.play move).traffic.Candid terms := by
  cases move with
  | connect session => exact ⟨candid.seconds_eq, candid.reliable, candid.dated⟩
  | receive session chunk => exact candid.receive session chunk
  | close session => exact candid.close session
  | visit visit => exact candid.submit numbered visit
  | work clock place => exact orderly.candid_work candid clock place
  | decide clock place outcome =>
      show (floor.decide clock place outcome).traffic.Candid terms
      unfold Floor.decide
      split
      · next id _ => exact candid.settle clock id outcome
      · exact candid
  | report clock device status => exact ⟨candid.seconds_eq, candid.reliable, candid.dated⟩
  | ring clock =>
      cases next : floor.turnstiles.alarms.timers.next? with
      | none =>
          rw [floor.play_ring_none clock next]
          exact candid
      | some timer =>
          rw [floor.play_ring_some clock next]
          exact ⟨candid.seconds_eq, candid.reliable, candid.dated⟩

end Gatehouse
