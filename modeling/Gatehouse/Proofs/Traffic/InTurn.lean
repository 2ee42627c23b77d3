import Gatehouse.Proofs.Traffic.Floor
import Gatehouse.Proofs.Traffic.Passing
import Gatehouse.Proofs.Turnstile.Limit

/-!
# Passing in turn

What holds of a floor after any moves whatever: decisions of one device come one after another and
in the order of submission, a grant finds its turnstile idle, and a turnstile is opened exactly as
often as somebody was let pass there: `passing_in_turn`.

How often it was opened is counted where the turnstiles remember every transition. That loses
nothing: how many they remember is seen nowhere else, since every move comes to the same with a
limit as without one, up to the histories (`Floor.play_limited`).
-/

namespace Gatehouse

open Access

section

variable (capacity : Capacity) (clock : Agenda.Clock)

namespace Session

variable (session : Session) {turnstiles : Turnstile.Controller} (message : Message)

theorem handleStatus_limited (unlimited : turnstiles.ledger.capacity = .unlimited)
    (status : Turnstile.Status) :
    session.handleStatus clock (turnstiles.limited capacity) message status =
      { session.handleStatus clock turnstiles message status with
        turnstiles :=
          (session.handleStatus clock turnstiles message status).turnstiles.limited capacity } := by
  unfold handleStatus
  rw [Turnstile.Controller.report_limited capacity clock message.device unlimited status]

theorem handle_limited (unlimited : turnstiles.ledger.capacity = .unlimited) :
    session.handle clock (turnstiles.limited capacity) message =
      { session.handle clock turnstiles message with
        turnstiles := (session.handle clock turnstiles message).turnstiles.limited capacity } := by
  unfold handle
  split
  · unfold handleRequest
    split <;> rfl
  · split
    · exact session.handleStatus_limited capacity clock message unlimited _
    · split <;> rfl

end Session

namespace Coordinator

/-- The coordinator with a limit on the histories of its turnstiles. -/
def limited (coordinator : Coordinator) : Coordinator :=
  { coordinator with turnstiles := coordinator.turnstiles.limited capacity }

variable {coordinator : Coordinator} (visit : Visit)

theorem admitted_limited (unlimited : coordinator.turnstiles.ledger.capacity = .unlimited) :
    (coordinator.limited capacity).admitted clock visit =
      ((coordinator.admitted clock visit).1.limited capacity,
        (coordinator.admitted clock visit).2) := by
  have moved := Turnstile.Controller.recoverStale_limited capacity clock visit.device unlimited
  unfold admitted limited
  rw [moved]

theorem settle_limited (unlimited : coordinator.turnstiles.ledger.capacity = .unlimited)
    (audience : Audience) (outcome : Except Fault Decision) :
    (coordinator.limited capacity).settle clock visit audience outcome =
      { coordinator.settle clock visit audience outcome with
        coordinator :=
          (coordinator.settle clock visit audience outcome).coordinator.limited capacity } := by
  have opened := Turnstile.Controller.grant_limited capacity clock visit.device unlimited
  unfold settle limited
  cases outcome with
  | error fault => rfl
  | ok decision =>
      dsimp only
      split
      · rw [opened]
        rcases coordinator.turnstiles.grant clock visit.device with ⟨moved, fault | step⟩ <;> rfl
      · rfl

end Coordinator

namespace Traffic

/-- The traffic with a limit on the histories of its turnstiles. -/
def limited (traffic : Traffic) : Traffic :=
  { traffic with coordinator := traffic.coordinator.limited capacity }

variable {traffic : Traffic}

theorem receive_limited (id : SessionId) (chunk : Bytes) :
    (traffic.limited capacity).receive id chunk =
      ((traffic.receive id chunk).1.limited capacity, (traffic.receive id chunk).2) := by
  have same : (traffic.limited capacity).session? id = traffic.session? id := rfl
  unfold receive
  rw [same]
  cases traffic.session? id <;> rfl

theorem closeSession_limited (id : SessionId) :
    (traffic.limited capacity).closeSession id = (traffic.closeSession id).limited capacity := by
  have same : (traffic.limited capacity).session? id = traffic.session? id := rfl
  unfold closeSession
  rw [same]
  cases traffic.session? id <;> rfl

theorem depart_limited (id : RequestId) (result : Except Fault Outcome) :
    (traffic.limited capacity).depart id result =
      ((traffic.depart id result).1.limited capacity, (traffic.depart id result).2) := by
  have same : (traffic.limited capacity).coordinator.visit? id = traffic.coordinator.visit? id :=
    rfl
  unfold depart
  rw [same]
  cases traffic.coordinator.visit? id <;> rfl

theorem answer_limited (id : RequestId) (result : Except Fault Outcome) :
    (traffic.limited capacity).answer id result =
      ((traffic.answer id result).1.limited capacity, (traffic.answer id result).2) := by
  have asked : (traffic.limited capacity).askers = traffic.askers := rfl
  have same (id : SessionId) : (traffic.limited capacity).session? id = traffic.session? id := rfl
  unfold answer
  rw [asked]
  cases traffic.askers.lookup id with
  | none => rfl
  | some asker =>
      simp only [same]
      cases traffic.session? asker with
      | none => rfl
      | some session =>
          dsimp only
          cases session.current <;> rfl

theorem finish_limited (id : SessionId) (fault : Option Fault) :
    (traffic.limited capacity).finish id fault =
      ((traffic.finish id fault).1.limited capacity, (traffic.finish id fault).2) := by
  have same : (traffic.limited capacity).session? id = traffic.session? id := rfl
  unfold finish
  rw [same]
  cases traffic.session? id <;> rfl

section

variable (unlimited : traffic.coordinator.turnstiles.ledger.capacity = .unlimited)

include unlimited

theorem begin_limited (id : RequestId) :
    (traffic.limited capacity).begin clock id =
      ((traffic.begin clock id).1.limited capacity, (traffic.begin clock id).2) := by
  have same : (traffic.limited capacity).coordinator.visit? id = traffic.coordinator.visit? id :=
    rfl
  unfold begin
  rw [same]
  cases traffic.coordinator.visit? id with
  | none => rfl
  | some visit =>
      have admitted := Coordinator.admitted_limited capacity clock visit unlimited
      dsimp only [limited] at admitted ⊢
      rw [admitted]
      rfl

theorem settle_limited (id : RequestId) (outcome : Except Fault Decision) :
    (traffic.limited capacity).settle clock id outcome =
      ((traffic.settle clock id outcome).1.limited capacity,
        (traffic.settle clock id outcome).2) := by
  have same : (traffic.limited capacity).coordinator.visit? id = traffic.coordinator.visit? id :=
    rfl
  unfold settle
  rw [same]
  cases traffic.coordinator.visit? id with
  | none => rfl
  | some visit =>
      have settled := Coordinator.settle_limited capacity clock visit unlimited
        traffic.announcer.audience outcome
      dsimp only [limited] at settled ⊢
      rw [settled]
      dsimp only
      cases (traffic.coordinator.settle clock visit traffic.announcer.audience outcome).event <;>
        rfl

theorem handle_limited (id : SessionId) :
    (traffic.limited capacity).handle clock id =
      ((traffic.handle clock id).1.limited capacity, (traffic.handle clock id).2) := by
  have same : (traffic.limited capacity).session? id = traffic.session? id := rfl
  unfold handle
  rw [same]
  cases (traffic.session? id).bind Session.next? with
  | none => rfl
  | some found =>
      rcases found with ⟨message, session⟩
      have handled := session.handle_limited capacity clock message unlimited
      dsimp only [limited, Coordinator.limited] at handled ⊢
      rw [handled]
      dsimp only
      cases (session.handle clock traffic.coordinator.turnstiles message).progress <;> rfl

theorem ring_limited (device : Device) :
    (traffic.limited capacity).ring clock (.rotation device) =
      ((traffic.ring clock (.rotation device)).1.limited capacity,
        (traffic.ring clock (.rotation device)).2) := by
  have rung := Turnstile.Controller.ring_limited capacity clock device unlimited
  unfold ring
  dsimp only [limited, Coordinator.limited]
  rw [rung]
  rfl

theorem perform_limited (job : TrafficJob) :
    (traffic.limited capacity).perform clock job =
      ((traffic.perform clock job).1.limited capacity, (traffic.perform clock job).2) := by
  cases job with
  | validation job =>
      cases job with
      | outcome id outcome =>
          let closed : Traffic := { traffic with desk := traffic.desk.close id outcome }
          have still : closed.coordinator.turnstiles.ledger.capacity = .unlimited := unlimited
          exact settle_limited capacity clock still id outcome
      | _ => rfl
  | begin id => exact begin_limited capacity clock unlimited id
  | depart id result => exact depart_limited capacity id result
  | answered id result => exact answer_limited capacity id result
  | handle id => exact handle_limited capacity clock unlimited id
  | handled id fault => exact finish_limited capacity id fault

end

end Traffic

namespace Floor

/-- The floor with a limit on the histories of its turnstiles. -/
def limited (floor : Floor) : Floor :=
  { floor with traffic := floor.traffic.limited capacity }

variable {floor : Floor}

theorem put_limited (rest : List Task) (outcome : Traffic × Agenda.Line TrafficJob) :
    (floor.limited capacity).put rest (outcome.1.limited capacity, outcome.2) =
      (floor.put rest outcome).limited capacity :=
  rfl

theorem play_limited (unlimited : floor.turnstiles.ledger.capacity = .unlimited)
    (move : FloorMove) :
    (floor.limited capacity).play move = (floor.play move).limited capacity := by
  cases move with
  | connect session => rfl
  | receive session chunk =>
      show (floor.limited capacity).put floor.tasks
        ((floor.traffic.limited capacity).receive session chunk) = _
      rw [Traffic.receive_limited]
      rfl
  | close session =>
      show (floor.limited capacity).put floor.tasks
        ((floor.traffic.limited capacity).closeSession session, []) = _
      rw [Traffic.closeSession_limited]
      rfl
  | visit visit => rfl
  | work clock place =>
      show (floor.limited capacity).work clock place = (floor.work clock place).limited capacity
      have same : (floor.limited capacity).tasks = floor.tasks := rfl
      have traffic : (floor.limited capacity).traffic = floor.traffic.limited capacity := rfl
      unfold work
      rw [same]
      split
      · unfold begin
        rw [traffic, Traffic.begin_limited capacity clock unlimited]
        rfl
      · rw [traffic, Traffic.perform_limited capacity clock unlimited]
        rfl
      · rfl
  | decide clock place outcome =>
      show (floor.limited capacity).decide clock place outcome =
        (floor.decide clock place outcome).limited capacity
      have same : (floor.limited capacity).tasks = floor.tasks := rfl
      have traffic : (floor.limited capacity).traffic = floor.traffic.limited capacity := rfl
      unfold decide
      rw [same]
      split
      · unfold settle
        rw [traffic, Traffic.settle_limited capacity clock unlimited]
        rfl
      · rfl
  | report clock device status =>
      have moved := Turnstile.Controller.report_limited capacity clock device unlimited status
      show (floor.limited capacity).put floor.tasks
        (withTurnstiles (floor.traffic.limited capacity)
          ((floor.turnstiles.limited capacity).report clock device status).1, []) = _
      rw [moved]
      rfl
  | ring clock =>
      have same : (floor.limited capacity).turnstiles.alarms = floor.turnstiles.alarms := rfl
      unfold play
      dsimp only
      rw [same]
      cases floor.turnstiles.alarms.timers.next? with
      | none => rfl
      | some timer =>
          have rung := Traffic.ring_limited capacity clock unlimited timer.item
          dsimp only [limited] at rung ⊢
          rw [rung]
          rfl

end Floor

end

/-- A floor with sessions, on which no request was made yet. -/
def Floor.opening (timeout limit : Number) (seconds : DisplaySeconds) (desk : Validation.Desk)
    (announcer : Announcer) (sessions : List (SessionId × Session)) : Floor :=
  .start { Traffic.start desk (.start (.start timeout limit) seconds) announcer with
    sessions := sessions }

/-- A turnstile that remembers everything was granted as often as somebody was let pass. -/
structure Floor.Counted (floor : Floor) : Prop where
  unlimited : floor.turnstiles.ledger.capacity = .unlimited
  grants : ∀ device, floor.turnstiles.grants device = floor.grantsAt device

variable {floor after : Floor}

namespace Floor

theorem grantsAt_settle {id : RequestId} {visit : Visit}
    (known : floor.traffic.coordinator.visit? id = some visit) (clock : Agenda.Clock)
    (rest : List Task) (outcome : Except Fault Decision) (device : Device) :
    (floor.settle clock rest id outcome).grantsAt device =
      floor.grantsAt device +
        if device = visit.device ∧ isGranted outcome = true then 1 else 0 := by
  have decided : (floor.settle clock rest id outcome).decided =
      floor.decided ++ [(visit.device, id, outcome)] :=
    congrArg (fun entries => floor.decided ++ List.map _ entries) (place?_eq known)
  unfold grantsAt
  rw [decided, List.countP_append, List.countP_singleton]
  congr 1
  refine if_congr ?_ rfl rfl
  rw [decide_eq_true_iff, eq_comm]

theorem Counted.calm (counted : floor.Counted) (calm : floor.turnstiles.Calm after.turnstiles)
    (decided : after.decided = floor.decided) : after.Counted where
  unlimited := calm.capacity.trans counted.unlimited
  grants device := by
    rw [calm.grants counted.unlimited, counted.grants]
    unfold grantsAt
    rw [decided]

end Floor

theorem Orderly.counted_settle (orderly : Orderly floor) (counted : floor.Counted)
    {id : RequestId} {visit : Visit} {waiting : List RequestId} {rest : List Task}
    (taken : Taken floor (.verdict id) id visit waiting rest) (clock : Agenda.Clock)
    (outcome : Except Fault Decision) : (floor.settle clock rest id outcome).Counted := by
  rcases Traffic.turned_settle taken.known clock outcome with ⟨turned, -⟩
  rcases orderly.turnstilesAfter taken clock outcome with ⟨-, capacity, -, grants⟩
  have turnstiles : (floor.settle clock rest id outcome).turnstiles =
      floor.traffic.coordinator.turnstilesAfter clock visit outcome := turned.turnstiles
  constructor
  case unlimited => rw [turnstiles, capacity, counted.unlimited]
  case grants =>
    intro device
    rw [turnstiles, grants counted.unlimited, counted.grants,
      Floor.grantsAt_settle taken.known clock rest outcome]

theorem Orderly.counted_step (orderly : Orderly floor) (counted : floor.Counted)
    (step : floor.Step after) : after.Counted := by
  cases step with
  | nothing => exact counted
  | @aside rest outcome turnstiles _ _ turned calm _ =>
      have turnstiles : (floor.put rest outcome).turnstiles = turnstiles := turned.turnstiles
      exact counted.calm (turnstiles ▸ calm) rfl
  | joins left plain submitted =>
      refine counted.calm ?_ rfl
      unfold Floor.turnstiles Floor.put
      rw [submitted.coordinator]
      exact .refl orderly.rest
  | @begins id visit _ rest taken clock =>
      have turnstiles : (floor.begin clock rest id).turnstiles =
          (floor.turnstiles.recoverStale clock visit.device).1 :=
        (Traffic.turned_begin taken.known clock).turnstiles
      exact counted.calm (turnstiles ▸ orderly.rest.recoverStale.1) rfl
  | settles taken clock outcome => exact orderly.counted_settle counted taken clock outcome
  | departs taken =>
      refine counted.calm ?_ rfl
      rw [Floor.turnstiles_depart taken.known]
      exact .refl orderly.rest

theorem Orderly.counted_playAll (orderly : Orderly floor) (counted : floor.Counted)
    (moves : List FloorMove) : (floor.playAll moves).Counted := by
  induction moves generalizing floor with
  | nil => exact counted
  | cons move later induction =>
      have step := orderly.step_play move
      exact induction (orderly.step step) (orderly.counted_step counted step)

theorem Orderly.playAll_limited (orderly : Orderly floor) (counted : floor.Counted)
    (capacity : Capacity) (moves : List FloorMove) :
    (floor.limited capacity).playAll moves = (floor.playAll moves).limited capacity := by
  induction moves generalizing floor with
  | nil => rfl
  | cons move later induction =>
      -- A move is the same with a limit only where there was none, which the count carries on.
      have step := orderly.step_play move
      show ((floor.limited capacity).play move).playAll later = _
      rw [Floor.play_limited capacity counted.unlimited]
      exact induction (orderly.step step) (orderly.counted_step counted step)

namespace Floor

variable (timeout limit : Number) (seconds : DisplaySeconds) (desk : Validation.Desk)
  (announcer : Announcer) (sessions : List (SessionId × Session))

theorem orderly_opening : Orderly (opening timeout limit seconds desk announcer sessions) where
  rest := Turnstile.Controller.atRest_start timeout limit
  sound := Lock.sound_free
  single _ := List.nodup_nil
  waiting _ _ := by
    constructor
    · intro member
      cases member
    · rintro ⟨visit, known, -⟩
      cases known
  numbered _ _ known := by cases known
  turn _ := .free []
  quiet _ _ := rfl
  plain _ := List.not_mem_nil

theorem counted_opening :
    (opening timeout (.infinite false) seconds desk announcer sessions).Counted where
  unlimited := rfl
  grants _ := rfl

end Floor

/-- Whatever moves are made: before each device, decisions come in the order of turns and turns in
the order of submission, and a turn begins only when the one before was decided; while a decision is
awaited, a grant to the turnstile goes well; and a turnstile is granted as often as requests of its
device were. The grants are counted where turnstiles remember everything, and the turnstiles at hand
are those with their histories cut. -/
theorem passing_in_turn (timeout limit : Number) (seconds : DisplaySeconds)
    (desk : Validation.Desk) (announcer : Announcer) (sessions : List (SessionId × Session))
    (moves : List FloorMove) :
    let floor := (Floor.opening timeout limit seconds desk announcer sessions).playAll moves
    let full :=
      (Floor.opening timeout (.infinite false) seconds desk announcer sessions).playAll moves
    (∀ device, floor.decidedAt device <+: floor.begunAt device ∧
      floor.begunAt device <+: floor.submittedTo device ∧
      (floor.begunAt device).length ≤ (floor.decidedAt device).length + 1) ∧
    (∀ id, Task.verdict id ∈ floor.tasks → ∃ visit, floor.visit? id = some visit ∧
      ∀ clock, ∃ transition,
        (floor.turnstiles.grant clock visit.device).2 = .ok transition) ∧
    floor.turnstiles = full.turnstiles.limited (.ofNumber 1 limit) ∧
    ∀ device, full.turnstiles.grants device = floor.grantsAt device := by
  intro floor full
  have orderly : Orderly floor :=
    (Floor.orderly_opening timeout limit seconds desk announcer sessions).playAll moves
  have start := Floor.orderly_opening timeout (.infinite false) seconds desk announcer sessions
  have counted := Floor.counted_opening timeout seconds desk announcer sessions
  have same : floor = full.limited (.ofNumber 1 limit) :=
    start.playAll_limited counted (.ofNumber 1 limit) moves
  refine ⟨fun device => (orderly.turn device).in_order, fun id awaited => ?_, ?_, fun device => ?_⟩
  · rcases List.append_of_mem awaited with ⟨front, back, whole⟩
    rcases orderly.take whole rfl with ⟨visit, waiting, taken⟩
    refine ⟨visit, taken.known, fun clock => ?_⟩
    rcases floor.turnstiles.grant_of_idle clock visit.device (orderly.idle_of_verdict taken) with
      ⟨transition, granted⟩
    exact ⟨transition, congrArg Prod.snd granted⟩
  · rw [same]
    rfl
  · rw [same]
    exact (start.counted_playAll counted moves).grants device

end Gatehouse
