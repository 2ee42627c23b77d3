import Gatehouse.Proofs.Session.Books
import Gatehouse.Proofs.Traffic.InTurn

/-!
# What becomes of a decision

A decision opens its turnstile before it is announced. `opened_then_announced` follows a decision to
whoever asked: the turnstile is opened exactly for a grant, and the result is a fault exactly where
the announcement fails. So a grant that cannot be announced leaves a turnstile open for somebody who
is told of a failure (`failed_but_open`).
-/

namespace Gatehouse

open Access

namespace Access

variable (decision : Decision)

theorem Decision.isGrant_ofOutcome (outcome : Except Fault Decision) :
    (Decision.ofOutcome outcome).isGrant = Floor.isGranted outcome := by
  cases outcome <;> rfl

theorem Decision.isGrant_response (device : Device) (seconds : DisplaySeconds) :
    (decision.response device seconds).command.isGrant = decision.isGrant := by
  cases decision with
  | granted display direction reader source => cases direction <;> rfl
  | denied reason display source => rfl

end Access

/-- The announcement of a decision about a visit fails: the time of the visit has no text, or
somebody fails on it. Nothing fails where nobody listens. -/
def Audience.Misses (visit : Visit) : Audience → Prop
  | .nobody => False
  | .listening => visit.request.timestamp = .invalid
  | .failing _ => True

namespace Coordinator

variable (coordinator : Coordinator) (visit : Visit) (audience : Audience)

theorem announce_misses (decision : Decision) (decidedBy : Option Source) (response : Message) :
    (audience.Misses visit →
        ∃ fault, (announce audience (eventOf visit decision decidedBy response)).1 = .error fault) ∧
      (¬audience.Misses visit →
        (announce audience (eventOf visit decision decidedBy response)).1 = .ok ()) := by
  unfold eventOf
  cases audience with
  | nobody => exact ⟨nofun, fun _ => rfl⟩
  | listening =>
      cases timestamp : visit.request.timestamp with
      | moment millis =>
          have heard : ¬Audience.listening.Misses visit := by
            intro invalid
            cases timestamp.symm.trans invalid
          exact ⟨fun missed => absurd missed heard, fun _ => rfl⟩
      | invalid => exact ⟨fun _ => ⟨_, rfl⟩, fun heard => absurd timestamp heard⟩
  | failing fault =>
      refine ⟨fun _ => ?_, fun heard => absurd trivial heard⟩
      cases visit.request.timestamp with
      | moment millis => exact ⟨fault, rfl⟩
      | invalid => exact ⟨_, rfl⟩

/-- How a request ends with a decision: a fault where the announcement fails, and the decision with
its response otherwise. -/
structure Ends (decision : Decision) (result : Except Fault Outcome) : Prop where
  missed : audience.Misses visit → ∃ fault, result = .error fault
  heard : ¬audience.Misses visit → result =
    .ok { decision := decision, response := decision.response visit.device coordinator.seconds }

theorem ends_respond (decision : Decision) (decidedBy : Option Source) (notices : List Notice) :
    coordinator.Ends visit audience decision
      (coordinator.respond visit audience decision decidedBy notices).result := by
  have announced := announce_misses visit audience decision decidedBy
    (decision.response visit.device coordinator.seconds)
  unfold respond
  constructor
  case missed =>
    intro missed
    rcases announced.1 missed with ⟨fault, failed⟩
    refine ⟨fault, ?_⟩
    dsimp only
    rw [failed]
    rfl
  case heard =>
    intro heard
    dsimp only
    rw [announced.2 heard]
    rfl

/-- Where the turnstile is idle, opening it does not fail, so only the announcement can. -/
theorem ends_settle (clock : Agenda.Clock) (outcome : Except Fault Decision)
    (idle : coordinator.turnstiles.state visit.device = .idle) :
    coordinator.Ends visit audience (.ofOutcome outcome)
      (coordinator.settle clock visit audience outcome).result := by
  unfold settle
  cases outcome with
  | error fault => exact coordinator.ends_respond visit audience _ _ _
  | ok decision =>
      dsimp only
      split
      · rcases coordinator.turnstiles.grant_of_idle clock visit.device idle with ⟨_, opened⟩
        rw [opened]
        rcases ends_respond { coordinator with turnstiles := _ } visit audience decision
          (some decision.source) [] with ⟨missed, heard⟩
        exact ⟨missed, heard⟩
      · exact coordinator.ends_respond visit audience _ _ _

end Coordinator

theorem Turnstile.Controller.opened_grant {turnstiles : Turnstile.Controller} {device : Device}
    (rest : turnstiles.AtRest) (idle : turnstiles.state device = .idle) (clock : Agenda.Clock) :
    (turnstiles.grant clock device).1.state device = .waitingRotation ∧
      (turnstiles.grant clock device).1.isArmed device = true := by
  have opened : (turnstiles.grant clock device).1.state device = .waitingRotation := by
    rcases turnstiles.grant_of_idle clock device idle with ⟨transition, granted⟩
    rw [granted]
    refine (turnstiles.state_apply clock device device .grant).trans ?_
    rw [if_pos rfl, idle]
    rfl
  exact ⟨opened, (rest.grant idle).1.armed device |>.mpr opened⟩

variable {floor : Floor} {id : RequestId} {visit : Visit} {waiting : List RequestId}
  {rest : List Task}

/-- A decision that is not a grant leaves the turnstiles alone, and a grant opens its own. -/
theorem Orderly.opened_settle (orderly : Orderly floor)
    (taken : Taken floor (.verdict id) id visit waiting rest) (clock : Agenda.Clock)
    (outcome : Except Fault Decision) :
    (Floor.isGranted outcome = true →
        (floor.settle clock rest id outcome).turnstiles.state visit.device = .waitingRotation ∧
        (floor.settle clock rest id outcome).turnstiles.isArmed visit.device = true) ∧
      (Floor.isGranted outcome = false →
        (floor.settle clock rest id outcome).turnstiles = floor.turnstiles) := by
  have turnstiles : (floor.settle clock rest id outcome).turnstiles =
      floor.traffic.coordinator.turnstilesAfter clock visit outcome :=
    (Traffic.turned_settle taken.known clock outcome).1.turnstiles
  rw [turnstiles]
  unfold Coordinator.turnstilesAfter
  constructor
  · intro granted
    rw [if_pos granted]
    exact Turnstile.Controller.opened_grant orderly.rest (orderly.idle_of_verdict taken) clock
  · intro denied
    rw [denied]
    rfl

theorem Floor.tasks_settle (known : floor.visit? id = some visit) (clock : Agenda.Clock)
    (rest : List Task) (outcome : Except Fault Decision) :
    (floor.settle clock rest id outcome).tasks = rest ++ [.job (.depart id
      (floor.traffic.coordinator.settle clock visit floor.traffic.announcer.audience
        outcome).result)] := by
  show rest ++ List.map _ (floor.traffic.settle clock id outcome).2 = _
  rw [(Traffic.turned_settle known clock outcome).2]
  rfl

theorem Floor.work_depart {place : Nat} {result : Except Fault Outcome}
    (known : floor.visit? id = some visit)
    (found : floor.tasks[place]? = some (.job (.depart id result))) (clock : Agenda.Clock) :
    Task.job (.answered id result) ∈ (floor.work clock place).tasks ∧
      (floor.work clock place).turnstiles = floor.turnstiles := by
  have works : floor.work clock place =
      floor.put (floor.tasks.eraseIdx place) (floor.traffic.depart id result) := by
    unfold work
    rw [found]
    rfl
  rw [works]
  constructor
  · rw [floor.tasks_depart known]
    simp
  · exact floor.turnstiles_depart known _ result

/-- Whatever moves were made, let a decision come that is awaited, and follow its result until it is
on its way to whoever asked. The turnstile was idle without an alarm; now it is open with one if
somebody was let pass, and untouched if not. The result is a fault where the announcement fails;
otherwise it is the decision with its response, which is a grant exactly if the turnstile was
opened. -/
theorem opened_then_announced (timeout limit : Number) (seconds : DisplaySeconds)
    (desk : Validation.Desk) (announcer : Announcer) (sessions : List (SessionId × Session))
    (moves : List FloorMove) {place : Nat} {request : RequestId}
    (awaited : ((Floor.opening timeout limit seconds desk announcer sessions).playAll
      moves).tasks[place]? = some (.verdict request))
    (clock later : Agenda.Clock) (outcome : Except Fault Decision) :
    let floor := (Floor.opening timeout limit seconds desk announcer sessions).playAll moves
    let decided := floor.decide clock place outcome
    let told := decided.work later (decided.tasks.length - 1)
    let audience := floor.traffic.announcer.audience
    ∃ visit result, floor.visit? request = some visit ∧
      .job (.answered request result) ∈ told.tasks ∧
      (floor.turnstiles.state visit.device = .idle ∧
        floor.turnstiles.isArmed visit.device = false) ∧
      (Floor.isGranted outcome = true → told.turnstiles.state visit.device = .waitingRotation ∧
        told.turnstiles.isArmed visit.device = true) ∧
      (Floor.isGranted outcome = false → told.turnstiles = floor.turnstiles) ∧
      (audience.Misses visit → ∃ fault, result = .error fault) ∧
      (¬audience.Misses visit → ∃ ended, result = .ok ended ∧
        ended.decision = .ofOutcome outcome ∧
        ended.response = ended.decision.response visit.device floor.traffic.coordinator.seconds ∧
        ended.decision.isGrant = Floor.isGranted outcome ∧
        ended.response.command.isGrant = Floor.isGranted outcome) := by
  intro floor decided told audience
  have orderly : Orderly floor :=
    (Floor.orderly_opening timeout limit seconds desk announcer sessions).playAll moves
  rcases Agenda.Pool.split_at awaited with ⟨front, back, whole, erased⟩
  rcases orderly.take whole rfl with ⟨visit, waiting, taken⟩
  -- The decision puts the result at the end of the tasks, where the next move finds it.
  have settles : decided = floor.settle clock (front ++ back) request outcome := by
    show floor.decide clock place outcome = _
    unfold Floor.decide
    rw [show floor.tasks[place]? = _ from awaited, show floor.tasks.eraseIdx place = _ from erased]
  have tasks := Floor.tasks_settle taken.known clock (front ++ back) outcome
  rw [← settles] at tasks
  have known : decided.visit? request = some visit := by
    rw [settles]
    have visits := (Traffic.turned_settle taken.known clock outcome).1.visits
    exact (congrArg (List.lookup request) visits).trans taken.known
  have last : decided.tasks.getLast? = decided.tasks[decided.tasks.length - 1]? :=
    List.getLast?_eq_getElem?
  rw [tasks, List.getLast?_concat, ← tasks] at last
  have idle := orderly.idle_of_verdict taken
  have unarmed : floor.turnstiles.isArmed visit.device = false := by
    rw [← Bool.not_eq_true, orderly.rest.armed, idle]
    nofun
  rcases Floor.work_depart known last.symm later with ⟨answered, same⟩
  rcases orderly.opened_settle taken clock outcome with ⟨opened, untouched⟩
  rw [← settles] at opened untouched
  rcases floor.traffic.coordinator.ends_settle visit audience clock outcome idle with
    ⟨missed, heard⟩
  refine ⟨visit, _, taken.known, answered, ⟨idle, unarmed⟩, ?_, ?_, missed, fun hears => ?_⟩
  · rw [show told.turnstiles = _ from same]
    exact opened
  · rw [show told.turnstiles = _ from same]
    exact untouched
  · refine ⟨_, heard hears, rfl, rfl, Decision.isGrant_ofOutcome outcome, ?_⟩
    exact (Decision.isGrant_response _ _ _).trans (Decision.isGrant_ofOutcome outcome)

/-- Somebody comes from the web interface at some time, and gets a turn. -/
def oneVisit (timestamp : Time.Instant) : List FloorMove :=
  [.visit
    { device := ⟨8, by decide⟩, origin := .web
      request :=
        { credential := "4321", timestamp := timestamp, direction := .entry, reader := .card } },
    .work ⟨0, 0⟩ 0]

/-- The decision that lets somebody in. -/
def welcome : Decision := .granted "Bem vindo" .entry .card .offline

def quietDesk : Validation.Desk :=
  .start none .register { window := .finite 0, logDenials := true, ahead := .finite 0 }
    (.database fun _ => .ok [])

/-- A floor whose announcements are heard. -/
def listeningFloor : Floor :=
  .opening (.finite 10000) (.finite 10) .standard quietDesk (.start true [] (.finite 10)) []

theorem opened_then_announced_heard :
    let floor := listeningFloor.playAll (oneVisit (.moment 0))
    let told := (floor.decide ⟨0, 0⟩ 0 (.ok welcome)).work ⟨0, 0⟩ 0
    ∃ ended, .job (.answered 0 (.ok ended)) ∈ told.tasks ∧
      ended.response.command.isGrant = true ∧
      told.turnstiles.state ⟨8, by decide⟩ = .waitingRotation := by
  intro floor told
  have awaited : floor.tasks[0]? = some (.verdict 0) := rfl
  rcases opened_then_announced (.finite 10000) (.finite 10) .standard quietDesk
    (.start true [] (.finite 10)) [] (oneVisit (.moment 0)) awaited ⟨0, 0⟩ ⟨0, 0⟩ (.ok welcome) with
    ⟨visit, result, known, answered, _, opened, _, _, heard⟩
  cases known
  rcases heard nofun with ⟨ended, rfl, _, _, _, grants⟩
  exact ⟨ended, answered, grants, (opened rfl).1⟩

/-- The time of a visit may be none that has a text. Then the visitor is told of a failure, and the
turnstile stays open. -/
theorem failed_but_open :
    let floor := listeningFloor.playAll (oneVisit .invalid ++
      [.decide ⟨0, 0⟩ 0 (.ok welcome), .work ⟨0, 0⟩ 0, .work ⟨0, 0⟩ 0])
    floor.tasks.isEmpty = true ∧
      floor.traffic.happenings.filterMap Happening.answer? = [(0, .error .noTimeText)] ∧
      floor.turnstiles.state ⟨8, by decide⟩ = .waitingRotation ∧
      floor.turnstiles.isArmed ⟨8, by decide⟩ = true := by
  refine ⟨?_, ?_, ?_, ?_⟩
  · decide +kernel
  · rfl
  · decide +kernel
  · decide +kernel

end Gatehouse
