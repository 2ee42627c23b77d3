import Gatehouse.Proofs.Traffic.Answered

/-!
# Who passes is told

A session is told the result of a request of its own in one move, and writes what it has to say in
the same move; `Floor.tellings` lists what it wrote on each result. `Floor.Tells` says how far the
answer to a granted request has come: the request leaves, its result arrives, the session has
written the grant, or it was closed and wrote nothing. Every move keeps this: `Accounts.playAll`.

Only a granted decision opens a turnstile, and the session that asked for it is told with a grant
when the result arrives: `granted_told`. The one case in which it is not told is that the session
was closed before; then the turnstile stands open without a word (`open_without_word`).
-/

namespace Gatehouse

open Access

section

namespace Floor

def answering? (floor : Floor) : FloorMove → Option RequestId
  | .work _ place =>
      match floor.tasks[place]? with
      | some (.job (.answered request _)) => some request
      | _ => none
  | _ => none

def writtenUntil (floor : Floor) (id : SessionId) (after : Floor) : List Bytes :=
  (after.traffic.writtenBy id).drop (floor.traffic.writtenBy id).length

def telling (floor : Floor) (id : SessionId) (move : FloorMove) : List (RequestId × List Bytes) :=
  (floor.answering? move).toList.map fun request =>
    (request, floor.writtenUntil id (floor.play move))

/-- For each result that moves bring to whoever asked, what a session writes on it. -/
def tellings (id : SessionId) (floor : Floor) : List FloorMove → List (RequestId × List Bytes)
  | [] => []
  | move :: later => floor.telling id move ++ (floor.play move).tellings id later

variable {floor after : Floor} {id : SessionId}

theorem mem_tasks_play {job : TrafficJob} (ready : Task.job job ∈ floor.tasks) (move : FloorMove) :
    Task.job job ∈ (floor.play move).tasks ∨
      ∃ clock place, move = .work clock place ∧ floor.tasks[place]? = some (.job job) := by
  have stays {task : Task} {front back : List Task} (whole : floor.tasks = front ++ task :: back)
      (other : Task.job job ≠ task) : Task.job job ∈ front ++ back := by
    rw [whole] at ready
    simpa [other] using ready
  cases move with
  | work clock place =>
      cases found : floor.tasks[place]? with
      | none =>
          left
          show _ ∈ (floor.work clock place).tasks
          unfold work
          rw [found]
          exact ready
      | some task =>
          by_cases same : Task.job job = task
          · exact .inr ⟨clock, place, rfl, same ▸ found⟩
          · left
            rcases Agenda.Pool.split_at found with ⟨front, back, whole, erased⟩
            show _ ∈ (floor.work clock place).tasks
            unfold work
            rw [found, erased]
            split
            · exact List.mem_append_left _ (stays whole same)
            · exact List.mem_append_left _ (stays whole same)
            · exact ready
  | decide clock place outcome =>
      left
      show _ ∈ (floor.decide clock place outcome).tasks
      unfold Floor.decide
      split
      · next request found =>
          rcases Agenda.Pool.split_at found with ⟨front, back, whole, erased⟩
          rw [erased]
          exact List.mem_append_left _ (stays whole nofun)
      · exact ready
  | ring clock =>
      left
      cases next : floor.turnstiles.alarms.timers.next? with
      | none => exact (floor.play_ring_none clock next).symm ▸ ready
      | some timer => exact (floor.play_ring_some clock next).symm ▸ List.mem_append_left _ ready
  | _ => exact .inl (List.mem_append_left _ ready)

namespace Step

variable {request : RequestId}

theorem asked (step : floor.Step after) (old : request < floor.traffic.requests)
    (asks : after.traffic.askers.lookup request = some id) :
    floor.traffic.askers.lookup request = some id := by
  cases step with
  | nothing => exact asks
  | aside left old turned calm jobs => exact turned.askers ▸ asks
  | joins left before submitted =>
      rcases submitted.askers request id asks with known | new
      · exact known
      · exact absurd new (Nat.ne_of_lt old)
  | begins taken clock => exact (Traffic.turned_begin taken.known clock).askers ▸ asks
  | settles taken clock outcome =>
      exact (Traffic.turned_settle taken.known clock outcome).1.askers ▸ asks
  | departs taken =>
      rw [floor.traffic_depart taken.known] at asks
      exact asks

theorem decided (step : floor.Step after) {device : Device} {outcome : Except Fault Decision}
    (entry : (device, request, outcome) ∈ after.decided) :
    (device, request, outcome) ∈ floor.decided ∨
      ∃ visit waiting rest clock, Taken floor (.verdict request) request visit waiting rest ∧
        device = visit.device ∧ after = floor.settle clock rest request outcome := by
  cases step with
  | nothing => exact .inl entry
  | aside => exact .inl entry
  | joins => exact .inl entry
  | begins => exact .inl entry
  | @settles other visit waiting rest taken clock result =>
      rw [decided_settle taken.known] at entry
      rcases List.mem_append.mp entry with before | new
      · exact .inl before
      · cases List.mem_singleton.mp new
        exact .inr ⟨visit, waiting, rest, clock, taken, rfl, rfl⟩
  | departs => exact .inl entry

end Step

inductive Tells (floor : Floor) (id : SessionId) (codec : Frame.Codec)
    (told : List (RequestId × List Bytes)) (request : RequestId) (ended : Outcome) : Prop
  | leaving : Task.job (.depart request (.ok ended)) ∈ floor.tasks → Tells ..
  | arriving : Task.job (.answered request (.ok ended)) ∈ floor.tasks → Tells ..
  | told {bytes : Bytes} : codec.encode ended.response = .ok bytes → (request, [bytes]) ∈ told →
      Tells ..
  | missed {session : Session} : floor.traffic.session? id = some session →
      session.closed = true → (request, []) ∈ told → Tells ..

/-- The answers to all granted requests of a session are accounted for. -/
def Accounts (floor : Floor) (id : SessionId) (terms : Terms)
    (told : List (RequestId × List Bytes)) : Prop :=
  ∀ device request decision, (device, request, .ok decision) ∈ floor.decided →
    decision.isGrant = true → floor.traffic.askers.lookup request = some id →
    floor.Tells id terms.codec told request
      { decision := decision, response := decision.response device terms.seconds }

end Floor

variable {terms : Terms} {id : SessionId} {chunks : List Bytes} {floor : Floor}
  {session : Session} {owed : List Message} {untold : List (Except Fault Decision)}
  {request : RequestId} {ended : Outcome} {told : List (RequestId × List Bytes)}

theorem Attends.telling_answered (attends : Attends terms id chunks floor session owed untold)
    (asks : floor.traffic.askers.lookup request = some id) {bytes : Bytes}
    (fits : terms.codec.encode ended.response = .ok bytes) {place : Nat}
    (found : floor.tasks[place]? = some (.job (.answered request (.ok ended))))
    (clock : Agenda.Clock) :
    floor.telling id (.work clock place) =
      [(request, if session.closed then [] else [bytes])] := by
  rcases Agenda.Pool.split_at found with ⟨front, back, whole, erased⟩
  rcases attends.phase.of_answered (mem_stepsOf whole asks) with
    ⟨message, _, _, current, _⟩
  have answered : (floor.play (.work clock place)).traffic =
      (floor.traffic.answer request (.ok ended)).1 := by
    show (floor.work clock place).traffic = _
    unfold Floor.work
    rw [found]
    rfl
  have written : (floor.play (.work clock place)).traffic.writtenBy id =
      floor.traffic.writtenBy id ++ if session.closed then [] else [bytes] := by
    rw [answered, attends.answer_eq asks current, Traffic.writtenBy_putSession, if_pos rfl]
    congr 1
    exact Session.written_answer attends.reliable (attends.codec_eq.symm ▸ fits) message.device
  unfold Floor.telling Floor.answering? Floor.writtenUntil
  rw [written, List.drop_left]
  simp only [found]
  rfl

namespace Floor

theorem Tells.play (tells : floor.Tells id terms.codec told request ended)
    (attends : Attends terms id chunks floor session owed untold)
    (room : terms.codec.exceeds 64 = false) (kept : Kept terms floor)
    (asks : floor.traffic.askers.lookup request = some id) {bytes : Bytes}
    (fits : terms.codec.encode ended.response = .ok bytes) (move : FloorMove) :
    (floor.play move).Tells id terms.codec (told ++ floor.telling id move) request ended := by
  -- Only working on the job itself brings the answer further, and a closed session stays closed.
  rcases attends.play room kept.orderly kept.tidy move with ⟨next, left, silent, follows⟩
  cases tells with
  | leaving ready =>
      rcases mem_tasks_play ready move with waits | ⟨clock, place, rfl, found⟩
      · exact .leaving waits
      · rcases Agenda.Pool.split_at found with ⟨front, back, whole, _⟩
        rcases kept.orderly.take whole rfl with ⟨visit, waiting, taken⟩
        exact .arriving (work_depart taken.known found clock).1
  | arriving ready =>
      rcases mem_tasks_play ready move with waits | ⟨clock, place, rfl, found⟩
      · exact .arriving waits
      · rw [attends.telling_answered asks fits found clock]
        cases standing : session.closed with
        | false => exact .told fits (by simp)
        | true => exact .missed follows.attends.known (follows.closed standing) (by simp)
  | told written present => exact .told written (List.mem_append_left _ present)
  | missed known shut present =>
      cases attends.known.symm.trans known
      exact .missed follows.attends.known (follows.closed shut) (List.mem_append_left _ present)

end Floor

theorem Kept.leaves_settle (kept : Kept terms floor) {visit : Visit}
    {waiting : List RequestId} {rest : List Task}
    (taken : Taken floor (.verdict request) request visit waiting rest)
    (listened : terms.heard) {asker : SessionId}
    (asks : floor.traffic.askers.lookup request = some asker) (clock : Agenda.Clock)
    (decision : Decision) :
    Task.job (.depart request (.ok
      { decision := decision, response := decision.response visit.device terms.seconds })) ∈
        (floor.settle clock rest request (.ok decision)).tasks := by
  have ends := floor.traffic.coordinator.ends_settle visit floor.traffic.announcer.audience clock
    (.ok decision) (kept.orderly.idle_of_verdict taken)
  rw [Floor.tasks_settle taken.known, ends.heard (kept.candid.heard listened asks taken.known),
    kept.candid.seconds_eq]
  exact List.mem_append_right _ List.mem_cons_self

section

variable (room : terms.codec.exceeds 64 = false) {count : Nat}
  (shown : terms.seconds.grant = .ofNat count) (small : count < 1000) (listened : terms.heard)

include room shown small listened

theorem Floor.Accounts.play (accounts : floor.Accounts id terms told)
    (attends : Attends terms id chunks floor session owed untold) (kept : Kept terms floor)
    (move : FloorMove) :
    (floor.play move).Accounts id terms (told ++ floor.telling id move) := by
  have step := kept.orderly.step_play move
  intro device request decision entry grants asks
  -- An old decision goes on; a new one has just put its result among the tasks.
  rcases step.decided entry with before | ⟨visit, _, _, clock, taken, rfl, after⟩
  · have asked := step.asked (kept.tidy.came _ before) asks
    rcases Session.encode_grant room shown small grants device with ⟨bytes, fits⟩
    exact (accounts device request decision before grants asked).play attends room kept asked fits
      move
  · have asked := step.asked (kept.orderly.numbered request visit taken.known) asks
    rw [after]
    exact .leaving (kept.leaves_settle taken listened asked clock decision)

theorem Floor.Accounts.playAll (accounts : floor.Accounts id terms told)
    (attends : Attends terms id chunks floor session owed untold) (kept : Kept terms floor)
    (moves : List FloorMove) :
    (floor.playAll moves).Accounts id terms (told ++ floor.tellings id moves) := by
  induction moves generalizing floor session owed untold chunks told with
  | nil => exact (List.append_nil told).symm ▸ accounts
  | cons move later induction =>
      rcases attends.play room kept.orderly kept.tidy move with ⟨next, left, silent, follows⟩
      have grown := accounts.play room shown small listened attends kept move
      have last := induction grown follows.attends (kept.play move)
      rw [List.append_assoc] at last
      exact last

end

end

variable {floor : Floor}

theorem Orderly.opens (orderly : Orderly floor) {move : FloorMove} {device : Device}
    (idle : floor.turnstiles.state device = .idle)
    (opened : (floor.play move).turnstiles.state device ≠ .idle) :
    ∃ request decision, (floor.play move).decided =
      floor.decided ++ [(device, request, .ok decision)] ∧ decision.isGrant = true := by
  -- Of the six kinds of step only one that settles a decision can open a turnstile.
  have step := orderly.step_play move
  generalize floor.play move = after at opened step
  cases step with
  | nothing => exact absurd idle opened
  | @aside rest outcome turnstiles _ _ turned calm _ =>
      have same : (floor.put rest outcome).turnstiles = turnstiles := turned.turnstiles
      exact absurd (same ▸ calm.idle device idle) opened
  | @joins rest outcome visit _ _ submitted =>
      have same : (floor.put rest outcome).turnstiles = floor.turnstiles := by
        unfold Floor.turnstiles Floor.put
        rw [submitted.coordinator]
        rfl
      exact absurd (same ▸ idle) opened
  | @begins id visit _ rest taken clock =>
      have same : (floor.begin clock rest id).turnstiles =
          (floor.turnstiles.recoverStale clock visit.device).1 :=
        (Traffic.turned_begin taken.known clock).turnstiles
      exact absurd (same ▸ orderly.rest.recoverStale.1.idle device idle) opened
  | @settles id visit _ rest taken clock outcome =>
      have same : (floor.settle clock rest id outcome).turnstiles =
          floor.traffic.coordinator.turnstilesAfter clock visit outcome :=
        (Traffic.turned_settle taken.known clock outcome).1.turnstiles
      have here : device = visit.device := by
        by_contra elsewhere
        rw [same, (orderly.turnstilesAfter taken clock outcome).2.2.1 device elsewhere] at opened
        exact opened idle
      have decided : (floor.settle clock rest id outcome).decided =
          floor.decided ++ [(device, id, outcome)] := by
        rw [here]
        exact Floor.decided_settle taken.known clock rest outcome
      cases granted : Floor.isGranted outcome with
      | false =>
          rw [(orderly.opened_settle taken clock outcome).2 granted] at opened
          exact absurd idle opened
      | true =>
          cases outcome with
          | error fault => cases granted
          | ok decision => exact ⟨id, decision, decided, granted⟩
  | departs taken =>
      rw [Floor.turnstiles_depart taken.known] at opened
      exact absurd idle opened

/-- Let announcements not fail, and let a session be open on a link that takes frames of 64 bytes.
Whatever moves are made, a turnstile is opened only by a granted decision. If the decision is about
a request of the session, then its response is a grant for that device; the response is on its way
to the session, or the session wrote it when it arrived, or the session was closed by then and wrote
nothing. -/
theorem granted_told (timeout limit : Number) (seconds : DisplaySeconds)
    (desk : Validation.Desk) {announcer : Announcer} (sessions : List (SessionId × Session))
    (moves : List FloorMove) {id : SessionId} {codec : Frame.Codec} {maxErrors : Number}
    {count : Nat} (room : codec.exceeds 64 = false) (shown : seconds.grant = .ofNat count)
    (small : count < 1000) (reliable : announcer.IsReliable)
    (opened : sessions.lookup id = some (.start codec maxErrors [])) :
    let start := Floor.opening timeout limit seconds desk announcer sessions
    let floor := start.playAll moves
    (∀ move device, floor.turnstiles.state device = .idle →
      (floor.play move).turnstiles.state device ≠ .idle →
      ∃ request decision, (floor.play move).decided =
        floor.decided ++ [(device, request, .ok decision)] ∧ decision.isGrant = true) ∧
    ∃ session, floor.traffic.session? id = some session ∧
      ∀ device request decision, (device, request, .ok decision) ∈ floor.decided →
        decision.isGrant = true → floor.traffic.askers.lookup request = some id →
        let ended : Outcome :=
          { decision := decision, response := decision.response device seconds }
        ended.response.device = device ∧ ended.response.command.isGrant = true ∧
        ∃ bytes, codec.encode ended.response = .ok bytes ∧
          (.job (.depart request (.ok ended)) ∈ floor.tasks ∨
            .job (.answered request (.ok ended)) ∈ floor.tasks ∨
            (request, [bytes]) ∈ start.tellings id moves ∨
            session.closed = true ∧ (request, []) ∈ start.tellings id moves) := by
  intro start floor
  let terms : Terms := { codec := codec, seconds := seconds, heard := announcer.IsReliable }
  have kept : Kept terms start :=
    Floor.kept_opening timeout limit seconds desk announcer sessions codec
  have attends : Attends terms id [] start (.start codec maxErrors []) [] [] :=
    Floor.attends_opening timeout limit seconds desk announcer sessions opened
  have nothing : start.Accounts id terms [] := nofun
  have accounts := nothing.playAll room shown small reliable attends kept moves
  rcases attends.playAll room kept moves with ⟨session, owed, untold, attending, _⟩
  refine ⟨fun move device => (kept.orderly.playAll moves).opens, session, attending.known, ?_⟩
  intro device request decision entry grants asks ended
  rcases Session.encode_grant room shown small grants device with ⟨bytes, fits⟩
  refine ⟨(decision.decides_response device seconds).1,
    (decision.isGrant_response device seconds).trans grants, bytes, fits, ?_⟩
  cases accounts device request decision entry grants asks with
  | leaving ready => exact .inl ready
  | arriving ready => exact .inr (.inl ready)
  | told written present =>
      cases fits.symm.trans written
      exact .inr (.inr (.inl present))
  | missed known shut present =>
      cases attending.known.symm.trans known
      exact .inr (.inr (.inr ⟨shut, present⟩))

/-- A link that takes frames of 64 bytes. -/
def shortCodec : Frame.Codec := { check := .crc16, maxSize := .finite 64 }

/-- A floor with one session, which closes itself after three refused frames in a row. -/
def oneSession : Floor :=
  .opening (.finite 10000) (.finite 10) .standard quietDesk (.start true [] (.finite 10))
    [(0, .start shortCodec (.finite 3) [])]

theorem granted_told_one_request :
    let floor := oneSession.playAll (oneRequest shortCodec)
    floor.turnstiles.state ⟨7, by decide⟩ = .waitingRotation ∧
      ∃ bytes, (0, [bytes]) ∈ oneSession.tellings 0 (oneRequest shortCodec) := by
  intro floor
  have room : shortCodec.exceeds 64 = false := by decide +kernel
  have shown : DisplaySeconds.standard.grant = .ofNat 5 := rfl
  have reliable : (Announcer.start true [] (.finite 10)).IsReliable := by
    intro _
    exact ⟨rfl, by decide +kernel⟩
  have connected : List.lookup 0 [(0, Session.start shortCodec (.finite 3) [])] =
      some (.start shortCodec (.finite 3) []) := rfl
  have still_open : (floor.traffic.session? 0).map Session.closed = some false := by
    decide +kernel
  have done : floor.tasks = [] := List.isEmpty_iff.mp (by decide +kernel)
  rcases granted_told (.finite 10000) (.finite 10) .standard quietDesk _ (oneRequest shortCodec)
    room shown (by decide) reliable connected with ⟨_, session, known, granted⟩
  have known : floor.traffic.session? 0 = some session := known
  have decided : (⟨7, by decide⟩, 0, .ok (.granted "Bem vindo" .exit .keypad .offline)) ∈
      floor.decided := by
    decide +kernel
  rcases granted _ _ _ decided rfl (by decide +kernel) with ⟨_, _, bytes, _, ends⟩
  refine ⟨by decide +kernel, bytes, ?_⟩
  rcases ends with leaving | arriving | told | ⟨shut, _⟩
  · exact absurd (done ▸ leaving) List.not_mem_nil
  · exact absurd (done ▸ arriving) List.not_mem_nil
  · exact told
  · rw [known, Option.map_some, shut] at still_open
    cases still_open

/-- A request, and behind it three frames whose check is wrong. -/
def requestAndNoise : Bytes :=
  let refused : Bytes := Frame.startByte :: Frame.textBytes "010000" ++ [Frame.endByte]
  shortCodec.wrap (Frame.textBytes "07+REON+000+0]4321]10/05/2025 12:46:06]2]3]") ++
    (refused ++ refused ++ refused)

/-- The frames behind a request may close the session before the request is decided. Then the
turnstile stands open, and nothing was written. -/
theorem open_without_word :
    let work := FloorMove.work ⟨0, 0⟩ 0
    let floor := oneSession.playAll [.receive 0 requestAndNoise, work, work,
      .decide ⟨0, 0⟩ 0 (.ok (.granted "Bem vindo" .exit .keypad .offline)), work, work, work]
    floor.tasks.isEmpty = true ∧ floor.traffic.askers = [(0, 0)] ∧
      (floor.traffic.session? 0).map Session.closed = some true ∧
      floor.traffic.writtenBy 0 = [] ∧
      floor.turnstiles.state ⟨7, by decide⟩ = .waitingRotation ∧
      floor.turnstiles.isArmed ⟨7, by decide⟩ = true := by
  decide +kernel

end Gatehouse
