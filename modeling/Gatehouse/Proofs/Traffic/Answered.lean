import Gatehouse.Proofs.Traffic.Asking
import Gatehouse.Proofs.Traffic.InTurn

/-!
# One answer to each request

Whatever happens on a floor, a session answers the requests that reach it one by one in their order,
leaves none out, and writes nothing else: `answered_in_order`.
-/

namespace Gatehouse

open Access

def FloorMove.chunkFor? (id : SessionId) : FloorMove → Option Bytes
  | .receive session chunk => if session = id then some chunk else none
  | _ => none

/-- The chunks that moves bring to a session. -/
def FloorMove.chunksFor (id : SessionId) (moves : List FloorMove) : List Bytes :=
  moves.filterMap (FloorMove.chunkFor? id)

theorem FloorMove.eq_of_chunkFor? {id : SessionId} {move : FloorMove} {bytes : Bytes}
    (brought : move.chunkFor? id = some bytes) : move = .receive id bytes := by
  cases move with
  | receive other chunk =>
      have mine : other = id := by
        by_contra different
        cases (if_neg different).symm.trans brought
      subst mine
      cases (if_pos rfl).symm.trans brought
      rfl
  | _ => cases brought

variable {terms : Terms} {id : SessionId} {chunks : List Bytes} {floor : Floor}
  {session : Session} {owed : List Message} {untold : List (Except Fault Decision)}

theorem stepsOf_rest_of_ne {front back : List Task} {task : Task}
    (whole : floor.tasks = front ++ task :: back)
    (another : Task.session? floor.traffic.askers task ≠ some id) :
    floor.traffic.stepsOf id (front ++ back) = floor.traffic.stepsOf id floor.tasks := by
  rw [whole]
  exact Agenda.owned_rest_of_ne another front back

namespace Attends

theorem stays (attends : Attends terms id chunks floor session owed untold) :
    Follows terms id chunks floor session floor session owed untold :=
  attends.spared (.refl id floor.traffic) rfl rfl

theorem passed (attends : Attends terms id chunks floor session owed untold) {rest : List Task}
    {outcome : Traffic × Agenda.Line TrafficJob}
    (passes : Traffic.Passes id floor.traffic outcome)
    (left : floor.traffic.stepsOf id rest = floor.traffic.stepsOf id floor.tasks) :
    Follows terms id chunks floor session (floor.put rest outcome) session owed untold := by
  exact attends.spared passes.spares ((passes.stepsOf rest).trans left) rfl

variable (attends : Attends terms id chunks floor session owed untold)
  (room : terms.codec.exceeds 64 = false) (orderly : Orderly floor) (tidy : Tidy terms floor)

include attends room orderly tidy

theorem perform {front back : List Task} {job : TrafficJob} (clock : Agenda.Clock)
    (whole : floor.tasks = front ++ .job job :: back) (other : ∀ request, job ≠ .begin request) :
    ∃ next owed untold, Follows terms id chunks floor session
      (floor.put (front ++ back) (floor.traffic.perform clock job)) next owed untold := by
  cases job with
  | validation job =>
      apply absurd _ (orderly.plain job)
      rw [whole]
      exact List.mem_append_right _ List.mem_cons_self
  | begin request => exact absurd rfl (other request)
  | depart request result =>
      rcases orderly.take whole rfl with ⟨visit, waiting, taken⟩
      by_cases mine : floor.traffic.askers.lookup request = some id
      · have ready : Task.job (.depart request result) ∈ floor.tasks := by
          rw [whole]
          exact List.mem_append_right _ List.mem_cons_self
        rcases tidy.departing request result ready with ⟨visit, known, comes⟩
        rcases comes id mine with ⟨outcome, decided, comes⟩
        exact ⟨_, _, _, attends.depart whole mine known decided comes⟩
      · exact ⟨_, _, _, attends.passed (Traffic.passes_depart taken.known mine result)
          (stepsOf_rest_of_ne whole nofun)⟩
  | answered request result =>
      by_cases mine : floor.traffic.askers.lookup request = some id
      · rcases attends.answer room whole mine with ⟨next, follows⟩
        exact ⟨next, [], [], follows⟩
      · exact ⟨_, _, _, attends.passed (Traffic.passes_answer mine result)
          (stepsOf_rest_of_ne whole mine)⟩
  | handle another =>
      by_cases same : id = another
      · subst same
        rcases attends.handle room orderly tidy clock whole with ⟨next, owed, follows⟩
        exact ⟨next, owed, [], follows⟩
      · have foreign : some another ≠ some id := fun equal => same (Option.some.inj equal).symm
        exact ⟨_, _, _, attends.passed (Traffic.passes_handle tidy.numbered same clock)
          (stepsOf_rest_of_ne whole foreign)⟩
  | handled another fault =>
      by_cases same : id = another
      · subst same
        exact ⟨_, _, _, attends.finish whole⟩
      · have foreign : some another ≠ some id := fun equal => same (Option.some.inj equal).symm
        exact ⟨_, _, _, attends.passed (Traffic.passes_finish same fault)
          (stepsOf_rest_of_ne whole foreign)⟩

theorem work (clock : Agenda.Clock) (place : Nat) :
    ∃ next owed untold,
      Follows terms id chunks floor session (floor.work clock place) next owed untold := by
  unfold Floor.work
  split
  · next request found =>
      rcases Agenda.Pool.split_at found with ⟨front, back, whole, erased⟩
      rw [erased]
      have spares : Traffic.Spares id floor.traffic (floor.traffic.begin clock request).1 :=
        Traffic.spares_begin clock request
      have added : ∀ task ∈ [Task.verdict request],
          Task.session? (floor.traffic.begin clock request).1.askers task ≠ some id := by
        intro task member
        rw [List.mem_singleton.mp member]
        nofun
      have after : (floor.begin clock (front ++ back) request).traffic =
        (floor.traffic.begin clock request).1 := rfl
      refine ⟨session, owed, untold, attends.spared (after ▸ spares) ?_ rfl⟩
      exact (spares.stepsOf added).trans (stepsOf_rest_of_ne whole nofun)
  · next job other found =>
      rcases Agenda.Pool.split_at found with ⟨front, back, whole, erased⟩
      rw [erased]
      exact attends.perform room orderly tidy clock whole other
  · exact ⟨session, owed, untold, attends.stays⟩

omit room tidy in
theorem decide (clock : Agenda.Clock) (place : Nat) (outcome : Except Fault Decision) :
    ∃ next owed untold, Follows terms id chunks floor session
      (floor.decide clock place outcome) next owed untold := by
  unfold Floor.decide
  split
  · next request found =>
      rcases Agenda.Pool.split_at found with ⟨front, back, whole, erased⟩
      rw [erased]
      rcases orderly.take whole rfl with ⟨visit, waiting, taken⟩
      have passes : Traffic.Passes id floor.traffic
          (floor.traffic.settle clock request outcome) := by
        refine ⟨Traffic.spares_settle clock request outcome, ?_⟩
        rw [(Traffic.turned_settle taken.known clock outcome).2]
        intro job member
        rw [List.mem_singleton.mp member]
        nofun
      have traffic : (floor.settle clock (front ++ back) request outcome).traffic =
        (floor.traffic.settle clock request outcome).1 := rfl
      exact ⟨session, owed, attends.settle taken.known clock outcome (traffic ▸ passes.spares)
        ((passes.stepsOf _).trans (stepsOf_rest_of_ne whole nofun))⟩
  · exact ⟨session, owed, untold, attends.stays⟩

theorem play_quiet {move : FloorMove} (quiet : move.chunkFor? id = none) :
    ∃ next owed untold,
      Follows terms id chunks floor session (floor.play move) next owed untold := by
  cases move with
  | connect another =>
      have spares : Traffic.Spares id floor.traffic (floor.traffic.openSession another).1 :=
        Traffic.spares_openSession attends.known another
      exact ⟨_, _, _, attends.passed spares.passes rfl⟩
  | receive other chunk =>
      have different : id ≠ other := by
        rintro rfl
        cases (if_pos rfl).symm.trans quiet
      exact ⟨_, _, _, attends.passed (Traffic.passes_receive different chunk) rfl⟩
  | close other =>
      by_cases same : id = other
      · subst same
        exact ⟨_, _, _, attends.close⟩
      · have spares : Traffic.Spares id floor.traffic (floor.traffic.closeSession other) :=
          Traffic.spares_closeSession same
        exact ⟨_, _, _, attends.passed spares.passes rfl⟩
  | visit visit => exact ⟨_, _, _, attends.passed (Traffic.passes_submit tidy.numbered visit) rfl⟩
  | work clock place => exact attends.work room orderly tidy clock place
  | decide clock place outcome => exact attends.decide orderly clock place outcome
  | report clock device status =>
      have spares : Traffic.Spares id floor.traffic (Floor.withTurnstiles floor.traffic
          (floor.turnstiles.report clock device status).1) := .of_same rfl rfl rfl rfl
      exact ⟨_, _, _, attends.passed spares.passes rfl⟩
  | ring clock =>
      cases next : floor.turnstiles.alarms.timers.next? with
      | none =>
          rw [floor.play_ring_none clock next]
          exact ⟨_, _, _, attends.stays⟩
      | some timer =>
          rw [floor.play_ring_some clock next]
          have spares : Traffic.Spares id floor.traffic
              (floor.traffic.ring clock (.rotation timer.item)).1 :=
            .of_same rfl rfl rfl (Traffic.writtenBy_note _ id _)
          exact ⟨_, _, _, attends.passed spares.passes rfl⟩

theorem play (move : FloorMove) :
    ∃ next owed untold, Follows terms id (chunks ++ (move.chunkFor? id).toList) floor session
      (floor.play move) next owed untold := by
  cases brought : move.chunkFor? id with
  | none =>
      rw [Option.toList_none, List.append_nil]
      exact attends.play_quiet room orderly tidy brought
  | some bytes =>
      rw [FloorMove.eq_of_chunkFor? brought]
      exact ⟨_, _, _, attends.receive bytes⟩

end Attends

theorem Writes.of_closed {codec : Frame.Codec} {before after : List Bytes}
    (writes : Writes codec session before after) (shut : session.closed = true) :
    after = before := by
  cases writes with
  | silent => rfl
  | answers opened =>
      rw [shut] at opened
      cases opened

/-- Any moves. A session that is closed stays so and writes nothing more. -/
theorem Attends.playAll (attends : Attends terms id chunks floor session owed untold)
    (room : terms.codec.exceeds 64 = false) (kept : Kept terms floor) (moves : List FloorMove) :
    ∃ next owed untold,
      Attends terms id (chunks ++ FloorMove.chunksFor id moves) (floor.playAll moves) next owed
          untold ∧
        (session.closed = true →
          (floor.playAll moves).traffic.writtenBy id = floor.traffic.writtenBy id) := by
  induction moves generalizing floor session owed untold chunks with
  | nil =>
      have same : chunks ++ FloorMove.chunksFor id [] = chunks := List.append_nil chunks
      rw [same]
      exact ⟨session, owed, untold, attends, fun _ => rfl⟩
  | cons move later induction =>
      rcases attends.play room kept.orderly kept.tidy move with ⟨next, owing, untelling, follows⟩
      rcases induction follows.attends (kept.play move) with ⟨last, left, silent, attending, quiet⟩
      have brought : (chunks ++ (move.chunkFor? id).toList) ++ FloorMove.chunksFor id later =
          chunks ++ FloorMove.chunksFor id (move :: later) := by
        rw [List.append_assoc]
        congr 1
        unfold FloorMove.chunksFor
        rw [List.filterMap_cons]
        cases move.chunkFor? id <;> rfl
      rw [brought] at attending
      refine ⟨last, left, silent, attending, fun shut => ?_⟩
      exact (quiet (follows.closed shut)).trans (follows.writes.of_closed shut)

/-- Where nothing is left to do and no decision is awaited, a session has come to rest. -/
theorem Attends.at_rest (attends : Attends terms id chunks floor session owed untold)
    (orderly : Orderly floor) (done : floor.tasks = []) :
    session.inbox = [] ∧ session.current = none ∧ owed = [] ∧ untold = [] := by
  have steps : floor.traffic.stepsOf id floor.tasks = [] := by
    rw [done]
    rfl
  have phase := attends.phase
  rw [steps] at phase
  generalize inbox : session.inbox = waiting at phase
  generalize current : session.current = message at phase
  cases phase with
  | resting => exact ⟨rfl, rfl, rfl, rfl⟩
  | @asking _ _ request visit _ known _ _ _ =>
      unfold Traffic.asked? at known
      split at known
      · have here : request ∈ floor.line visit.device :=
          (orderly.waiting visit.device request).mpr ⟨visit, known, rfl⟩
        have turn := orderly.turn visit.device
        cases line : floor.line visit.device with
        | nil =>
            rw [line] at here
            cases here
        | cons first behind =>
            rw [line] at turn
            rcases turn.single_task with ⟨task, only⟩
            unfold Floor.tasksOf at only
            rw [done] at only
            cases only
      · cases known

namespace Floor

variable (timeout limit : Number) (seconds : DisplaySeconds) (desk : Validation.Desk)
  (announcer : Announcer) (sessions : List (SessionId × Session))

theorem tidy_opening (terms : Terms) :
    Tidy terms (opening timeout limit seconds desk announcer sessions) where
  numbered request asker asked := by cases asked
  came entry member := by cases member
  answered request result member := by cases member
  undecided request visit known stays := rfl
  departing request result member := by cases member

theorem candid_opening (codec : Frame.Codec) :
    (opening timeout limit seconds desk announcer sessions).traffic.Candid
      { codec := codec, seconds := seconds, heard := announcer.IsReliable } where
  seconds_eq := rfl
  reliable heard := heard
  dated request asker visit asked := by cases asked

theorem kept_opening (codec : Frame.Codec) :
    Kept { codec := codec, seconds := seconds, heard := announcer.IsReliable }
      (opening timeout limit seconds desk announcer sessions) where
  orderly := orderly_opening timeout limit seconds desk announcer sessions
  tidy := tidy_opening timeout limit seconds desk announcer sessions _
  candid := candid_opening timeout limit seconds desk announcer sessions codec

theorem attends_opening {maxErrors : Number}
    (opened : sessions.lookup id = some (.start terms.codec maxErrors [])) :
    Attends terms id [] (opening timeout limit seconds desk announcer sessions)
      (.start terms.codec maxErrors []) [] [] where
  known := opened
  codec_eq := rfl
  reliable := rfl
  phase := .resting fun _ => rfl
  books _ := ⟨[], rfl, rfl, [], rfl, .none⟩

end Floor

/-- Let a session be open on a link that takes frames of 64 bytes. Whatever moves are made, while it
is open it has written the answers to some of the requests that came in, the earliest ones, one
frame each, in their order and to their devices; when nothing is left to do, it has answered all of
them. A request that cannot be read is denied, and the others are told the outcomes that decisions
about them had, one after another: by the response to the outcome, or by a plain denial where that
cannot be sent or an announcement may fail. When nothing is left to do the session has handled every
message. No move makes it write anything but the answer to the request at hand, and once it is
closed it writes nothing at all. -/
theorem answered_in_order (timeout limit : Number) (seconds : DisplaySeconds)
    (desk : Validation.Desk) (announcer : Announcer) (sessions : List (SessionId × Session))
    (moves : List FloorMove) {codec : Frame.Codec} {maxErrors : Number}
    (room : codec.exceeds 64 = false)
    (opened : sessions.lookup id = some (.start codec maxErrors [])) :
    let floor := (Floor.opening timeout limit seconds desk announcer sessions).playAll moves
    let terms : Terms := { codec := codec, seconds := seconds, heard := announcer.IsReliable }
    ∃ session, floor.traffic.session? id = some session ∧
      (session.closed = false → ∃ answered waiting told untold,
        codec.requests (FloorMove.chunksFor id moves) = answered ++ waiting ∧
        List.Forall₂ codec.AnswersTo answered (floor.traffic.writtenBy id) ∧
        floor.outcomesOf id = told ++ untold ∧
        terms.Answered answered told (floor.traffic.writtenBy id) ∧
        (floor.tasks = [] → waiting = [] ∧ untold = [])) ∧
      (floor.tasks = [] → session.isIdle = true) ∧
      (∀ move, Writes codec session (floor.traffic.writtenBy id)
        ((floor.play move).traffic.writtenBy id)) ∧
      (session.closed = true → ∀ later,
        (floor.playAll later).traffic.writtenBy id = floor.traffic.writtenBy id) := by
  intro floor terms
  have start := Floor.kept_opening timeout limit seconds desk announcer sessions codec
  have kept : Kept terms floor := start.playAll moves
  rcases (Floor.attends_opening timeout limit seconds desk announcer sessions opened).playAll room
    start moves with ⟨session, owed, untold, attends, _⟩
  rw [List.nil_append] at attends
  refine ⟨session, attends.known, fun standing => ?_, fun done => ?_, fun move => ?_,
    fun shut later => ?_⟩
  · rcases attends.books standing with ⟨told, outcomes, books⟩
    rcases books.answered with ⟨answered, requests, answers⟩
    refine ⟨answered, _, told, untold, requests, answers.answersTo, outcomes, answers,
      fun done => ?_⟩
    rcases attends.at_rest kept.orderly done with ⟨inbox, _, nothing, all_told⟩
    rw [inbox, nothing]
    exact ⟨rfl, all_told⟩
  · rcases attends.at_rest kept.orderly done with ⟨inbox, current, _⟩
    unfold Session.isIdle
    rw [inbox, current]
    rfl
  · rcases attends.play room kept.orderly kept.tidy move with ⟨next, left, silent, follows⟩
    exact follows.writes
  · rcases attends.playAll room kept later with ⟨next, left, still, _, silent⟩
    exact silent shut

/-- A reader asks once, and the request is granted. -/
def oneRequest (codec : Frame.Codec) : List FloorMove :=
  let work := FloorMove.work ⟨0, 0⟩ 0
  [.receive 0 (codec.wrap (Frame.textBytes "07+REON+000+0]4321]10/05/2025 12:46:06]2]3]")), work,
    work, .decide ⟨0, 0⟩ 0 (.ok (.granted "Bem vindo" .exit .keypad .offline)), work, work, work]

theorem answered_in_order_one_request :
    let codec : Frame.Codec := { check := .crc16, maxSize := .finite 64 }
    let desk : Validation.Desk := .start none .register
      { window := .finite 0, logDenials := true, ahead := .finite 0 } (.database fun _ => .ok [])
    let announcer : Announcer := .start false [] (.finite 10)
    let floor := (Floor.opening (.finite 10000) (.finite 10) .standard desk announcer
      [(0, .start codec (.finite 10) [])]).playAll (oneRequest codec)
    let terms : Terms := { codec := codec, seconds := .standard, heard := announcer.IsReliable }
    (floor.traffic.writtenBy 0).length = 1 ∧ floor.tasks.isEmpty = true ∧
      List.Forall₂ codec.AnswersTo (codec.requests (FloorMove.chunksFor 0 (oneRequest codec)))
        (floor.traffic.writtenBy 0) ∧
      terms.Answered (codec.requests (FloorMove.chunksFor 0 (oneRequest codec)))
        [.ok (.granted "Bem vindo" .exit .keypad .offline)] (floor.traffic.writtenBy 0) := by
  intro codec desk announcer floor terms
  have connected : List.lookup 0 [(0, Session.start codec (.finite 10) [])] =
      some (.start codec (.finite 10) []) := rfl
  have done : floor.tasks.isEmpty = true := by decide +kernel
  have still_open : (floor.traffic.session? 0).map Session.closed = some false := by
    decide +kernel
  have outcomes : floor.outcomesOf 0 = [.ok (.granted "Bem vindo" .exit .keypad .offline)] := by
    decide +kernel
  have room : codec.exceeds 64 = false := by decide +kernel
  rcases answered_in_order (.finite 10000) (.finite 10) .standard desk announcer _
    (oneRequest codec) room connected with ⟨session, known, account, _⟩
  have opened : session.closed = false := by
    rw [known] at still_open
    exact Option.some.inj still_open
  rcases account opened with ⟨answered, waiting, told, untold, requests, answers, all, tells, rest⟩
  obtain ⟨rfl, rfl⟩ := rest (List.isEmpty_iff.mp done)
  rw [List.append_nil] at requests all
  refine ⟨by decide +kernel, done, ?_, ?_⟩
  · rw [requests]
    exact answers
  · rw [requests, ← outcomes, show floor.outcomesOf 0 = told from all]
    exact tells

end Gatehouse
