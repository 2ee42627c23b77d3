import Gatehouse.Proofs.Session.Books
import Gatehouse.Proofs.Traffic.Others
import Gatehouse.Proofs.Traffic.Tidy

/-!
# Attending to requests

A session is at rest, is due to handle its next message, waits for the outcome of a request, has
been told the outcome, or is finishing. `Phase` tells these apart by the one step of the session
that is ready, and by its requests that have not left; with it go the request that the session
still owes an answer to, and the outcome that is known of it.

`Attends` says how a session stands on a floor: how far it has come, and that its books are kept.
This module follows a session through what happens to it; `Follows` says for each step what becomes
of the session, and that it writes nothing or the answer to the request at hand.
-/

namespace Gatehouse

open Access

/-- How far a session has come: its current message and those that wait, the steps of it that are
ready, the request at hand that is not answered yet, and the outcome of it that is not told yet. -/
inductive Phase (terms : Terms) (id : SessionId) (asked : RequestId → Option Visit)
    (outcomes : RequestId → List (Except Fault Decision)) :
    (current : Option Message) → (inbox : List Message) → (steps : List Task) →
    (owed : List Message) → (untold : List (Except Fault Decision)) → Prop
  | resting : (∀ request, asked request = none) → Phase terms id asked outcomes none [] [] [] []
  | due {message : Message} {rest : List Message} :
      (∀ request, asked request = none) →
      Phase terms id asked outcomes none (message :: rest) [.job (.handle id)] [] []
  | asking {message : Message} {inbox : List Message} {request : RequestId} {visit : Visit} :
      message.asks = true → asked request = some visit → visit.device = message.device →
      Request.ofMessage message = .ok visit.request →
      (∀ other, other ≠ request → asked other = none) →
      Phase terms id asked outcomes (some message) inbox [] [message] (outcomes request)
  | told {message : Message} {inbox : List Message} {request : RequestId} {content : Request}
      {outcome : Except Fault Decision} {result : Except Fault Outcome} :
      message.asks = true → Request.ofMessage message = .ok content →
      terms.Comes message.device outcome result → (∀ request, asked request = none) →
      Phase terms id asked outcomes (some message) inbox [.job (.answered request result)]
        [message] [outcome]
  | finishing {message : Message} {inbox : List Message} {fault : Option Fault} :
      (∀ request, asked request = none) →
      Phase terms id asked outcomes (some message) inbox [.job (.handled id fault)] [] []

namespace Phase

variable {terms : Terms} {id : SessionId} {asked : RequestId → Option Visit}
  {outcomes : RequestId → List (Except Fault Decision)} {current : Option Message}
  {inbox : List Message} {steps : List Task} {owed : List Message}
  {untold : List (Except Fault Decision)}

theorem congr {asked' : RequestId → Option Visit}
    {outcomes' : RequestId → List (Except Fault Decision)}
    (phase : Phase terms id asked outcomes current inbox steps owed untold)
    (same : ∀ request, asked' request = asked request)
    (kept : ∀ request visit, asked request = some visit → outcomes' request = outcomes request) :
    Phase terms id asked' outcomes' current inbox steps owed untold := by
  have equal : asked' = asked := funext same
  subst equal
  cases phase with
  | resting nobody => exact .resting nobody
  | due nobody => exact .due nobody
  | asking asks known device content others =>
      rw [← kept _ _ known]
      exact .asking asks known device content others
  | told asks content comes nobody => exact .told asks content comes nobody
  | finishing nobody => exact .finishing nobody

theorem takes (phase : Phase terms id asked outcomes current inbox steps owed untold)
    (more : List Message) :
    Phase terms id asked outcomes current (inbox ++ more)
      (steps ++ if (inbox.isEmpty && current.isNone) && !((inbox ++ more).isEmpty && current.isNone)
        then [.job (.handle id)] else []) owed untold := by
  cases phase with
  | resting nobody =>
      cases more with
      | nil => exact .resting nobody
      | cons message rest => exact .due nobody
  | due nobody => exact .due nobody
  | asking asks known device content others =>
      simp only [Option.isNone_some, Bool.and_false, Bool.false_and, Bool.false_eq_true, if_false,
        List.append_nil]
      exact .asking asks known device content others
  | told asks content comes nobody =>
      simp only [Option.isNone_some, Bool.and_false, Bool.false_and, Bool.false_eq_true, if_false]
      exact .told asks content comes nobody
  | finishing nobody =>
      simp only [Option.isNone_some, Bool.and_false, Bool.false_and, Bool.false_eq_true, if_false]
      exact .finishing nobody

theorem ends (nobody : ∀ request, asked request = none) (inbox : List Message) :
    Phase terms id asked outcomes none inbox
      (if inbox.isEmpty then [] else [.job (.handle id)]) [] [] := by
  cases inbox with
  | nil => exact .resting nobody
  | cons message rest => exact .due nobody

theorem of_handle (phase : Phase terms id asked outcomes current inbox steps owed untold)
    (ready : Task.job (.handle id) ∈ steps) :
    steps = [.job (.handle id)] ∧ current = none ∧ owed = [] ∧ untold = [] ∧
      (∃ message rest, inbox = message :: rest) ∧ ∀ request, asked request = none := by
  cases phase with
  | resting nobody => cases ready
  | due nobody => exact ⟨rfl, rfl, rfl, rfl, ⟨_, _, rfl⟩, nobody⟩
  | asking => cases ready
  | told => cases List.mem_singleton.mp ready
  | finishing nobody => cases List.mem_singleton.mp ready

theorem of_answered {request : RequestId} {result : Except Fault Outcome}
    (phase : Phase terms id asked outcomes current inbox steps owed untold)
    (ready : Task.job (.answered request result) ∈ steps) :
    ∃ message content outcome, current = some message ∧ message.asks = true ∧ owed = [message] ∧
      untold = [outcome] ∧ steps = [.job (.answered request result)] ∧
      Request.ofMessage message = .ok content ∧ terms.Comes message.device outcome result ∧
      ∀ request, asked request = none := by
  cases phase with
  | resting nobody => cases ready
  | due nobody => cases List.mem_singleton.mp ready
  | asking => cases ready
  | told asks content comes nobody =>
      cases List.mem_singleton.mp ready
      exact ⟨_, _, _, rfl, asks, rfl, rfl, rfl, content, comes, nobody⟩
  | finishing nobody => cases List.mem_singleton.mp ready

theorem of_handled {fault : Option Fault}
    (phase : Phase terms id asked outcomes current inbox steps owed untold)
    (ready : Task.job (.handled id fault) ∈ steps) :
    steps = [.job (.handled id fault)] ∧ owed = [] ∧ untold = [] ∧
      ∀ request, asked request = none := by
  cases phase with
  | resting nobody => cases ready
  | due nobody => cases List.mem_singleton.mp ready
  | asking => cases ready
  | told => cases List.mem_singleton.mp ready
  | finishing nobody =>
      cases List.mem_singleton.mp ready
      exact ⟨rfl, rfl, rfl, nobody⟩

theorem of_asked {request : RequestId} {visit : Visit}
    (phase : Phase terms id asked outcomes current inbox steps owed untold)
    (known : asked request = some visit) :
    ∃ message, current = some message ∧ message.asks = true ∧ owed = [message] ∧
      untold = outcomes request ∧ steps = [] ∧ visit.device = message.device ∧
      Request.ofMessage message = .ok visit.request ∧
      ∀ other, other ≠ request → asked other = none := by
  have absurd_of (nobody : ∀ request, asked request = none) {conclusion : Prop} : conclusion := by
    rw [nobody] at known
    cases known
  cases phase with
  | resting nobody => exact absurd_of nobody
  | due nobody => exact absurd_of nobody
  | @asking message _ first visit asks found device content others =>
      have same : request = first := by
        by_contra different
        rw [others request different] at known
        cases known
      subst same
      cases found.symm.trans known
      exact ⟨message, rfl, asks, rfl, rfl, rfl, device, content, others⟩
  | told _ _ _ nobody => exact absurd_of nobody
  | finishing nobody => exact absurd_of nobody

end Phase

structure Attends (terms : Terms) (id : SessionId) (chunks : List Bytes) (floor : Floor)
    (session : Session) (owed : List Message) (untold : List (Except Fault Decision)) : Prop where
  known : floor.traffic.session? id = some session
  codec_eq : session.codec = terms.codec
  reliable : session.failingWrites = []
  phase : Phase terms id (floor.traffic.asked? id) floor.outcomesFor session.current session.inbox
    (floor.traffic.stepsOf id floor.tasks) owed untold
  books : session.closed = false → ∃ told, floor.outcomesOf id = told ++ untold ∧
    Books terms chunks session owed told (floor.traffic.writtenBy id)

structure Follows (terms : Terms) (id : SessionId) (chunks : List Bytes) (floor : Floor)
    (session : Session) (after : Floor) (next : Session) (owed : List Message)
    (untold : List (Except Fault Decision)) : Prop where
  attends : Attends terms id chunks after next owed untold
  closed : session.closed = true → next.closed = true
  writes : Writes terms.codec session (floor.traffic.writtenBy id) (after.traffic.writtenBy id)

variable {terms : Terms} {id : SessionId} {chunks : List Bytes} {floor after : Floor}
  {session : Session} {owed : List Message} {untold : List (Except Fault Decision)}

theorem Floor.outcomesOf_congr {before after : Floor} (decided : after.decided = before.decided)
    (asked : ∀ entry ∈ before.decided, after.traffic.askers.lookup entry.2.1 = some id ↔
      before.traffic.askers.lookup entry.2.1 = some id) :
    after.outcomesOf id = before.outcomesOf id := by
  unfold outcomesOf
  rw [decided]
  exact List.filterMap_congr fun entry member => if_congr (asked entry member) rfl rfl

theorem mem_stepsOf {front back : List Task} {task : Task}
    (whole : floor.tasks = front ++ task :: back)
    (mine : Task.session? floor.traffic.askers task = some id) :
    task ∈ floor.traffic.stepsOf id floor.tasks := by
  apply Agenda.mem_owned.mpr
  rw [whole]
  exact ⟨List.mem_append_right _ List.mem_cons_self, mine⟩

theorem stepsOf_rest {front back : List Task} {task only : Task}
    (whole : floor.tasks = front ++ task :: back)
    (mine : Task.session? floor.traffic.askers task = some id)
    (single : floor.traffic.stepsOf id floor.tasks = [only]) :
    floor.traffic.stepsOf id (front ++ back) = [] := by
  rw [whole] at single
  exact (Agenda.owned_rest_of_single mine single).2

theorem stepsOf_last {traffic : Traffic} {rest : List Task} {task : Task}
    (left : traffic.stepsOf id rest = [])
    (mine : Task.session? traffic.askers task = some id) :
    traffic.stepsOf id (rest ++ [task]) = [task] := by
  rw [Traffic.stepsOf_append, left]
  exact Traffic.stepsOf_cons_self mine []

namespace Attends

theorem session?_putSession (attends : Attends terms id chunks floor session owed untold)
    (next : Session) (effects : List SessionEffect) :
    (floor.traffic.putSession id next effects).session? id = some next := by
  rw [Traffic.session?_putSession, if_pos rfl, attends.known]
  rfl

theorem spared (attends : Attends terms id chunks floor session owed untold)
    (spares : Traffic.Spares id floor.traffic after.traffic)
    (steps : after.traffic.stepsOf id after.tasks = floor.traffic.stepsOf id floor.tasks)
    (decided : after.decided = floor.decided) :
    Follows terms id chunks floor session after session owed untold := by
  have outcomes (request : RequestId) :
      after.outcomesFor request = floor.outcomesFor request := by
    unfold Floor.outcomesFor
    rw [decided]
  constructor
  case attends =>
    constructor
    case known => exact spares.session.trans attends.known
    case codec_eq => exact attends.codec_eq
    case reliable => exact attends.reliable
    case phase =>
      rw [steps]
      exact attends.phase.congr spares.asked fun request _ _ => outcomes request
    case books =>
      rw [spares.written, Floor.outcomesOf_congr decided fun entry _ => spares.askers entry.2.1]
      exact attends.books
  case closed => exact fun shut => shut
  case writes =>
    rw [spares.written]
    exact .silent

/-- The decision about a request comes. If the session made it, there is an outcome to tell. -/
theorem settle (attends : Attends terms id chunks floor session owed untold)
    {front back : List Task} {request : RequestId} {visit : Visit}
    (known : floor.visit? request = some visit)
    (clock : Agenda.Clock) (outcome : Except Fault Decision)
    (spares : Traffic.Spares id floor.traffic
      (floor.settle clock (front ++ back) request outcome).traffic)
    (steps : (floor.settle clock (front ++ back) request outcome).traffic.stepsOf id
        (floor.settle clock (front ++ back) request outcome).tasks =
      floor.traffic.stepsOf id floor.tasks) :
    ∃ untold, Follows terms id chunks floor session
      (floor.settle clock (front ++ back) request outcome) session owed untold := by
  have outcomes := Floor.outcomesFor_settle known clock (front ++ back) outcome
  have all := Floor.outcomesOf_settle known clock (front ++ back) outcome id
  generalize floor.settle clock (front ++ back) request outcome = after
    at spares steps outcomes all ⊢
  have writes : Writes terms.codec session (floor.traffic.writtenBy id)
      (after.traffic.writtenBy id) := by
    rw [spares.written]
    exact .silent
  have attended {more : List (Except Fault Decision)}
      (phase : Phase terms id (after.traffic.asked? id) after.outcomesFor session.current
        session.inbox (floor.traffic.stepsOf id floor.tasks) owed (untold ++ more))
      (grown : after.outcomesOf id = floor.outcomesOf id ++ more) :
      Attends terms id chunks after session owed (untold ++ more) := by
    refine ⟨spares.session.trans attends.known, attends.codec_eq, attends.reliable,
      steps ▸ phase, fun opened => ?_⟩
    rcases attends.books opened with ⟨told, before, books⟩
    refine ⟨told, ?_, spares.written ▸ books⟩
    rw [grown, before, List.append_assoc]
  by_cases mine : floor.traffic.askers.lookup request = some id
  · have asked : floor.traffic.asked? id request = some visit := (if_pos mine).trans known
    rcases attends.phase.of_asked asked with
      ⟨message, current, asks, rfl, rfl, none_ready, device, content, others⟩
    rw [if_pos mine] at all
    refine ⟨_, attended ?_ all, fun shut => shut, writes⟩
    have same := outcomes request
    rw [if_pos rfl] at same
    rw [← same, none_ready, current]
    exact .asking asks ((spares.asked request).trans asked) device content fun other different =>
      (spares.asked other).trans (others other different)
  · rw [if_neg mine] at all
    refine ⟨_, attended ?_ all, fun shut => shut, writes⟩
    rw [List.append_nil]
    refine attends.phase.congr spares.asked fun other visit asked => ?_
    have different : request ≠ other := by
      rintro rfl
      exact nomatch (if_neg mine).symm.trans asked
    rw [outcomes, if_neg different, List.append_nil]

theorem close (attends : Attends terms id chunks floor session owed untold) :
    Follows terms id chunks floor session
      (floor.put floor.tasks (floor.traffic.closeSession id, [])) session.close owed untold := by
  have closes : floor.traffic.closeSession id = floor.traffic.setSession id session.close := by
    unfold Traffic.closeSession
    rw [attends.known]
  rw [closes]
  constructor
  case attends =>
    constructor
    case known =>
      refine (Association.lookup_overwritten id id session.close _).trans ?_
      rw [if_pos rfl, show floor.traffic.sessions.lookup id = _ from attends.known]
      rfl
    case codec_eq => exact attends.codec_eq
    case reliable => exact attends.reliable
    case phase =>
      have tasks : (floor.put floor.tasks (floor.traffic.setSession id session.close, [])).tasks =
          floor.tasks := List.append_nil _
      rw [tasks]
      exact attends.phase
    case books =>
      intro opened
      cases opened
  case closed => exact fun _ => rfl
  case writes => exact .silent

theorem receive (attends : Attends terms id chunks floor session owed untold) (chunk : Bytes) :
    Follows terms id (chunks ++ [chunk]) floor session
      (floor.put floor.tasks (floor.traffic.receive id chunk)) (session.receive chunk).1 owed
      untold := by
  have received : floor.traffic.receive id chunk =
      (floor.traffic.putSession id (session.receive chunk).1 (session.receive chunk).2,
        if session.isIdle && !(session.receive chunk).1.isIdle then [(0, .handle id)] else []) := by
    unfold Traffic.receive
    rw [attends.known]
  have steps : (floor.put floor.tasks (floor.traffic.receive id chunk)).traffic.stepsOf id
      (floor.put floor.tasks (floor.traffic.receive id chunk)).tasks =
        floor.traffic.stepsOf id floor.tasks ++
          if session.isIdle && !(session.receive chunk).1.isIdle then [.job (.handle id)]
          else [] := by
    rw [received]
    refine (Traffic.stepsOf_append _ _).trans (congrArg (floor.traffic.stepsOf id _ ++ ·) ?_)
    dsimp only
    split
    · exact Traffic.stepsOf_cons_self rfl []
    · rfl
  rcases session.receive_spec chunk with ⟨takes, quiet⟩
  rcases takes.inbox with ⟨more, inbox, -⟩
  have askers : (floor.put floor.tasks (floor.traffic.receive id chunk)).traffic.askers =
      floor.traffic.askers := by
    rw [received]
    rfl
  have outcomes : (floor.put floor.tasks (floor.traffic.receive id chunk)).outcomesOf id =
      floor.outcomesOf id :=
    Floor.outcomesOf_congr rfl fun _ _ => by rw [askers]
  have written : (floor.put floor.tasks (floor.traffic.receive id chunk)).traffic.writtenBy id =
      floor.traffic.writtenBy id := by
    rw [received]
    refine (Traffic.writtenBy_putSession _ id id _ _).trans ?_
    rw [if_pos rfl, quiet, List.append_nil]
  constructor
  case attends =>
    constructor
    case known => exact received ▸ attends.session?_putSession _ _
    case codec_eq => exact takes.codec.trans attends.codec_eq
    case reliable => exact takes.failingWrites.trans attends.reliable
    case phase =>
      have idle : (session.receive chunk).1.isIdle =
          ((session.inbox ++ more).isEmpty && session.current.isNone) := by
        unfold Session.isIdle
        rw [inbox, takes.current]
      rw [steps, idle, inbox, takes.current, received]
      exact attends.phase.takes more
    case books =>
      intro opened
      rw [written, outcomes]
      rcases attends.books (takes.opened opened) with ⟨told, before, books⟩
      exact ⟨told, before, books.takes attends.codec_eq takes opened⟩
  case closed =>
    intro shut
    cases standing : (session.receive chunk).1.closed with
    | true => rfl
    | false =>
        rw [takes.opened standing] at shut
        cases shut
  case writes =>
    rw [written]
    exact .silent

theorem finish (attends : Attends terms id chunks floor session owed untold)
    {front back : List Task} {fault : Option Fault}
    (whole : floor.tasks = front ++ .job (.handled id fault) :: back) :
    Follows terms id chunks floor session
      (floor.put (front ++ back) (floor.traffic.finish id fault)) (session.finish fault).1 []
        [] := by
  have mine : Task.session? floor.traffic.askers (.job (.handled id fault)) = some id := rfl
  rcases attends.phase.of_handled (mem_stepsOf whole mine) with ⟨single, rfl, rfl, nobody⟩
  have left := stepsOf_rest whole mine single
  have finished : floor.traffic.finish id fault =
      (floor.traffic.putSession id (session.finish fault).1 (session.finish fault).2,
        if (session.finish fault).1.isIdle then [] else [(0, .handle id)]) := by
    unfold Traffic.finish
    rw [attends.known]
  rw [finished]
  have written : (floor.traffic.putSession id (session.finish fault).1
      (session.finish fault).2).writtenBy id = floor.traffic.writtenBy id := by
    rw [Traffic.writtenBy_putSession, if_pos rfl, Session.written_finish, List.append_nil]
  constructor
  case attends =>
    constructor
    case known => exact attends.session?_putSession _ _
    case codec_eq => exact attends.codec_eq
    case reliable => exact attends.reliable
    case phase =>
      have idle : (session.finish fault).1.isIdle = session.inbox.isEmpty := Bool.and_true _
      have steps : floor.traffic.stepsOf id ((front ++ back) ++
          (if session.inbox.isEmpty then [] else [(0, TrafficJob.handle id)]).map
            fun entry => Task.job entry.2) =
              if session.inbox.isEmpty then [] else [.job (.handle id)] := by
        split
        · exact (congrArg _ (List.append_nil _)).trans left
        · exact stepsOf_last left rfl
      have phase : Phase terms id (floor.traffic.asked? id) floor.outcomesFor none session.inbox
          (if session.inbox.isEmpty then [] else [.job (.handle id)]) [] [] :=
        .ends nobody session.inbox
      rw [← steps] at phase
      rw [idle]
      exact phase
    case books =>
      intro opened
      rcases attends.books opened with ⟨told, before, buffer, answered⟩
      exact ⟨told, before, buffer, written.symm ▸ answered⟩
  case closed => exact fun shut => shut
  case writes =>
    refine written.symm ▸ ?_
    exact .silent

theorem answer_eq (attends : Attends terms id chunks floor session owed untold)
    {request : RequestId} {message : Message} (mine : floor.traffic.askers.lookup request = some id)
    (current : session.current = some message) (result : Except Fault Outcome) :
    floor.traffic.answer request result =
      (floor.traffic.putSession id
          (session.answer message.device (result.map Outcome.response)).session
          (session.answer message.device (result.map Outcome.response)).effects,
        [(Traffic.roundsToHandled,
          .handled id (session.answer message.device (result.map Outcome.response)).fault)]) := by
  unfold Traffic.answer
  rw [mine]
  dsimp only
  rw [attends.known]
  dsimp only
  rw [current]

theorem answer (attends : Attends terms id chunks floor session owed untold)
    (room : terms.codec.exceeds 64 = false) {front back : List Task} {request : RequestId}
    {result : Except Fault Outcome}
    (whole : floor.tasks = front ++ .job (.answered request result) :: back)
    (mine : floor.traffic.askers.lookup request = some id) :
    ∃ next, Follows terms id chunks floor session
      (floor.put (front ++ back) (floor.traffic.answer request result)) next [] [] := by
  rcases attends.phase.of_answered (mem_stepsOf whole mine) with
    ⟨message, content, outcome, current, asks, rfl, rfl, single, readable, comes, nobody⟩
  have left := stepsOf_rest whole mine single
  rcases Session.answer_replies attends.reliable (attends.codec_eq.symm ▸ room) message.device
    (result.map Outcome.response) with ⟨alike, told⟩
  have replies : session.Replies (terms.AnswersWith message [outcome]) _ :=
    told.imp fun bytes tells => .told readable (comes.tells (attends.codec_eq ▸ tells))
  rw [attends.answer_eq mine current]
  generalize session.answer message.device (result.map Outcome.response) = sent at alike replies
  refine ⟨sent.session, ?_⟩
  have written : (floor.traffic.putSession id sent.session sent.effects).writtenBy id =
      floor.traffic.writtenBy id ++ Gatehouse.written sent.effects := by
    rw [Traffic.writtenBy_putSession, if_pos rfl]
  constructor
  case attends =>
    constructor
    case known => exact attends.session?_putSession _ _
    case codec_eq => exact alike.codec.trans attends.codec_eq
    case reliable => exact alike.failingWrites.trans attends.reliable
    case phase =>
      have steps : floor.traffic.stepsOf id ((front ++ back) ++ [.job (.handled id sent.fault)]) =
          [.job (.handled id sent.fault)] := stepsOf_last left rfl
      have phase : Phase terms id (floor.traffic.asked? id) floor.outcomesFor (some message)
          session.inbox [.job (.handled id sent.fault)] [] [] := .finishing nobody
      rw [← steps, ← current, ← alike.current, ← alike.inbox] at phase
      exact phase
    case books =>
      intro opened
      rcases attends.books (alike.closed.symm.trans opened) with ⟨told, before, books⟩
      refine ⟨told ++ [outcome], before.trans (List.append_nil _).symm, ?_⟩
      exact written.symm ▸ books.replies replies alike opened
  case closed => exact fun shut => alike.closed.trans shut
  case writes =>
    refine written.symm ▸ ?_
    exact .of_replies replies rfl (.inl current) asks _

theorem depart (attends : Attends terms id chunks floor session owed untold)
    {front back : List Task} {request : RequestId} {visit : Visit} {result : Except Fault Outcome}
    (whole : floor.tasks = front ++ .job (.depart request result) :: back)
    (mine : floor.traffic.askers.lookup request = some id)
    (known : floor.traffic.coordinator.visit? request = some visit)
    {outcome : Except Fault Decision} (decided : floor.outcomesFor request = [outcome])
    (comes : terms.Comes visit.device outcome result) :
    Follows terms id chunks floor session
      (floor.put (front ++ back) (floor.traffic.depart request result)) session owed untold := by
  have asked : floor.traffic.asked? id request = some visit := (if_pos mine).trans known
  rcases attends.phase.of_asked asked with
    ⟨message, current, asks, rfl, rfl, none_ready, device, content, others⟩
  have left : floor.traffic.stepsOf id (front ++ back) = [] := by
    have another : Task.session? floor.traffic.askers (.job (.depart request result)) ≠ some id :=
      nofun
    rw [← none_ready, whole]
    exact Agenda.owned_rest_of_ne another front back
  have traffic := floor.traffic_depart known (front ++ back) result
  have calls : floor.traffic.stepsOf id ((floor.line visit.device).tail.head?.toList.map
      fun other => .job (.begin other)) = [] := by
    apply List.filter_eq_nil_iff.mpr
    intro task member
    rcases List.mem_map.mp member with ⟨other, _, rfl⟩
    simp [Task.session?]
  have answers : Task.session? floor.traffic.askers (.job (.answered request result)) = some id :=
    mine
  have steps : (floor.put (front ++ back) (floor.traffic.depart request result)).traffic.stepsOf id
      (floor.put (front ++ back) (floor.traffic.depart request result)).tasks =
        [.job (.answered request result)] := by
    rw [traffic, floor.tasks_depart known]
    show floor.traffic.stepsOf id _ = _
    rw [Traffic.stepsOf_append, left, Traffic.stepsOf_append, calls,
      Traffic.stepsOf_cons_self answers]
    rfl
  have nobody (other : RequestId) : (floor.put (front ++ back)
      (floor.traffic.depart request result)).traffic.asked? id other = none := by
    rw [traffic]
    unfold Traffic.asked?
    split
    · next also =>
        refine (Association.lookup_filter_ne other request _).trans ?_
        split
        · rfl
        · next different =>
            have gone := others other different
            unfold Traffic.asked? at gone
            rw [if_pos also] at gone
            exact gone
    · rfl
  constructor
  case attends =>
    constructor
    case known =>
      rw [traffic]
      exact attends.known
    case codec_eq => exact attends.codec_eq
    case reliable => exact attends.reliable
    case phase =>
      rw [steps, current, decided]
      exact .told asks content (device ▸ comes) nobody
    case books =>
      have outcomes : (floor.put (front ++ back) (floor.traffic.depart request result)).outcomesOf
          id = floor.outcomesOf id :=
        Floor.outcomesOf_congr rfl fun _ _ => by rw [traffic]
      rw [outcomes, traffic]
      exact attends.books
  case closed => exact fun shut => shut
  case writes =>
    rw [traffic]
    exact .silent

end Attends

end Gatehouse
