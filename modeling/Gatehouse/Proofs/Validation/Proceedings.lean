import Gatehouse.Proofs.Validation.Acts
import Gatehouse.Proofs.Validation.Inquest
import Mathlib.Logic.Function.Basic

/-!
# Calls by their names

Requests are brought to a desk under names, and the calls go on one by one in any order; at each
step some questions to the register may fail. Beside the desk is written down what was asked of the
register and how it answered: `Proceedings`.

What a step does shows on a board, which holds the tables of the desk by key and by name, and
`Board.Step` says all that a step can do to it. The two agree: `Proceedings.do_of_step`.
-/

namespace Gatehouse.Validation

open Gatehouse.Access Gatehouse.Register

/-- A step of a call and its time: the call begins with a request, or performs the job that it has
ready. Meanwhile some questions to the register fail, each in its own words. -/
structure Deed where
  call : CallId
  clock : Agenda.Clock
  outages : List (String × String)
  request? : Option Request

/-- The time of a deed by the clock of the register. -/
def Deed.time (settings : Offline.Settings) (deed : Deed) : Time.Instant :=
  Agenda.Clock.instant (deed.clock.later settings.ahead)

structure Dealing where
  call : CallId
  query : Query
  reply : Reply

def Dealing.entry? (dealing : Dealing) : Option LogEntry :=
  match dealing.query, dealing.reply with
  | .append entry, .appended => some entry
  | _, _ => none

def Dealing.fault? (dealing : Dealing) : Option Fault :=
  match dealing.reply with
  | .failed fault => some fault
  | _ => none

/-- The requests that were brought, the desk with the jobs that are ready, and what was asked of the
register. -/
structure Proceedings where
  requests : List (CallId × Request)
  pool : Agenda.Pool Desk Job
  dealings : List Dealing

namespace Desk

def amid (desk : Desk) (outages : List (String × String)) : Desk :=
  match desk.store with
  | .memory memory _ => { desk with store := .memory memory outages }
  | .database _ => desk

def dealing? (desk : Desk) (id : CallId) : Offline.Next → Option Dealing
  | .ask query _ => some ⟨id, query, (desk.query query).2.1⟩
  | _ => none

theorem amid_of_memory {desk : Desk} {memory : Memory} {before : List (String × String)}
    (kept : desk.store = .memory memory before) (outages : List (String × String)) :
    desk.amid outages = { desk with store := .memory memory outages } := by
  unfold amid
  rw [kept]

end Desk

namespace Proceedings

/-- A desk that decides from a register in memory, to which nothing was brought. -/
def start (settings : Offline.Settings) (memory : Memory) : Proceedings :=
  { requests := []
    pool := ⟨Desk.start none .register settings (.memory memory []), []⟩
    dealings := [] }

def desk (proceedings : Proceedings) : Desk :=
  proceedings.pool.state

def ready (proceedings : Proceedings) : List Job :=
  proceedings.pool.ready

/-- What comes of a deed. A call cannot begin twice, and cannot go on without a job. -/
def do? (before : Proceedings) (deed : Deed) : Option Proceedings :=
  let desk := before.desk.amid deed.outages
  match deed.request? with
  | some request =>
      if deed.call ∈ before.requests.map Prod.fst then none
      else
        some {
          requests := before.requests ++ [(deed.call, request)]
          pool := Agenda.Pool.after ⟨desk, before.ready⟩ (desk.begin deed.clock deed.call request)
          dealings :=
            before.dealings ++ (desk.dealing? deed.call (Offline.start request)).toList }
  | none =>
      (before.ready.find? fun job => job.call == deed.call).map fun job =>
        { requests := before.requests
          pool := Agenda.Pool.after ⟨desk, before.ready.eraseP fun job => job.call == deed.call⟩
            (Desk.perform deed.clock job desk)
          dealings := before.dealings ++
            ((desk.walkOn? deed.clock job).bind (desk.dealing? deed.call)).toList }

/-- What comes of deeds one after another, if each of them can be done. -/
def doAll? (before : Proceedings) (deeds : List Deed) : Option Proceedings :=
  deeds.foldlM do? before

theorem doAll?_concat (before : Proceedings) (deeds : List Deed) (deed : Deed) :
    before.doAll? (deeds ++ [deed]) = (before.doAll? deeds).bind (·.do? deed) := by
  simp [doAll?, List.foldlM_append]

end Proceedings

@[ext]
structure Board where
  memory : Memory
  line : Reference → List CallId
  call? : CallId → Option Call
  jobs : CallId → List Job
  requests : List (CallId × Request)
  dealings : List Dealing
  outcomes : List (CallId × Except Fault Decision × Option Online.Report)

inductive Call.GoesOn (settings : Offline.Settings) (now : Time.Instant) (id : CallId)
    (call : Call) : Job → Offline.Next → Prop
  | replied {stage : Offline.Stage} (reply : Reply) :
      call.walk = some stage →
      Call.GoesOn settings now id call (.replied id reply)
        (Offline.resume settings now call.started call.request stage reply)
  | checks {subject : Offline.Subject} {user : UserView} :
      call.walk = some (.checks subject user) →
      Call.GoesOn settings now id call (.check id)
        (Offline.check settings now call.started call.request subject user)
  | enters {subject : Offline.Subject} :
      call.walk = some (.queued subject) →
      Call.GoesOn settings now id call (.enter id)
        (Offline.enter settings now call.request subject)

def Call.fresh (request : Request) (now : Time.Instant) : Call :=
  { request := request, started := now, inquiry := none, walk := none, locked := .null }

namespace Board

def proceed (board : Board) (id : CallId) (call : Call) (jobs : List Job) : Board :=
  { board with
    call? := Function.update board.call? id (some call)
    jobs := Function.update board.jobs id jobs }

def walk (board : Board) (outages : List (String × String)) (id : CallId) (call : Call) :
    Offline.Next → Board
  | .ask query stage =>
      let answer := board.memory.answerUnless outages query
      { board.proceed id { call with walk := some stage } [.replied id answer.2] with
        memory := answer.1
        dealings := board.dealings ++ [⟨id, query, answer.2⟩] }
  | .rest stage => board.proceed id { call with walk := some stage } [.check id]
  | .acquire user stage =>
      { board.proceed id { call with walk := some stage, locked := user }
          (if (board.line user).isEmpty then [.enter id] else []) with
        line := Function.update board.line user (board.line user ++ [id]) }
  | .finish outcome _ => { board with jobs := Function.update board.jobs id [.outcome id outcome] }
  | .leave outcome _ => { board with jobs := Function.update board.jobs id [.leave id outcome] }

def leave (board : Board) (id : CallId) (call : Call) (outcome : Except Fault Decision) : Board :=
  let behind := (board.line call.locked).tail
  { board with
    line := Function.update board.line call.locked behind
    jobs := fun other =>
      if other = id then [.outcome id outcome]
      else board.jobs other ++ if behind.head? = some other then [.enter other] else [] }

def close (board : Board) (id : CallId) (outcome : Except Fault Decision) : Board :=
  { board with
    call? := Function.update board.call? id none
    jobs := Function.update board.jobs id []
    outcomes := board.outcomes ++ [(id, outcome, none)] }

def enroll (board : Board) (id : CallId) (request : Request) : Board :=
  { board with requests := board.requests ++ [(id, request)] }

inductive Step (settings : Offline.Settings) (deed : Deed) (board : Board) : Board → Prop
  | begins {request : Request} :
      deed.request? = some request → deed.call ∉ board.requests.map Prod.fst →
      board.jobs deed.call = [] →
      Step settings deed board ((board.enroll deed.call request).walk deed.outages deed.call
        (.fresh request (deed.time settings)) (Offline.start request))
  | walks {call : Call} {job : Job} {next : Offline.Next} :
      deed.request? = none → board.call? deed.call = some call →
      board.jobs deed.call = [job] →
      call.GoesOn settings (deed.time settings) deed.call job next →
      Step settings deed board (board.walk deed.outages deed.call call next)
  | leaves {call : Call} {outcome : Except Fault Decision} {behind : List CallId} :
      deed.request? = none → board.call? deed.call = some call →
      board.jobs deed.call = [.leave deed.call outcome] →
      board.line call.locked = deed.call :: behind → deed.call ∉ behind →
      Step settings deed board (board.leave deed.call call outcome)
  | ends {call : Call} {outcome : Except Fault Decision} :
      deed.request? = none → board.call? deed.call = some call →
      board.jobs deed.call = [.outcome deed.call outcome] → call.inquiry = none →
      Step settings deed board (board.close deed.call outcome)

end Board

namespace Proceedings

def board (proceedings : Proceedings) : Board :=
  { memory := proceedings.desk.memory?.getD .empty
    line := proceedings.desk.locks.line
    call? := proceedings.desk.call?
    jobs := fun id => jobsOf id proceedings.ready
    requests := proceedings.requests
    dealings := proceedings.dealings
    outcomes := proceedings.desk.outcomes }

/-- A desk that decides from a register in memory, and whose locks have one line for each key. -/
structure Regular (settings : Offline.Settings) (proceedings : Proceedings) : Prop where
  plain : Plain settings proceedings.desk
  sound : proceedings.desk.locks.Sound

end Proceedings

theorem Rest.jobsOf_update {id : CallId} {ready rest : List Job} (left : Rest id ready rest)
    {fresh : List Job} (mine : ∀ job ∈ fresh, job.call = id) :
    (fun other => jobsOf other (rest ++ fresh)) =
      Function.update (fun other => jobsOf other ready) id fresh := by
  funext other
  rw [jobsOf_append, Function.update_apply]
  split
  · next same =>
      subst same
      rw [left.mine, List.nil_append]
      exact List.filter_eq_self.mpr fun job member => by simp [mine job member]
  · next different =>
      rw [left.others other different]
      have none_of_these : jobsOf other fresh = [] :=
        List.filter_eq_nil_iff.mpr fun job member => by simp [mine job member, Ne.symm different]
      rw [none_of_these, List.append_nil]

theorem Rest.jobsOf_update_single {id : CallId} {ready rest : List Job} {job : Job}
    (left : Rest id ready rest) (mine : job.call = id) :
    (fun other => jobsOf other (rest ++ [job])) =
      Function.update (fun other => jobsOf other ready) id [job] :=
  left.jobsOf_update fun _ member => (congrArg Job.call (List.mem_singleton.mp member)).trans mine

section

variable {settings : Offline.Settings} {before : Proceedings} {deed : Deed} {id : CallId}
  {call : Call} {rest : List Job}

theorem Desk.call?_update (desk : Desk) (id : CallId) (call : Call) :
    (desk.setCall id call).call? = Function.update desk.call? id (some call) := by
  funext other
  rw [Desk.call?_setCall, Function.update_apply]

theorem Lock.line_update {lock : Lock Reference CallId} (sound : lock.Sound) (key : Reference)
    (id : CallId) :
    (lock.acquire key id).1.line = Function.update lock.line key (lock.line key ++ [id]) := by
  funext other
  rw [Lock.line_acquire sound, Function.update_apply]

theorem Proceedings.Regular.walk (regular : before.Regular settings)
    (left : Rest id before.ready rest) (outages : List (String × String))
    (requests : List (CallId × Request)) (call : Call) (next : Offline.Next) :
    let desk := before.desk.amid outages
    let after : Proceedings :=
      { requests := requests
        pool := Agenda.Pool.after ⟨desk, rest⟩ (desk.stepOffline id call next)
        dealings := before.dealings ++ (desk.dealing? id next).toList }
    after.Regular settings ∧
      after.board = { before.board with requests := requests }.walk outages id call next := by
  rcases regular.plain.memory with ⟨memory, earlier, kept⟩
  rw [Desk.amid_of_memory kept]
  intro desk
  have memory_is : before.board.memory = memory := by
    simp [Proceedings.board, Desk.memory?, kept]
  cases next with
  | ask query stage =>
      have asked : desk.query query =
          ({ desk with store := .memory (memory.answerUnless outages query).1 outages },
            (memory.answerUnless outages query).2, 0) := Desk.query_memory rfl query
      simp only [Desk.stepOffline, Desk.dealing?, asked]
      constructor
      · exact ⟨⟨regular.plain.remote, regular.plain.fallback, regular.plain.offline, _, _, rfl⟩,
          regular.sound⟩
      · simp only [Board.walk, memory_is]
        exact Board.ext rfl rfl (Desk.call?_update ..) (left.jobsOf_update_single rfl) rfl rfl rfl
  | rest stage =>
      constructor
      · exact ⟨⟨regular.plain.remote, regular.plain.fallback, regular.plain.offline, _, _, rfl⟩,
          regular.sound⟩
      · exact Board.ext memory_is.symm rfl (Desk.call?_update ..)
          (left.jobsOf_update_single rfl) rfl (List.append_nil _) rfl
  | acquire user stage =>
      have enters : ((if (desk.locks.line user).isEmpty then [(0, .enter id)] else [] :
          Agenda.Line Job).map Prod.snd) =
            if (desk.locks.line user).isEmpty then [.enter id] else [] := by
        split <;> rfl
      have mine : ∀ job ∈ (if (desk.locks.line user).isEmpty then [Job.enter id] else []),
          job.call = id := by
        split <;> simp [Job.call]
      constructor
      · exact ⟨⟨regular.plain.remote, regular.plain.fallback, regular.plain.offline, _, _, rfl⟩,
          regular.sound.acquire user id⟩
      · refine Board.ext memory_is.symm (Lock.line_update regular.sound user id)
          (Desk.call?_update ..) ?_ rfl (List.append_nil _) rfl
        refine Eq.trans (funext fun other => ?_) (left.jobsOf_update mine)
        exact congrArg (fun jobs => jobsOf other (rest ++ jobs)) enters
  | finish outcome rounds =>
      constructor
      · exact ⟨⟨regular.plain.remote, regular.plain.fallback, regular.plain.offline, _, _, rfl⟩,
          regular.sound⟩
      · exact Board.ext memory_is.symm rfl rfl (left.jobsOf_update_single rfl) rfl
          (List.append_nil _) rfl
  | leave outcome rounds =>
      constructor
      · exact ⟨⟨regular.plain.remote, regular.plain.fallback, regular.plain.offline, _, _, rfl⟩,
          regular.sound⟩
      · exact Board.ext memory_is.symm rfl rfl (left.jobsOf_update_single rfl) rfl
          (List.append_nil _) rfl

theorem Proceedings.Regular.leave (regular : before.Regular settings)
    (left : Rest id before.ready rest) (outages : List (String × String))
    (live : before.desk.call? id = some call) {behind : List CallId}
    (line : before.desk.locks.line call.locked = id :: behind) (last : id ∉ behind)
    (clock : Agenda.Clock) (outcome : Except Fault Decision) :
    let desk := before.desk.amid outages
    let after : Proceedings :=
      { requests := before.requests
        pool := Agenda.Pool.after ⟨desk, rest⟩ (Desk.perform clock (.leave id outcome) desk)
        dealings := before.dealings }
    after.Regular settings ∧ after.board = before.board.leave id call outcome := by
  rcases regular.plain.memory with ⟨memory, earlier, kept⟩
  rw [Desk.amid_of_memory kept]
  intro desk
  have memory_is : before.board.memory = memory := by
    simp [Proceedings.board, Desk.memory?, kept]
  have known : desk.call? id = some call := live
  have next : (desk.locks.release call.locked).2 = behind.head? :=
    (Lock.release_next ..).trans (congrArg (fun line => (List.tail line).head?) line)
  rw [Desk.perform_leave known, next]
  constructor
  · exact ⟨⟨regular.plain.remote, regular.plain.fallback, regular.plain.offline, _, _, rfl⟩,
      regular.sound.release call.locked⟩
  · refine Board.ext memory_is.symm (funext fun key => ?_) rfl (funext fun other => ?_) rfl rfl rfl
    · refine (Lock.line_release regular.sound call.locked key).trans ?_
      exact (Function.update_apply ..).symm
    · have jobs := left.jobsOf_leave behind.head? outcome other
      have listed : (behind.head?.toList.map (fun other => (1, Job.enter other)) ++
          [(1 + Desk.roundsOfInquiry call, Job.outcome id outcome)]).map Prod.snd =
            behind.head?.toList.map Job.enter ++ [.outcome id outcome] := by
        cases behind <;> rfl
      have tail : (before.board.line call.locked).tail = behind := congrArg List.tail line
      have not_next : behind.head? ≠ some id := fun first => last (List.mem_of_head? first)
      simp only [Board.leave, tail]
      refine (congrArg (fun jobs => jobsOf other (rest ++ jobs)) listed).trans (jobs.trans ?_)
      split
      · next same => rw [same, if_neg not_next, if_pos rfl]; rfl
      · next different => rw [if_neg (Ne.symm different), List.append_nil]; rfl

theorem Proceedings.Regular.close (regular : before.Regular settings)
    (left : Rest id before.ready rest) (outages : List (String × String))
    (live : before.desk.call? id = some call) (uninquired : call.inquiry = none)
    (clock : Agenda.Clock) (outcome : Except Fault Decision) :
    let desk := before.desk.amid outages
    let after : Proceedings :=
      { requests := before.requests
        pool := Agenda.Pool.after ⟨desk, rest⟩ (Desk.perform clock (.outcome id outcome) desk)
        dealings := before.dealings }
    after.Regular settings ∧ after.board = before.board.close id outcome := by
  rcases regular.plain.memory with ⟨memory, earlier, kept⟩
  rw [Desk.amid_of_memory kept]
  intro desk
  have memory_is : before.board.memory = memory := by
    simp [Proceedings.board, Desk.memory?, kept]
  have known : desk.call? id = some call := live
  constructor
  · exact ⟨⟨regular.plain.remote, regular.plain.fallback, regular.plain.offline, _, _, rfl⟩,
      regular.sound⟩
  · refine Board.ext memory_is.symm rfl (funext fun other => ?_) ?_ rfl rfl ?_
    · exact (Desk.call?_close desk id other outcome).trans (Function.update_apply ..).symm
    · exact left.jobsOf_update (show ∀ job ∈ ([] : List Job), job.call = id by simp)
    · show desk.outcomes ++ [(id, outcome, (desk.call? id).bind _)] = _
      rw [known, Option.bind_some, uninquired]
      rfl

theorem rest_of_single {ready : List Job} {job : Job} (single : jobsOf id ready = [job]) :
    (ready.find? fun other => other.call == id) = some job ∧
      Rest id ready (ready.eraseP fun other => other.call == id) := by
  have member : job ∈ jobsOf id ready := single ▸ List.mem_cons_self
  rcases List.mem_filter.mp member with ⟨present, mine⟩
  have chosen : (job.call == id) = true := by simpa using mine
  rcases List.exists_of_eraseP (p := fun other : Job => other.call == id) present chosen with
    ⟨found, front, back, before, same, whole, left⟩
  have mine : found.call = id := beq_iff_eq.mp same
  rw [whole] at single
  rcases jobsOf_rest_of_single mine single with ⟨rfl, none_left⟩
  constructor
  · rw [whole, List.find?_append, List.find?_eq_none.mpr before, List.find?_cons, same]
    rfl
  · rw [left, whole]
    exact ⟨none_left, fun other different =>
      jobsOf_rest_of_ne (fun same => different (same.symm.trans mine)) front back⟩

theorem Desk.begin_eq {desk : Desk} (plain : Plain settings desk) (clock : Agenda.Clock)
    (id : CallId) (request : Request) :
    desk.begin clock id request =
      desk.stepOffline id (.fresh request (Agenda.Clock.instant (clock.later settings.ahead)))
        (Offline.start request) := by
  simp only [Desk.begin, plain.remote, Desk.decideLocally, plain.fallback, Desk.now, plain.offline]
  rfl

theorem Plain.amid {desk : Desk} (plain : Plain settings desk)
    (outages : List (String × String)) : Plain settings (desk.amid outages) := by
  rcases plain.memory with ⟨memory, before, kept⟩
  rw [Desk.amid_of_memory kept]
  exact ⟨plain.remote, plain.fallback, plain.offline, memory, outages, rfl⟩

theorem Desk.call?_amid (desk : Desk) (outages : List (String × String)) :
    (desk.amid outages).call? = desk.call? := by
  unfold Desk.amid
  split <;> rfl

theorem Call.GoesOn.call_eq {settings : Offline.Settings} {now : Time.Instant} {job : Job}
    {next : Offline.Next} (goesOn : call.GoesOn settings now id job next) : job.call = id := by
  cases goesOn <;> rfl

theorem Desk.walkOn?_of_goesOn {desk : Desk} (plain : Plain settings desk)
    (live : desk.call? deed.call = some call) {job : Job} {next : Offline.Next}
    (goesOn : call.GoesOn settings (deed.time settings) deed.call job next) :
    desk.walkOn? deed.clock job = some next := by
  have now : desk.now deed.clock = deed.time settings := by
    rw [Desk.now, plain.offline]
    rfl
  cases goesOn with
  | replied reply walk => rw [Desk.walkOn?_replied live _ walk, plain.offline, now]
  | checks walk => rw [Desk.walkOn?_check live _ walk, plain.offline, now]
  | enters walk => rw [Desk.walkOn?_enter live _ walk, plain.offline, now]

theorem Proceedings.do_of_step (regular : before.Regular settings) {board : Board}
    (step : before.board.Step settings deed board) :
    ∃ after, before.do? deed = some after ∧ after.Regular settings ∧ after.board = board := by
  have plain := regular.plain.amid deed.outages
  cases step with
  | @begins request brings unknown idle =>
      have left : Rest deed.call before.ready before.ready := ⟨idle, fun _ _ => rfl⟩
      have unknown : deed.call ∉ before.requests.map Prod.fst := unknown
      refine ⟨_, ?_, regular.walk left deed.outages (before.requests ++ [(deed.call, request)])
        (.fresh request (deed.time settings)) (Offline.start request)⟩
      simp only [do?, brings, if_neg unknown, Desk.begin_eq plain]
      rfl
  | @walks call job next goes live single goesOn =>
      rcases rest_of_single single with ⟨found, left⟩
      have known : (before.desk.amid deed.outages).call? deed.call = some call :=
        (congrFun (Desk.call?_amid ..) _).trans live
      have walks := Desk.walkOn?_of_goesOn plain known goesOn
      have performs := (Desk.perform_walk walks (goesOn.call_eq ▸ known)).1
      rw [goesOn.call_eq] at performs
      refine ⟨_, ?_, regular.walk left deed.outages before.requests call next⟩
      simp only [do?, goes, found, Option.map_some, walks, performs, Option.bind_some]
  | @leaves call outcome behind goes live single line last =>
      rcases rest_of_single single with ⟨found, left⟩
      refine ⟨_, ?_, regular.leave left deed.outages live line last deed.clock outcome⟩
      simp only [do?, goes, found, Option.map_some, Desk.walkOn?, Option.bind_none,
        Option.toList_none, List.append_nil]
  | @ends call outcome goes live single uninquired =>
      rcases rest_of_single single with ⟨found, left⟩
      refine ⟨_, ?_, regular.close left deed.outages live uninquired deed.clock outcome⟩
      simp only [do?, goes, found, Option.map_some, Desk.walkOn?, Option.bind_none,
        Option.toList_none, List.append_nil]

end

end Gatehouse.Validation
