import Gatehouse.Proofs.Agenda.Pool
import Gatehouse.Proofs.Lock.Chain

/-!
# Calls in any order

Calls are made, and the work of calls ends, at any time, while the jobs of the mutex are performed
in any order. At every moment the calls of a key that have ended are the first that were made, one
after another, and of the others only the first can have started (`InTurn`). Each move keeps this
(`InTurn.play`).
-/

namespace Gatehouse.Lock

variable {Key Failure Value : Type}

/-- What can be seen of a call: its work starts, its work ends, the call ends as its work did. -/
inductive CallEvent (Failure Value : Type) where
  | started (ticket : Ticket)
  | completed (ticket : Ticket) (result : Except Failure Value)
  | settled (ticket : Ticket) (result : Except Failure Value)
  deriving DecidableEq

def CallEvent.ticket : CallEvent Failure Value → Ticket
  | .started ticket | .completed ticket _ | .settled ticket _ => ticket

def CallJob.ticket : CallJob Failure Value → Ticket
  | .start ticket | .leave ticket _ => ticket

/-- What is seen when a job is performed. -/
def CallJob.event : CallJob Failure Value → CallEvent Failure Value
  | .start ticket => .started ticket
  | .leave ticket result => .settled ticket result

/-- What happens to a mutex: a call is made, the work of a call ends, a job is performed. -/
inductive MutexMove (Key Failure Value : Type) where
  | submit (key : Key)
  | complete (ticket : Ticket) (result : Except Failure Value)
  | work (clock : Agenda.Clock) (place : Nat)

/-- A mutex with the jobs that are ready, and all that could be seen so far. -/
structure Crew (Key Failure Value : Type) where
  pool : Agenda.Pool (Mutex Key) (CallJob Failure Value)
  events : List (CallEvent Failure Value)

/-- The tickets of a key, when calls were made for some keys. -/
def ticketsOf [DecidableEq Key] (keys : List Key) (key : Key) : List Ticket :=
  (List.range keys.length).filter fun ticket => keys[ticket]? = some key

/-- The events of the calls for a key. -/
def eventsOf [DecidableEq Key] (keys : List Key) (key : Key)
    (events : List (CallEvent Failure Value)) : List (CallEvent Failure Value) :=
  events.filter fun event => keys[event.ticket]? = some key

/-- All that is seen of a call in the end. -/
def whole (call : Ticket × Except Failure Value) : List (CallEvent Failure Value) :=
  [.started call.1, .completed call.1 call.2, .settled call.1 call.2]

def jobsOf (ticket : Ticket) (jobs : List (CallJob Failure Value)) :
    List (CallJob Failure Value) :=
  Agenda.owned (fun job => some job.ticket) ticket jobs

namespace Crew

def start : Crew Key Failure Value :=
  { pool := ⟨.free, []⟩, events := [] }

def mutex (crew : Crew Key Failure Value) : Mutex Key :=
  crew.pool.state

def ready (crew : Crew Key Failure Value) : List (CallJob Failure Value) :=
  crew.pool.ready

def keys (crew : Crew Key Failure Value) : List Key :=
  crew.mutex.calls.map Call.key

def goOn (crew : Crew Key Failure Value) (mutex : Mutex Key) (ready : List (CallJob Failure Value))
    (event : CallEvent Failure Value) : Crew Key Failure Value :=
  { pool := ⟨mutex, ready⟩, events := crew.events ++ [event] }

variable [DecidableEq Key]

def play (crew : Crew Key Failure Value) : MutexMove Key Failure Value → Crew Key Failure Value
  | .submit key => { crew with pool := crew.pool.after (crew.mutex.submit key) }
  | .complete ticket result =>
      { pool := crew.pool.after (crew.mutex.complete 0 ticket result)
        events := crew.events ++
          if crew.mutex.stage? ticket = some .running then [.completed ticket result] else [] }
  | .work clock place =>
      { pool := crew.pool.work Mutex.perform clock place
        events := crew.events ++ (crew.ready[place]?.map CallJob.event).toList }

theorem play_work_of_none {crew : Crew Key Failure Value} (clock : Agenda.Clock) {place : Nat}
    (none : crew.ready[place]? = none) : crew.play (.work clock place) = crew := by
  have idle : crew.pool.work Mutex.perform clock place = crew.pool := by
    rw [Agenda.Pool.work]
    rw [ready] at none
    rw [none]
  rw [play, idle, none]
  simp

theorem play_work_of_some {crew : Crew Key Failure Value} (clock : Agenda.Clock) {place : Nat}
    {job : CallJob Failure Value} (found : crew.ready[place]? = some job) :
    ∃ front back, crew.ready = front ++ job :: back ∧
      crew.play (.work clock place) =
        crew.goOn (Mutex.perform clock job crew.mutex).1
          (front ++ back ++ (Mutex.perform clock job crew.mutex).2.map Prod.snd) job.event := by
  rcases Agenda.Pool.split_at found with ⟨front, back, whole, erased⟩
  refine ⟨front, back, whole, ?_⟩
  have worked : crew.pool.work Mutex.perform clock place =
      ⟨(Mutex.perform clock job crew.mutex).1,
        front ++ back ++ (Mutex.perform clock job crew.mutex).2.map Prod.snd⟩ := by
    rw [ready] at found erased
    simp only [Agenda.Pool.work, found, Agenda.Pool.after, erased]
    rfl
  rw [play, worked, found]
  rfl

def playAll (crew : Crew Key Failure Value) (moves : List (MutexMove Key Failure Value)) :
    Crew Key Failure Value :=
  moves.foldl play crew

end Crew

inductive AtWork (crew : Crew Key Failure Value) :
    Option Ticket → List (CallEvent Failure Value) → Prop
  | idle : AtWork crew none []
  | next {ticket : Ticket} : crew.mutex.stage? ticket = some .waiting →
      jobsOf ticket crew.ready = [.start ticket] → AtWork crew (some ticket) []
  | running {ticket : Ticket} : crew.mutex.stage? ticket = some .running →
      jobsOf ticket crew.ready = [] → AtWork crew (some ticket) [.started ticket]
  | ending {ticket : Ticket} {result : Except Failure Value} :
      crew.mutex.stage? ticket = some .ending →
      jobsOf ticket crew.ready = [.leave ticket result] →
      AtWork crew (some ticket) [.started ticket, .completed ticket result]

variable [DecidableEq Key]

/-- The calls for a key have ended one after another up to the line, and the first of the line is at
work. -/
def KeyInTurn (crew : Crew Key Failure Value) (key : Key) : Prop :=
  ∃ (finished : List (Ticket × Except Failure Value)) (begun : List (CallEvent Failure Value)),
    ticketsOf crew.keys key = finished.map Prod.fst ++ crew.mutex.line key ∧
      eventsOf crew.keys key crew.events = finished.flatMap whole ++ begun ∧
      AtWork crew (crew.mutex.line key).head? begun

structure InTurn (crew : Crew Key Failure Value) : Prop where
  chained : crew.mutex.IsChained
  turn : ∀ key, KeyInTurn crew key
  busy : ∀ job ∈ crew.ready, ∃ key rest, crew.mutex.line key = job.ticket :: rest
  known : ∀ event ∈ crew.events, event.ticket < crew.keys.length

variable {crew after : Crew Key Failure Value}

omit [DecidableEq Key] in
theorem AtWork.later {first : Option Ticket} {begun : List (CallEvent Failure Value)}
    (atWork : AtWork crew first begun)
    (same : ∀ ticket, first = some ticket →
      after.mutex.stage? ticket = crew.mutex.stage? ticket ∧
        jobsOf ticket after.ready = jobsOf ticket crew.ready) : AtWork after first begun := by
  cases atWork with
  | idle => exact .idle
  | next stage jobs =>
      rcases same _ rfl with ⟨sameStage, sameJobs⟩
      exact .next (sameStage.trans stage) (sameJobs.trans jobs)
  | running stage jobs =>
      rcases same _ rfl with ⟨sameStage, sameJobs⟩
      exact .running (sameStage.trans stage) (sameJobs.trans jobs)
  | ending stage jobs =>
      rcases same _ rfl with ⟨sameStage, sameJobs⟩
      exact .ending (sameStage.trans stage) (sameJobs.trans jobs)

theorem inTurn_start : InTurn (Crew.start : Crew Key Failure Value) where
  chained := Mutex.isChained_free
  turn _ := ⟨[], [], rfl, rfl, .idle⟩
  busy _ member := nomatch member
  known _ member := nomatch member

omit [DecidableEq Key] in
theorem jobsOf_append (ticket : Ticket) (left right : List (CallJob Failure Value)) :
    jobsOf ticket (left ++ right) = jobsOf ticket left ++ jobsOf ticket right :=
  Agenda.owned_append left right

omit [DecidableEq Key] in
theorem jobsOf_singleton (ticket : Ticket) (job : CallJob Failure Value) :
    jobsOf ticket [job] = if job.ticket = ticket then [job] else [] := by
  by_cases same : job.ticket = ticket <;> simp [jobsOf, Agenda.owned, same]

omit [DecidableEq Key] in
theorem jobsOf_start (next : Option Ticket) (ticket : Ticket) :
    jobsOf ticket (next.toList.map .start : List (CallJob Failure Value)) =
      if next = some ticket then [.start ticket] else [] := by
  apply Agenda.owned_map_toList
  exact fun _ => rfl

omit [DecidableEq Key] in
theorem jobsOf_rest_of_ne {job : CallJob Failure Value} {ticket : Ticket}
    (other : job.ticket ≠ ticket) (front back : List (CallJob Failure Value)) :
    jobsOf ticket (front ++ back) = jobsOf ticket (front ++ job :: back) := by
  apply Agenda.owned_rest_of_ne
  exact fun same => other (Option.some.inj same)

omit [DecidableEq Key] in
theorem jobsOf_rest_of_single {job only : CallJob Failure Value} {ticket : Ticket}
    (mine : job.ticket = ticket) {front back : List (CallJob Failure Value)}
    (single : jobsOf ticket (front ++ job :: back) = [only]) :
    only = job ∧ jobsOf ticket (front ++ back) = [] :=
  Agenda.owned_rest_of_single (congrArg some mine) single

omit [DecidableEq Key] in
theorem keys_eq (crew : Crew Key Failure Value) (ticket : Ticket) :
    crew.keys[ticket]? = crew.mutex.key? ticket :=
  List.getElem?_map ..

theorem ticketsOf_concat (keys : List Key) (key other : Key) :
    ticketsOf (keys ++ [key]) other =
      ticketsOf keys other ++ if other = key then [keys.length] else [] := by
  simp only [ticketsOf, List.length_append, List.length_singleton, List.range_succ,
    List.filter_append]
  congr 1
  · apply List.filter_congr
    intro ticket member
    rw [List.getElem?_append_left (List.mem_range.mp member)]
  · by_cases same : other = key
    · simp [same]
    · simp [same, Ne.symm same]

theorem eventsOf_keys_concat (keys : List Key) (key other : Key)
    {events : List (CallEvent Failure Value)}
    (known : ∀ event ∈ events, event.ticket < keys.length) :
    eventsOf (keys ++ [key]) other events = eventsOf keys other events := by
  apply List.filter_congr
  intro event member
  rw [List.getElem?_append_left (known event member)]

theorem eventsOf_concat (keys : List Key) (key : Key) (events : List (CallEvent Failure Value))
    (event : CallEvent Failure Value) :
    eventsOf keys key (events ++ [event]) =
      eventsOf keys key events ++ if keys[event.ticket]? = some key then [event] else [] := by
  by_cases same : keys[event.ticket]? = some key <;> simp [eventsOf, same]

theorem not_mem_line_of_ne {key other : Key} (different : other ≠ key) {ticket : Ticket}
    (member : ticket ∈ crew.mutex.line other) : ticket ∉ crew.mutex.line key :=
  fun here => different (Mutex.key_eq_of_mem_line member here)

namespace InTurn

/-- A move that concerns the first call of one line keeps all keys in turn if it keeps that one. -/
theorem step (inTurn : InTurn crew) {key : Key} {ticket : Ticket} {rest : List Ticket}
    (calls : crew.mutex.line key = ticket :: rest) {mutex : Mutex Key}
    {ready : List (CallJob Failure Value)} {event : CallEvent Failure Value}
    (mine : event.ticket = ticket) (keys : mutex.calls.map Call.key = crew.keys)
    (chained : mutex.IsChained)
    (lines : ∀ other, other ≠ key → mutex.line other = crew.mutex.line other)
    (stages : ∀ one, one ∉ crew.mutex.line key → mutex.stage? one = crew.mutex.stage? one)
    (jobs : ∀ one, one ∉ crew.mutex.line key → jobsOf one ready = jobsOf one crew.ready)
    (busy : ∀ job ∈ ready, job ∈ crew.ready ∧ job.ticket ≠ ticket ∨
      ∃ rest, mutex.line key = job.ticket :: rest)
    (turn : ∀ (finished : List (Ticket × Except Failure Value))
        (begun : List (CallEvent Failure Value)), AtWork crew (some ticket) begun →
      ∃ (later : List (Ticket × Except Failure Value)) (next : List (CallEvent Failure Value)),
        later.map Prod.fst ++ mutex.line key = finished.map Prod.fst ++ ticket :: rest ∧
          later.flatMap whole ++ next = finished.flatMap whole ++ begun ++ [event] ∧
          AtWork (crew.goOn mutex ready event) (mutex.line key).head? next) :
    InTurn (crew.goOn mutex ready event) := by
  have standing : ticket ∈ crew.mutex.line key := calls ▸ List.mem_cons_self
  have same : (crew.goOn mutex ready event).keys = crew.keys := keys
  have known : crew.keys[event.ticket]? = some key := by
    rw [mine, keys_eq]
    exact (Mutex.mem_line.mp standing).1
  constructor
  case chained => exact chained
  case turn =>
    intro other
    by_cases here : other = key
    · subst here
      rcases inTurn.turn other with ⟨finished, begun, tickets, seen, atWork⟩
      rw [calls] at tickets atWork
      rcases turn finished begun atWork with ⟨later, next, sameTickets, sameEvents, goesOn⟩
      refine ⟨later, next, ?_, ?_, goesOn⟩
      · rw [same, tickets, ← sameTickets]
        rfl
      · rw [same, Crew.goOn, eventsOf_concat, known, if_pos rfl, seen, sameEvents]
    · rcases inTurn.turn other with ⟨finished, begun, tickets, seen, atWork⟩
      have elsewhere : some key ≠ some other := fun equal => here (Option.some.inj equal).symm
      refine ⟨finished, begun, ?_, ?_, ?_⟩
      · rw [same, tickets, ← lines other here]
        rfl
      · rw [same, Crew.goOn, eventsOf_concat, known, if_neg elsewhere, List.append_nil, seen]
      · have still := lines other here
        rw [← still] at atWork
        apply atWork.later
        intro first isFirst
        have away := not_mem_line_of_ne here (List.mem_of_head? (still ▸ isFirst))
        exact ⟨stages first away, jobs first away⟩
  case busy =>
    intro job member
    rcases busy job member with ⟨old, apart⟩ | ⟨others, first⟩
    · rcases inTurn.busy job old with ⟨other, others, first⟩
      have different : other ≠ key := by
        rintro rfl
        cases first.symm.trans calls
        exact apart rfl
      exact ⟨other, others, (lines other different).trans first⟩
    · exact ⟨key, others, first⟩
  case known =>
    intro one member
    rw [Crew.goOn, List.mem_append, List.mem_singleton] at member
    rw [same]
    rcases member with old | rfl
    · exact inTurn.known one old
    · exact (List.getElem?_eq_some_iff.mp known).1

theorem first_of_running (inTurn : InTurn crew) {ticket : Ticket}
    (runs : crew.mutex.stage? ticket = some .running) :
    ∃ key rest, crew.mutex.line key = ticket :: rest := by
  rcases Option.map_eq_some_iff.mp runs with ⟨call, found, -⟩
  have stands : ticket ∈ crew.mutex.line call.key :=
    Mutex.mem_line.mpr ⟨by rw [Mutex.key?, found]; rfl, by rw [runs]; simp⟩
  cases calls : crew.mutex.line call.key with
  | nil => simp [calls] at stands
  | cons first rest =>
      rw [calls, List.mem_cons] at stands
      rcases stands with rfl | behind
      · exact ⟨call.key, rest, calls⟩
      · have waits := inTurn.chained.queued call.key ticket (by rw [calls]; exact behind)
        cases waits.symm.trans runs

theorem complete (inTurn : InTurn crew) (ticket : Ticket) (result : Except Failure Value) :
    InTurn (crew.play (.complete ticket result)) := by
  by_cases runs : crew.mutex.stage? ticket = some .running
  case neg =>
    have nothing : crew.play (.complete ticket result) = crew := by
      have refused : crew.mutex.complete 0 ticket result = (crew.mutex, []) := if_neg runs
      simp only [Crew.play, refused, if_neg runs, List.append_nil, Agenda.Pool.after, List.map_nil]
      rfl
    rw [nothing]
    exact inTurn
  case pos =>
    rcases inTurn.first_of_running runs with ⟨key, rest, calls⟩
    have standing : ticket ∈ crew.mutex.line key := calls ▸ List.mem_cons_self
    have stays : Stage.ending ≠ .gone := by decide
    have first : (crew.mutex.setStage ticket .ending).line key = ticket :: rest := by
      rw [Mutex.line_setStage standing stays, calls]
    have ends : crew.play (.complete ticket result) =
        crew.goOn (crew.mutex.setStage ticket .ending) (crew.ready ++ [.leave ticket result])
          (.completed ticket result) := by
      have accepted : crew.mutex.complete 0 ticket result =
          (crew.mutex.setStage ticket .ending, [(0, .leave ticket result)]) := if_pos runs
      simp only [Crew.play, accepted, if_pos runs, Agenda.Pool.after]
      rfl
    rw [ends]
    refine inTurn.step calls rfl (Mutex.keys_setStage ..) (inTurn.chained.advance calls stays)
      (fun other _ => Mutex.line_setStage standing stays other) ?stages ?jobs ?busy ?turn
    case stages =>
      intro one away
      rw [Mutex.stage?_setStage, if_neg (ne_of_mem_of_not_mem standing away).symm]
    case jobs =>
      intro one away
      have apart : (CallJob.leave ticket result).ticket ≠ one := ne_of_mem_of_not_mem standing away
      rw [jobsOf_append, jobsOf_singleton, if_neg apart, List.append_nil]
    case busy =>
      intro job member
      by_cases same : job.ticket = ticket
      · exact .inr ⟨rest, same ▸ first⟩
      · rcases List.mem_append.mp member with old | new
        · exact .inl ⟨old, same⟩
        · cases List.mem_singleton.mp new
          exact absurd rfl same
    case turn =>
      intro finished begun atWork
      refine ⟨finished, begun ++ [.completed ticket result], by rw [first],
        (List.append_assoc ..).symm, ?_⟩
      rw [first]
      cases atWork with
      | next stage jobs => cases stage.symm.trans runs
      | running stage jobs =>
          apply AtWork.ending
          · exact (Mutex.stage?_setStage ..).trans (by rw [if_pos rfl, stage]; rfl)
          · exact (jobsOf_append ..).trans (by rw [jobs, jobsOf_singleton]; exact if_pos rfl)
      | ending stage jobs => cases stage.symm.trans runs

theorem idle_of_not_first (inTurn : InTurn crew) {ticket : Ticket}
    (behind : ∀ key rest, crew.mutex.line key ≠ ticket :: rest) :
    jobsOf ticket crew.ready = [] := by
  apply List.eq_nil_iff_forall_not_mem.mpr
  intro job member
  rcases Agenda.mem_owned.mp member with ⟨present, mine⟩
  rcases inTurn.busy job present with ⟨key, rest, calls⟩
  cases Option.some.inj mine
  exact behind key rest calls

theorem alone (inTurn : InTurn crew) {key : Key} {job : CallJob Failure Value} {rest : List Ticket}
    (calls : crew.mutex.line key = job.ticket :: rest) {front back : List (CallJob Failure Value)}
    (ready : crew.ready = front ++ job :: back) : jobsOf job.ticket (front ++ back) = [] := by
  rcases inTurn.turn key with ⟨finished, begun, -, -, atWork⟩
  rw [calls] at atWork
  have single (only : CallJob Failure Value) (jobs : jobsOf job.ticket crew.ready = [only]) :
      jobsOf job.ticket (front ++ back) = [] :=
    (jobsOf_rest_of_single rfl (ready ▸ jobs)).2
  cases atWork with
  | next stage jobs => exact single _ jobs
  | running stage jobs =>
      have mine : job ∈ jobsOf job.ticket crew.ready :=
        Agenda.mem_owned.mpr ⟨by simp [ready], rfl⟩
      rw [jobs] at mine
      cases mine
  | ending stage jobs => exact single _ jobs

theorem starts (inTurn : InTurn crew) {ticket : Ticket} {front back : List (CallJob Failure Value)}
    (ready : crew.ready = front ++ .start ticket :: back) :
    InTurn (crew.goOn (crew.mutex.setStage ticket .running) (front ++ back) (.started ticket)) := by
  have present : .start ticket ∈ crew.ready := by simp [ready]
  have mine : .start ticket ∈ jobsOf ticket crew.ready := Agenda.mem_owned.mpr ⟨present, rfl⟩
  have busy : ∃ key rest, crew.mutex.line key = ticket :: rest := inTurn.busy _ present
  rcases busy with ⟨key, rest, calls⟩
  have standing : ticket ∈ crew.mutex.line key := calls ▸ List.mem_cons_self
  have stays : Stage.running ≠ .gone := by decide
  have first : (crew.mutex.setStage ticket .running).line key = ticket :: rest := by
    rw [Mutex.line_setStage standing stays, calls]
  refine inTurn.step calls rfl (Mutex.keys_setStage ..) (inTurn.chained.advance calls stays)
    (fun other _ => Mutex.line_setStage standing stays other) ?stages ?jobs ?busy ?turn
  case stages =>
    intro one away
    rw [Mutex.stage?_setStage, if_neg (ne_of_mem_of_not_mem standing away).symm]
  case jobs =>
    intro one away
    have apart : (CallJob.start ticket : CallJob Failure Value).ticket ≠ one :=
      ne_of_mem_of_not_mem standing away
    rw [ready, jobsOf_rest_of_ne apart]
  case busy =>
    intro job member
    by_cases same : job.ticket = ticket
    · exact .inr ⟨rest, same ▸ first⟩
    · refine .inl ⟨?_, same⟩
      rw [ready]
      exact ((List.sublist_cons_self _ back).append_left front).subset member
  case turn =>
    intro finished begun atWork
    refine ⟨finished, begun ++ [.started ticket], by rw [first], (List.append_assoc ..).symm, ?_⟩
    rw [first]
    cases atWork with
    | next stage jobs =>
        apply AtWork.running
        · exact (Mutex.stage?_setStage ..).trans (by rw [if_pos rfl, stage]; rfl)
        · exact inTurn.alone calls ready
    | running stage jobs =>
        rw [jobs] at mine
        cases mine
    | ending stage jobs =>
        rw [jobs] at mine
        simp at mine

theorem leaves (inTurn : InTurn crew) {ticket : Ticket} {result : Except Failure Value}
    {front back : List (CallJob Failure Value)}
    (ready : crew.ready = front ++ .leave ticket result :: back) :
    InTurn (crew.goOn (crew.mutex.letGo ticket)
      (front ++ back ++ (crew.mutex.followers ticket).map .start) (.settled ticket result)) := by
  have present : .leave ticket result ∈ crew.ready := by simp [ready]
  have mine : .leave ticket result ∈ jobsOf ticket crew.ready :=
    Agenda.mem_owned.mpr ⟨present, rfl⟩
  have busy : ∃ key rest, crew.mutex.line key = ticket :: rest := inTurn.busy _ present
  rcases busy with ⟨key, rest, calls⟩
  have standing : ticket ∈ crew.mutex.line key := calls ▸ List.mem_cons_self
  have alone : jobsOf ticket (front ++ back) = [] := inTurn.alone calls ready
  have left : (crew.mutex.letGo ticket).line key = rest := by
    rw [Mutex.line_letGo_first calls, if_pos rfl]
  rw [inTurn.chained.followers_first calls]
  refine inTurn.step calls rfl (Mutex.keys_letGo ..) (inTurn.chained.letGo calls)
    ?lines ?stages ?jobs ?busy ?turn
  case lines =>
    intro other different
    rw [Mutex.line_letGo_first calls, if_neg different]
  case stages =>
    intro one away
    rw [Mutex.stage?_letGo, if_neg (ne_of_mem_of_not_mem standing away).symm]
  case jobs =>
    intro one away
    have elsewhere : (CallJob.leave ticket result).ticket ≠ one :=
      ne_of_mem_of_not_mem standing away
    have others : rest.head? ≠ some one := fun next =>
      away (calls ▸ List.mem_cons_of_mem ticket (List.mem_of_head? next))
    rw [jobsOf_append, ready, jobsOf_rest_of_ne elsewhere, jobsOf_start, if_neg others,
      List.append_nil]
  case busy =>
    intro job member
    rcases List.mem_append.mp member with old | new
    · refine .inl ⟨?_, fun same => ?_⟩
      · rw [ready]
        exact ((List.sublist_cons_self _ back).append_left front).subset old
      · have more : job ∈ jobsOf ticket (front ++ back) :=
          Agenda.mem_owned.mpr ⟨old, congrArg some same⟩
        rw [alone] at more
        cases more
    · right
      rw [left]
      cases rest with
      | nil => cases new
      | cons next others =>
          cases List.mem_singleton.mp new
          exact ⟨others, rfl⟩
  case turn =>
    intro finished begun atWork
    cases atWork with
    | next stage jobs =>
        rw [jobs] at mine
        simp at mine
    | running stage jobs =>
        rw [jobs] at mine
        cases mine
    | ending stage jobs =>
        rw [jobs] at mine
        cases List.mem_singleton.mp mine
        refine ⟨finished ++ [(ticket, result)], [], by simp [left], by simp [whole], ?_⟩
        rw [left]
        cases rest with
        | nil => exact .idle
        | cons next others =>
            have waits : next ∈ (crew.mutex.line key).tail := by simp [calls]
            have apart := Mutex.ne_first_of_mem_tail calls waits
            apply AtWork.next
            · exact (Mutex.stage?_letGo ..).trans
                ((if_neg apart).trans (inTurn.chained.queued key next waits))
            · have elsewhere : (CallJob.leave ticket result).ticket ≠ next := apart.symm
              have nothing := inTurn.idle_of_not_first fun other others first =>
                Mutex.ne_first_of_mem_tail first waits rfl
              rw [ready, ← jobsOf_rest_of_ne elsewhere] at nothing
              refine (jobsOf_append ..).trans ?_
              rw [nothing, jobsOf_start]
              exact if_pos rfl

theorem work (inTurn : InTurn crew) (clock : Agenda.Clock) (place : Nat) :
    InTurn (crew.play (.work clock place)) := by
  cases found : crew.ready[place]? with
  | none =>
      rw [Crew.play_work_of_none clock found]
      exact inTurn
  | some job =>
      rcases Crew.play_work_of_some clock found with ⟨front, back, ready, goesOn⟩
      rw [goesOn]
      cases job with
      | start ticket =>
          have started := inTurn.starts ready
          rw [← List.append_nil (front ++ back)] at started
          exact started
      | leave ticket result =>
          have left := inTurn.leaves ready
          rw [Mutex.perform, List.map_map]
          exact left

theorem submit (inTurn : InTurn crew) (key : Key) : InTurn (crew.play (.submit key)) := by
  have size : crew.keys.length = crew.mutex.calls.length := List.length_map ..
  have fresh (other : Key) : crew.mutex.calls.length ∉ crew.mutex.line other := fun member =>
    Mutex.ne_length_of_mem_line member rfl
  have unemployed : jobsOf crew.mutex.calls.length crew.ready = [] :=
    inTurn.idle_of_not_first fun other rest calls => fresh other (calls ▸ List.mem_cons_self)
  have keys : (crew.play (.submit key)).keys = crew.keys ++ [key] := by
    exact List.map_append
  have ready : (crew.play (.submit key)).ready =
      crew.ready ++ if crew.mutex.line key = [] then [.start crew.mutex.calls.length] else [] := by
    have free := inTurn.chained.all_isResolved key
    simp only [Crew.play, Crew.ready, Agenda.Pool.after, Mutex.submit, free]
    split <;> rfl
  have line := crew.mutex.line_join key
  constructor
  case chained => exact inTurn.chained.join key
  case turn =>
    intro other
    rcases inTurn.turn other with ⟨finished, begun, tickets, seen, atWork⟩
    refine ⟨finished, begun, ?_, ?_, ?_⟩
    · rw [keys, ticketsOf_concat, tickets, size, List.append_assoc, ← line]
      rfl
    · rw [keys]
      exact (eventsOf_keys_concat _ _ _ inTurn.known).trans seen
    · have joined : (crew.play (.submit key)).mutex.line other = _ := line other
      rw [joined]
      cases calls : crew.mutex.line other with
      | cons first rest =>
          rw [calls] at atWork
          apply atWork.later
          rintro ticket ⟨⟩
          have apart : crew.mutex.calls.length ≠ first := fun same =>
            fresh other (same ▸ calls ▸ List.mem_cons_self)
          have stage := crew.mutex.stage?_join key first
          rw [if_neg apart.symm] at stage
          refine ⟨stage, ?_⟩
          have other_job : (CallJob.start crew.mutex.calls.length :
              CallJob Failure Value).ticket ≠ first := apart
          rw [ready, jobsOf_append]
          split
          · rw [jobsOf_singleton, if_neg other_job, List.append_nil]
          · exact List.append_nil _
      | nil =>
          rw [calls] at atWork
          cases atWork
          by_cases same : other = key
          · subst same
            rw [if_pos rfl]
            apply AtWork.next
            · exact (crew.mutex.stage?_join other _).trans (if_pos rfl)
            · rw [ready, calls, if_pos rfl, jobsOf_append, unemployed, jobsOf_singleton]
              exact if_pos rfl
          · rw [if_neg same]
            exact .idle
  case busy =>
    intro job member
    rw [ready, List.mem_append] at member
    rcases member with old | new
    · rcases inTurn.busy job old with ⟨other, rest, calls⟩
      have joined : (crew.play (.submit key)).mutex.line other = _ := line other
      rw [calls, List.cons_append] at joined
      exact ⟨other, _, joined⟩
    · have joined : (crew.play (.submit key)).mutex.line key = _ := line key
      split at new
      · next empty =>
          cases List.mem_singleton.mp new
          rw [empty, if_pos rfl, List.nil_append] at joined
          exact ⟨key, [], joined⟩
      · cases new
  case known =>
    intro event member
    rw [keys, List.length_append]
    exact Nat.lt_succ_of_lt (inTurn.known event member)

theorem play (inTurn : InTurn crew) (move : MutexMove Key Failure Value) :
    InTurn (crew.play move) := by
  cases move with
  | submit key => exact inTurn.submit key
  | complete ticket result => exact inTurn.complete ticket result
  | work clock place => exact inTurn.work clock place

theorem playAll (inTurn : InTurn crew) (moves : List (MutexMove Key Failure Value)) :
    InTurn (crew.playAll moves) := by
  induction moves generalizing crew with
  | nil => exact inTurn
  | cons move rest induction => exact induction (inTurn.play move)

end InTurn

end Gatehouse.Lock
