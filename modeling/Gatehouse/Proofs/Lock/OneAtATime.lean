import Gatehouse.Proofs.Lock.Chain
import Gatehouse.Proofs.Lock.Crew
import Gatehouse.Proofs.Lock.Lines
import Mathlib.Data.List.Dedup

/-!
# One call at a time for each key

What a mutex promises (`one_at_a_time`). It holds for all keys, however calls are made and their
work ends, and in whatever order the jobs that are ready are performed.

Where only the order of the calls matters a lock keeps the line of each key itself. It says the same
as the chain of calls does: who enters at once (`Mirrors.acquire`), who is next (`Mirrors.release`)
and how many keys are in use (`Mirrors.size_eq`).
-/

namespace Gatehouse.Lock

section

variable {Key : Type} [DecidableEq Key]

/-- The lines of a lock are those of the chained calls, and it keeps no empty ones. -/
structure Mirrors (lock : Lock Key Ticket) (mutex : Mutex Key) : Prop where
  sound : lock.Sound
  filled : ∀ entry ∈ lock.lines, entry.2 ≠ []
  lines : ∀ key, lock.line key = mutex.line key

variable {lock : Lock Key Ticket} {mutex : Mutex Key} {key : Key}

theorem mirrors_free : Mirrors (free : Lock Key Ticket) .free where
  sound := sound_free
  filled _ member := nomatch member
  lines _ := rfl

theorem filled_setLine (key : Key) (line : List Ticket) {lines : List (Key × List Ticket)}
    (filled : ∀ entry ∈ lines, entry.2 ≠ []) : ∀ entry ∈ setLine key line lines, entry.2 ≠ [] := by
  induction lines with
  | nil => cases line <;> simp [setLine]
  | cons head rest induction =>
      rcases head with ⟨known, waiting⟩
      simp only [List.forall_mem_cons] at filled
      rw [setLine]
      split
      · cases line with
        | nil => exact filled.2
        | cons first others => simpa using filled.2
      · exact List.forall_mem_cons.mpr ⟨filled.1, induction filled.2⟩

theorem Mirrors.mem_keys (mirrors : Mirrors lock mutex) (key : Key) :
    key ∈ lock.lines.map Prod.fst ↔ lock.line key ≠ [] := by
  rw [line]
  constructor
  · intro member
    cases found : lock.lines.lookup key with
    | none =>
        rw [List.lookup_eq_none_iff] at found
        rcases List.mem_map.mp member with ⟨entry, among, rfl⟩
        simpa using found entry among
    | some waiting =>
        rcases List.lookup_eq_some_iff.mp found with ⟨front, back, whole, -⟩
        exact mirrors.filled (key, waiting) (by simp [whole])
  · intro filled
    by_contra fresh
    rw [Association.lookup_eq_none_of_fresh fresh] at filled
    exact filled rfl

theorem Mirrors.acquire (mirrors : Mirrors lock mutex) (chained : mutex.IsChained) (key : Key) :
    Mirrors (lock.acquire key mutex.calls.length).1 (mutex.join key) ∧
      (lock.acquire key mutex.calls.length).2 =
        (mutex.tails.lookup key).all mutex.isResolved := by
  refine ⟨⟨mirrors.sound.acquire key _, filled_setLine key _ mirrors.filled, fun other => ?_⟩, ?_⟩
  · rw [line_acquire mirrors.sound, Mutex.line_join, mirrors.lines, mirrors.lines]
    split
    · next same => rw [same]
    · rw [List.append_nil]
  · apply Bool.eq_iff_iff.mpr
    rw [chained.all_isResolved, ← mirrors.lines]
    exact List.isEmpty_iff

theorem Mirrors.release (mirrors : Mirrors lock mutex) (chained : mutex.IsChained)
    {ticket : Ticket} {rest : List Ticket} (calls : mutex.line key = ticket :: rest) :
    Mirrors (lock.release key).1 (mutex.letGo ticket) ∧
      (lock.release key).2.toList = mutex.followers ticket := by
  refine ⟨⟨mirrors.sound.release key, filled_setLine key _ mirrors.filled, fun other => ?_⟩, ?_⟩
  · rw [line_release mirrors.sound, Mutex.line_letGo_first calls, mirrors.lines, mirrors.lines,
      calls]
    rfl
  · rw [release_next, mirrors.lines, calls, chained.followers_first calls]
    rfl

theorem Mirrors.advance (mirrors : Mirrors lock mutex) {ticket : Ticket}
    (standing : ticket ∈ mutex.line key) {stage : Stage} (stays : stage ≠ .gone) :
    Mirrors lock (mutex.setStage ticket stage) :=
  ⟨mirrors.sound, mirrors.filled, fun other =>
    (mirrors.lines other).trans (Mutex.line_setStage standing stays other).symm⟩

theorem Mirrors.size_eq (mirrors : Mirrors lock mutex) (chained : mutex.IsChained) :
    lock.size = mutex.size := by
  have same (key : Key) :
      key ∈ lock.lines.map Prod.fst ↔ key ∈ mutex.tails.map Prod.fst := by
    rw [chained.mem_keys, ← mirrors.lines, mirrors.mem_keys]
  have perm := (List.perm_ext_iff_of_nodup mirrors.sound chained.single).mpr same
  rw [size, Mutex.size, ← List.length_map Prod.fst, perm.length_eq, List.length_map]

end

variable {Key Failure Value : Type}

def MutexMove.key? : MutexMove Key Failure Value → Option Key
  | .submit key => some key
  | _ => none

def keysOf (moves : List (MutexMove Key Failure Value)) : List Key :=
  moves.filterMap MutexMove.key?

/-- What was seen so far of the call whose turn it is. -/
inductive Begun : Option Ticket → List (CallEvent Failure Value) → Prop
  | nothing (first : Option Ticket) : Begun first []
  | running (ticket : Ticket) : Begun (some ticket) [.started ticket]
  | ended (ticket : Ticket) (result : Except Failure Value) :
      Begun (some ticket) [.started ticket, .completed ticket result]

def CallEvent.settled? : CallEvent Failure Value → Option Ticket
  | .settled ticket _ => some ticket
  | _ => none

def settledOf (events : List (CallEvent Failure Value)) : List Ticket :=
  events.filterMap CallEvent.settled?

/-- The keys of the calls that have not ended. -/
def unsettledKeys (keys : List Key) (events : List (CallEvent Failure Value)) : List Key :=
  ((List.range keys.length).filter (· ∉ settledOf events)).filterMap (keys[·]?)

variable {crew : Crew Key Failure Value}

theorem AtWork.begun {first : Option Ticket} {begun : List (CallEvent Failure Value)}
    (atWork : AtWork crew first begun) : Begun first begun := by
  cases atWork with
  | idle => exact .nothing none
  | next => exact .nothing _
  | running => exact .running _
  | ending => exact .ended _ _

theorem AtWork.ticket_eq {ticket : Ticket} {begun : List (CallEvent Failure Value)}
    (atWork : AtWork crew (some ticket) begun) {event : CallEvent Failure Value}
    (member : event ∈ begun) : event.ticket = ticket := by
  cases atWork with
  | next => cases member
  | running =>
      cases List.mem_singleton.mp member
      rfl
  | ending =>
      rcases List.mem_cons.mp member with rfl | last
      · rfl
      · cases List.mem_singleton.mp last
        rfl

theorem ticket_of_mem_whole {call : Ticket × Except Failure Value}
    {event : CallEvent Failure Value} (member : event ∈ whole call) : event.ticket = call.1 := by
  simp only [whole, List.mem_cons, List.not_mem_nil, or_false] at member
  rcases member with rfl | rfl | rfl <;> rfl

theorem mem_settledOf {ticket : Ticket} {events : List (CallEvent Failure Value)} :
    ticket ∈ settledOf events ↔ ∃ result, .settled ticket result ∈ events := by
  rw [settledOf, List.mem_filterMap]
  constructor
  · rintro ⟨event, member, settles⟩
    cases event <;> cases settles
    exact ⟨_, member⟩
  · rintro ⟨result, member⟩
    exact ⟨_, member, rfl⟩

theorem mem_unsettledKeys {keys : List Key} {events : List (CallEvent Failure Value)} {key : Key} :
    key ∈ unsettledKeys keys events ↔
      ∃ ticket : Ticket, keys[ticket]? = some key ∧ ∀ result, .settled ticket result ∉ events := by
  simp only [unsettledKeys, List.mem_filterMap, List.mem_filter, List.mem_range,
    decide_eq_true_eq, mem_settledOf, not_exists]
  constructor
  · rintro ⟨ticket, ⟨-, unsettled⟩, made⟩
    exact ⟨ticket, made, unsettled⟩
  · rintro ⟨ticket, made, unsettled⟩
    exact ⟨ticket, ⟨(List.getElem?_eq_some_iff.mp made).1, unsettled⟩, made⟩

variable [DecidableEq Key]

theorem keys_play (crew : Crew Key Failure Value) (move : MutexMove Key Failure Value) :
    (crew.play move).keys = crew.keys ++ move.key?.toList := by
  cases move with
  | submit key => exact List.map_append
  | complete ticket result =>
      have same : (crew.mutex.complete 0 ticket result).1.calls.map Call.key = crew.keys := by
        rw [Mutex.complete]
        split
        · exact Mutex.keys_setStage ..
        · rfl
      exact same.trans (List.append_nil _).symm
  | work clock place =>
      refine Eq.trans ?_ (List.append_nil _).symm
      cases found : crew.ready[place]? with
      | none => rw [Crew.play_work_of_none clock found]
      | some job =>
          rcases Crew.play_work_of_some clock found with ⟨front, back, -, goesOn⟩
          rw [goesOn]
          cases job with
          | start ticket => exact Mutex.keys_setStage ..
          | leave ticket result => exact Mutex.keys_letGo ..

theorem keys_playAll (crew : Crew Key Failure Value) (moves : List (MutexMove Key Failure Value)) :
    (crew.playAll moves).keys = crew.keys ++ keysOf moves := by
  induction moves generalizing crew with
  | nil => exact (List.append_nil _).symm
  | cons move rest induction =>
      have joined : keysOf (move :: rest) = move.key?.toList ++ keysOf rest := by
        rw [keysOf, List.filterMap_cons]
        cases move.key? <;> rfl
      rw [joined, ← List.append_assoc, ← keys_play]
      exact induction (crew.play move)

theorem mem_eventsOf {keys : List Key} {key : Key} {events : List (CallEvent Failure Value)}
    {event : CallEvent Failure Value} :
    event ∈ eventsOf keys key events ↔ event ∈ events ∧ keys[event.ticket]? = some key := by
  simp [eventsOf]

theorem mem_ticketsOf {keys : List Key} {key : Key} {ticket : Ticket} :
    ticket ∈ ticketsOf keys key ↔ keys[ticket]? = some key := by
  simp only [ticketsOf, List.mem_filter, List.mem_range, decide_eq_true_eq, and_iff_right_iff_imp]
  exact fun made => (List.getElem?_eq_some_iff.mp made).1

namespace InTurn

theorem whole_or_standing (inTurn : InTurn crew) {ticket : Ticket} {key : Key}
    (made : crew.keys[ticket]? = some key) :
    (∃ result, ∀ event ∈ whole (ticket, result), event ∈ crew.events) ∨
      ticket ∈ crew.mutex.line key := by
  rcases inTurn.turn key with ⟨finished, begun, tickets, seen, -⟩
  have member : ticket ∈ finished.map Prod.fst ++ crew.mutex.line key := by
    rw [← tickets]
    exact mem_ticketsOf.mpr made
  rcases List.mem_append.mp member with ended | stands
  · rcases List.mem_map.mp ended with ⟨⟨_, result⟩, among, rfl⟩
    refine .inl ⟨result, fun event part => ?_⟩
    have shown : event ∈ eventsOf crew.keys key crew.events := by
      rw [seen]
      exact List.mem_append_left _ (List.mem_flatMap.mpr ⟨_, among, part⟩)
    exact (mem_eventsOf.mp shown).1
  · exact .inr stands

theorem begun_of_standing (inTurn : InTurn crew) {ticket : Ticket} {key : Key}
    (stands : ticket ∈ crew.mutex.line key) {event : CallEvent Failure Value}
    (member : event ∈ crew.events) (mine : event.ticket = ticket) :
    ∃ begun, AtWork crew (some ticket) begun ∧ event ∈ begun ∧
      ∀ part ∈ begun, part ∈ crew.events := by
  rcases inTurn.turn key with ⟨finished, begun, tickets, seen, atWork⟩
  have made : crew.keys[event.ticket]? = some key := by
    rw [mine, keys_eq]
    exact (Mutex.mem_line.mp stands).1
  have shown : event ∈ finished.flatMap whole ++ begun := by
    rw [← seen]
    exact mem_eventsOf.mpr ⟨member, made⟩
  have distinct : (finished.map Prod.fst ++ crew.mutex.line key).Nodup := by
    rw [← tickets]
    exact List.nodup_range.filter _
  rcases List.mem_append.mp shown with ended | now
  · -- A call that has run its whole course does not stand in line any more.
    rcases List.mem_flatMap.mp ended with ⟨call, among, part⟩
    have same : call.1 = ticket := (ticket_of_mem_whole part).symm.trans mine
    exact absurd stands (List.disjoint_of_nodup_append distinct
      (same ▸ List.mem_map_of_mem among))
  · cases first : (crew.mutex.line key).head? with
    | none =>
        rw [first] at atWork
        cases atWork
        cases now
    | some front =>
        rw [first] at atWork
        cases (atWork.ticket_eq now).symm.trans mine
        refine ⟨begun, atWork, now, fun part member => ?_⟩
        have shown : part ∈ eventsOf crew.keys key crew.events := by
          rw [seen]
          exact List.mem_append_right _ member
        exact (mem_eventsOf.mp shown).1

theorem standing_iff (inTurn : InTurn crew) {ticket : Ticket} {key : Key}
    (made : crew.keys[ticket]? = some key) :
    ticket ∈ crew.mutex.line key ↔ ∀ result, .settled ticket result ∉ crew.events := by
  constructor
  · intro stands result member
    rcases inTurn.begun_of_standing stands member rfl with ⟨begun, atWork, now, -⟩
    cases atWork <;> simp at now
  · intro unsettled
    rcases inTurn.whole_or_standing made with ⟨result, ended⟩ | stands
    · exact absurd (ended (.settled ticket result) (by simp [whole])) (unsettled result)
    · exact stands

theorem at_work (inTurn : InTurn crew) {key : Key} {ticket : Ticket} {rest : List Ticket}
    (calls : crew.mutex.line key = ticket :: rest) :
    ∃ begun, AtWork crew (some ticket) begun ∧ ∀ event ∈ begun, event ∈ crew.events := by
  rcases inTurn.turn key with ⟨finished, begun, -, seen, atWork⟩
  rw [calls] at atWork
  refine ⟨begun, atWork, fun event member => ?_⟩
  have shown : event ∈ eventsOf crew.keys key crew.events := by
    rw [seen]
    exact List.mem_append_right _ member
  exact (mem_eventsOf.mp shown).1

theorem next_of_job {job : CallJob Failure Value} {ticket : Ticket}
    (jobs : jobsOf ticket crew.ready = [job]) :
    ∃ place, ∀ clock, (crew.play (.work clock place)).events = crew.events ++ [job.event] := by
  have present : job ∈ crew.ready := (Agenda.mem_owned.mp (jobs ▸ List.mem_singleton_self job)).1
  rcases List.mem_iff_getElem?.mp present with ⟨place, found⟩
  refine ⟨place, fun clock => ?_⟩
  rcases Crew.play_work_of_some clock found with ⟨front, back, -, goesOn⟩
  rw [goesOn]
  rfl

theorem starts_next (inTurn : InTurn crew) {ticket : Ticket} {key : Key}
    (made : crew.keys[ticket]? = some key) (idle : .started ticket ∉ crew.events)
    (earlier : ∀ before ∈ ticketsOf crew.keys key, before < ticket →
      ∃ result, .settled before result ∈ crew.events) :
    ∃ place, ∀ clock,
      (crew.play (.work clock place)).events = crew.events ++ [.started ticket] := by
  have stands : ticket ∈ crew.mutex.line key := by
    rcases inTurn.whole_or_standing made with ⟨result, ended⟩ | stands
    · exact absurd (ended (.started ticket) (by simp [whole])) idle
    · exact stands
  cases calls : crew.mutex.line key with
  | nil => simp [calls] at stands
  | cons first rest =>
      have isFirst : ticket = first := by
        have ordered := calls ▸ crew.mutex.pairwise_line key
        rw [calls, List.mem_cons] at stands
        rcases stands with same | behind
        · exact same
        · have before := (List.pairwise_cons.mp ordered).1 ticket behind
          have front : first ∈ crew.mutex.line key := calls ▸ List.mem_cons_self
          have known := (keys_eq crew first).trans (Mutex.mem_line.mp front).1
          rcases earlier first (mem_ticketsOf.mpr known) before with ⟨result, ended⟩
          exact absurd ended ((inTurn.standing_iff known).mp front result)
      subst isFirst
      rcases inTurn.at_work calls with ⟨begun, atWork, shown⟩
      cases atWork with
      | next stage jobs => exact next_of_job jobs
      | running => exact absurd (shown _ List.mem_cons_self) idle
      | ending => exact absurd (shown _ List.mem_cons_self) idle

/-- Where something was seen of a call, it has run its whole course or is at work. -/
theorem whole_or_at_work (inTurn : InTurn crew) (ticket : Ticket)
    {event : CallEvent Failure Value} (member : event ∈ crew.events)
    (mine : event.ticket = ticket) :
    (∃ result, ∀ part ∈ whole (ticket, result), part ∈ crew.events) ∨
      ∃ begun, AtWork crew (some ticket) begun ∧ event ∈ begun ∧
        ∀ part ∈ begun, part ∈ crew.events := by
  subst mine
  have made := List.getElem?_eq_getElem (inTurn.known event member)
  rcases inTurn.whole_or_standing made with ended | stands
  · exact .inl ended
  · exact .inr (inTurn.begun_of_standing stands member rfl)

theorem completes_next (inTurn : InTurn crew) {ticket : Ticket}
    (started : .started ticket ∈ crew.events)
    (running : ∀ result, .completed ticket result ∉ crew.events)
    (result : Except Failure Value) :
    (crew.play (.complete ticket result)).events =
      crew.events ++ [.completed ticket result] := by
  have runs : crew.mutex.stage? ticket = some .running := by
    rcases inTurn.whole_or_at_work ticket started rfl with
      ⟨other, ended⟩ | ⟨begun, atWork, now, shown⟩
    · exact absurd (ended (.completed ticket other) (by simp [whole])) (running other)
    · cases atWork with
      | next => cases now
      | running stage => exact stage
      | ending => exact absurd (shown _ (List.mem_cons_of_mem _ List.mem_cons_self)) (running _)
  simp only [Crew.play, if_pos runs]

theorem settles_next (inTurn : InTurn crew) {ticket : Ticket} {result : Except Failure Value}
    (completed : .completed ticket result ∈ crew.events)
    (unsettled : ∀ other, .settled ticket other ∉ crew.events) :
    ∃ place, ∀ clock,
      (crew.play (.work clock place)).events = crew.events ++ [.settled ticket result] := by
  rcases inTurn.whole_or_at_work ticket completed rfl with ⟨other, ended⟩ | ⟨begun, atWork, now, -⟩
  · exact absurd (ended (.settled ticket other) (by simp [whole])) (unsettled other)
  · cases atWork with
    | next => cases now
    | running => simp at now
    | ending stage jobs =>
        simp only [List.mem_cons, reduceCtorEq, CallEvent.completed.injEq, true_and,
          List.not_mem_nil, or_false, false_or] at now
        subst now
        exact next_of_job jobs

theorem size_eq (inTurn : InTurn crew) :
    crew.mutex.size = (unsettledKeys crew.keys crew.events).dedup.length := by
  have same (key : Key) :
      key ∈ crew.mutex.tails.map Prod.fst ↔ key ∈ (unsettledKeys crew.keys crew.events).dedup := by
    rw [inTurn.chained.mem_keys, List.mem_dedup, mem_unsettledKeys]
    constructor
    · intro used
      rcases List.exists_mem_of_ne_nil _ used with ⟨ticket, stands⟩
      have made := (keys_eq crew ticket).trans (Mutex.mem_line.mp stands).1
      exact ⟨ticket, made, (inTurn.standing_iff made).mp stands⟩
    · rintro ⟨ticket, made, unsettled⟩
      exact List.ne_nil_of_mem ((inTurn.standing_iff made).mpr unsettled)
  have perm := (List.perm_ext_iff_of_nodup inTurn.chained.single (List.nodup_dedup _)).mpr same
  rw [Mutex.size, ← perm.length_eq, List.length_map]

end InTurn

/-- However calls are made for keys, their work ends and their jobs are performed: for each key,
what is seen are whole calls one after another, in the order in which they were made, and of the
next one what it has begun. A call before which all others of its key have ended can start at
once, work that runs can end in any way, and a call ends at once as its own work did. As many keys
are in use as have a call that has not ended. -/
theorem one_at_a_time (moves : List (MutexMove Key Failure Value)) :
    let crew := Crew.start.playAll moves
    let keys := keysOf moves
    (∀ event ∈ crew.events, ∃ key, keys[event.ticket]? = some key) ∧
      (∀ key, ∃ (finished : List (Ticket × Except Failure Value)) (rest : List Ticket)
          (begun : List (CallEvent Failure Value)),
        ticketsOf keys key = finished.map Prod.fst ++ rest ∧
          eventsOf keys key crew.events = finished.flatMap whole ++ begun ∧
          Begun rest.head? begun) ∧
      (∀ (ticket : Ticket) key, keys[ticket]? = some key → .started ticket ∉ crew.events →
        (∀ before ∈ ticketsOf keys key, before < ticket →
          ∃ result, .settled before result ∈ crew.events) →
        ∃ place, ∀ clock,
          (crew.play (.work clock place)).events = crew.events ++ [.started ticket]) ∧
      (∀ ticket, .started ticket ∈ crew.events →
        (∀ result, .completed ticket result ∉ crew.events) → ∀ result,
          (crew.play (.complete ticket result)).events =
            crew.events ++ [.completed ticket result]) ∧
      (∀ ticket result, .completed ticket result ∈ crew.events →
        (∀ other, .settled ticket other ∉ crew.events) →
        ∃ place, ∀ clock,
          (crew.play (.work clock place)).events = crew.events ++ [.settled ticket result]) ∧
      crew.mutex.size = (unsettledKeys keys crew.events).dedup.length := by
  intro crew keys
  have inTurn : InTurn crew := inTurn_start.playAll moves
  have same : crew.keys = keys := keys_playAll Crew.start moves
  refine ⟨?made, ?order, ?starts, ?completes, ?settles, ?size⟩
  case made =>
    intro event member
    rw [← same]
    exact ⟨_, List.getElem?_eq_getElem (inTurn.known event member)⟩
  case order =>
    intro key
    rcases inTurn.turn key with ⟨finished, begun, tickets, seen, atWork⟩
    exact ⟨finished, _, begun, same ▸ tickets, same ▸ seen, atWork.begun⟩
  case starts =>
    rw [← same]
    exact fun ticket key made => inTurn.starts_next made
  case completes => exact fun ticket started running => inTurn.completes_next started running
  case settles => exact fun ticket result completed => inTurn.settles_next completed
  case size =>
    rw [← same]
    exact inTurn.size_eq

/-- After a call that failed the next one starts. -/
example :
    ((Crew.start : Crew Nat String Nat).playAll
        [.submit 7, .submit 7, .work ⟨0, 0⟩ 0, .complete 0 (.error "failed"), .work ⟨0, 0⟩ 0,
          .work ⟨0, 0⟩ 0]).events =
      [.started 0, .completed 0 (.error "failed"), .settled 0 (.error "failed"), .started 1] := by
  decide +kernel

end Gatehouse.Lock
