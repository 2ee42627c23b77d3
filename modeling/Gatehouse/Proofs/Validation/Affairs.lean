import Gatehouse.Proofs.Validation.Accounts

/-!
# How it is with every call

`Board.Sound` says how it is with all calls at once: each was not brought yet, has not ended and
stands somewhere in the line of its lock, or has ended with an outcome that its entries and failures
tell. Every step keeps it (`Board.Sound.step`), and a desk whose board is sound can do nothing but
such steps: `Proceedings.Orderly.step_of_do`.
-/

namespace Gatehouse.Validation

open Gatehouse.Access Gatehouse.Register

def entriesOf (id : CallId) (dealings : List Dealing) : List LogEntry :=
  (dealings.filter fun dealing => dealing.call == id).filterMap Dealing.entry?

def faultsOf (id : CallId) (dealings : List Dealing) : List Fault :=
  (dealings.filter fun dealing => dealing.call == id).filterMap Dealing.fault?

theorem entriesOf_concat (id : CallId) (dealings : List Dealing) (dealing : Dealing) :
    entriesOf id (dealings ++ [dealing]) =
      entriesOf id dealings ++ if dealing.call = id then dealing.entry?.toList else [] := by
  by_cases mine : dealing.call = id <;> cases entry : dealing.entry? <;>
    simp [entriesOf, List.filter_append, mine, entry]

theorem faultsOf_concat (id : CallId) (dealings : List Dealing) (dealing : Dealing) :
    faultsOf id (dealings ++ [dealing]) =
      faultsOf id dealings ++ if dealing.call = id then dealing.fault?.toList else [] := by
  by_cases mine : dealing.call = id <;> cases fault : dealing.fault? <;>
    simp [faultsOf, List.filter_append, mine, fault]

structure Docket where
  request : Option Request
  call : Option Call
  jobs : List Job
  entries : List LogEntry
  faults : List Fault
  results : List Result

def Board.docket (board : Board) (id : CallId) : Docket :=
  { request := board.requests.lookup id
    call := board.call? id
    jobs := board.jobs id
    entries := entriesOf id board.dealings
    faults := faultsOf id board.dealings
    results := (board.outcomes.filter fun (other, _) => other == id).map Prod.snd }

structure Underway (line : Reference → List CallId) (id : CallId) (call : Call) (docket : Docket) :
    Prop where
  request : docket.request = some call.request
  known : docket.call = some call
  uninquired : call.inquiry = none
  walking : Walking id call (line call.locked) docket.jobs
  accounts : Accounts id call.walk docket.jobs docket.entries docket.faults
  results : docket.results = []

structure Ended (outcome : Except Fault Decision) (docket : Docket) : Prop where
  request : docket.request.isSome
  gone : docket.call = none
  idle : docket.jobs = []
  results : docket.results = [(outcome, none)]
  settles : Settles outcome docket.entries docket.faults

inductive Affair (line : Reference → List CallId) (id : CallId) (docket : Docket) : Prop
  | unknown : docket = ⟨none, none, [], [], [], []⟩ → Affair line id docket
  | live {call : Call} : Underway line id call docket → Affair line id docket
  | ended {outcome : Except Fault Decision} : Ended outcome docket → Affair line id docket

namespace Board

structure Sound (board : Board) : Prop where
  single : ∀ key, (board.line key).Nodup
  waiting : ∀ key id, id ∈ board.line key →
    ∃ call, board.call? id = some call ∧ call.locked = key
  affair : ∀ id, Affair board.line id (board.docket id)

variable {board after : Board} {id : CallId} {call : Call}

theorem Sound.underway (sound : board.Sound) (known : board.call? id = some call) :
    Underway board.line id call (board.docket id) := by
  have known : (board.docket id).call = some call := known
  cases sound.affair id with
  | unknown nothing =>
      rw [nothing] at known
      cases known
  | @live other live =>
      cases live.known.symm.trans known
      exact live
  | ended ended => cases ended.gone.symm.trans known

theorem Sound.locked_eq (sound : board.Sound) (known : board.call? id = some call)
    {key : Reference} (member : id ∈ board.line key) : call.locked = key := by
  rcases sound.waiting key id member with ⟨other, same, locked⟩
  cases known.symm.trans same
  exact locked

theorem Sound.not_mem_line (sound : board.Sound) (known : board.call? id = some call)
    (away : id ∉ board.line call.locked) (key : Reference) : id ∉ board.line key :=
  fun member => away (sound.locked_eq known member ▸ member)

theorem Sound.act (sound : board.Sound) (id : CallId) (line : after.line = board.line)
    (others : ∀ other, other ≠ id → after.docket other = board.docket other)
    (waits : ∀ key, id ∈ board.line key → ∃ call, after.call? id = some call ∧ call.locked = key)
    (mine : Affair board.line id (after.docket id)) : after.Sound where
  single := line ▸ sound.single
  waiting key other member := by
    rw [line] at member
    by_cases same : other = id
    · exact same ▸ waits key (same ▸ member)
    · rcases sound.waiting key other member with ⟨call, known, locked⟩
      exact ⟨call, (congrArg Docket.call (others other same)).trans known, locked⟩
  affair other := by
    rw [line]
    by_cases same : other = id
    · exact same ▸ mine
    · exact others other same ▸ sound.affair other

theorem docket_walk_of_ne (outages : List (String × String)) (next : Offline.Next)
    {other : CallId} (different : other ≠ id) :
    (board.walk outages id call next).docket other = board.docket other := by
  cases next <;>
    simp only [walk, proceed, docket, entriesOf_concat, faultsOf_concat, if_neg different.symm,
      List.append_nil, Function.update_of_ne different]

theorem docket_enroll_of_ne (request : Request) {other : CallId} (different : other ≠ id) :
    (board.enroll id request).docket other = board.docket other := by
  simp only [enroll, docket, Association.lookup_concat, if_neg different, Option.or_none]

theorem docket_close_of_ne (outcome : Except Fault Decision) {other : CallId}
    (different : other ≠ id) : (board.close id outcome).docket other = board.docket other := by
  have none_of_these : (board.outcomes ++ [(id, outcome, none)]).filter
      (fun (known, _) => known == other) =
        board.outcomes.filter fun (known, _) => known == other := by
    simp [List.filter_append, different.symm]
  simp only [close, docket, none_of_these, Function.update_of_ne different]

/-- A call asks the register something. It may have been brought just before. -/
theorem Sound.asks {brought : Board} (sound : board.Sound) (line : brought.line = board.line)
    (others : ∀ other, other ≠ id → brought.docket other = board.docket other)
    (request : (brought.docket id).request = some call.request)
    (results : (brought.docket id).results = []) (uninquired : call.inquiry = none)
    (locked : ∀ key, id ∈ board.line key → call.locked = key)
    (outages : List (String × String)) {query : Query} {stage : Offline.Stage}
    (accords : (Offline.Next.ask query stage).Accords (brought.docket id).entries
      (brought.docket id).faults)
    (proceeds : Proceeds id call (board.line call.locked) (.ask query stage)) :
    (brought.walk outages id call (.ask query stage)).Sound := by
  let asking : Call := { call with walk := some stage }
  generalize answer : (brought.memory.answerUnless outages query).2 = reply
  have docket : (brought.walk outages id call (.ask query stage)).docket id =
      { brought.docket id with
        call := some asking, jobs := [.replied id reply]
        entries := (brought.docket id).entries ++ (Dealing.entry? ⟨id, query, reply⟩).toList
        faults := (brought.docket id).faults ++ (Dealing.fault? ⟨id, query, reply⟩).toList } := by
    simp only [walk, proceed, Board.docket, entriesOf_concat, faultsOf_concat, if_true,
      Function.update_self, answer, asking]
  refine sound.act id line (fun other different => ?_) (fun key member => ?_)
    (.live (show Underway board.line id asking _ from ?_))
  · exact (docket_walk_of_ne outages _ different).trans (others other different)
  · exact ⟨asking, congrArg Docket.call docket, locked key member⟩
  · rw [docket]
    cases proceeds with
    | ask walking =>
        generalize (brought.docket id).entries = entries at *
        generalize (brought.docket id).faults = faults at *
        cases accords with
        | ask asks =>
            exact ⟨request, rfl, uninquired, answer ▸ walking brought.memory outages,
              asks.accounts answer, results⟩

theorem Sound.goesOn (sound : board.Sound) (known : board.call? id = some call) (next : Call)
    (jobs : List Job) (request : next.request = call.request) (locked : next.locked = call.locked)
    (uninquired : next.inquiry = none) (walking : Walking id next (board.line next.locked) jobs)
    (accounts : Accounts id next.walk jobs (board.docket id).entries (board.docket id).faults) :
    (board.proceed id next jobs).Sound := by
  have live := sound.underway known
  have docket : (board.proceed id next jobs).docket id =
      { board.docket id with call := some next, jobs := jobs } := by
    simp only [proceed, Board.docket, Function.update_self]
  refine sound.act id rfl (fun other different => ?_) (fun key member => ?_)
    (.live (show Underway board.line id next _ from ?_))
  · simp only [proceed, Board.docket, Function.update_of_ne different]
  · exact ⟨next, congrArg Docket.call docket, locked.trans (sound.locked_eq known member)⟩
  · rw [docket]
    exact ⟨request ▸ live.request, rfl, uninquired, walking, accounts, live.results⟩

theorem Sound.joins (sound : board.Sound) (known : board.call? id = some call)
    (away : id ∉ board.line call.locked) (subject : Offline.Subject)
    (accounts : ∀ free : Bool, Accounts id (some (.queued subject))
      (if free then [.enter id] else []) (board.docket id).entries (board.docket id).faults)
    (outages : List (String × String)) :
    (board.walk outages id call (.acquire subject.user (.queued subject))).Sound := by
  let queued : Call := { call with walk := some (.queued subject), locked := subject.user }
  let jobs : List Job := if (board.line subject.user).isEmpty then [.enter id] else []
  have live := sound.underway known
  have nowhere := sound.not_mem_line known away
  generalize after_is : board.walk outages id call (.acquire subject.user (.queued subject)) = after
  have line (key : Reference) : after.line key =
      if key = subject.user then board.line subject.user ++ [id] else board.line key := by
    rw [← after_is]
    exact Function.update_apply ..
  have mine : after.docket id =
      { board.docket id with call := some queued, jobs := jobs } := by
    rw [← after_is]
    simp only [walk, proceed, Board.docket, Function.update_self, queued, jobs]
  have others (other : CallId) (different : other ≠ id) :
      after.docket other = board.docket other := by
    rw [← after_is]
    exact docket_walk_of_ne outages _ different
  constructor
  case single =>
    intro key
    rw [line]
    split
    · exact (sound.single _).append (List.nodup_singleton id)
        (List.disjoint_singleton.mpr (nowhere _))
    · exact sound.single key
  case waiting =>
    intro key other member
    rw [line] at member
    by_cases same : other = id
    · rw [same]
      split at member
      · next equal => exact ⟨queued, congrArg Docket.call mine, equal.symm⟩
      · exact absurd (same ▸ member) (nowhere key)
    · have known : after.call? other = board.call? other :=
        congrArg Docket.call (others other same)
      rw [known]
      split at member
      · next equal =>
          rcases List.mem_append.mp member with old | new
          · exact equal ▸ sound.waiting _ other old
          · exact absurd (List.mem_singleton.mp new) same
      · exact sound.waiting key other member
  case affair =>
    intro other
    by_cases same : other = id
    · rw [same, mine]
      refine .live (show Underway after.line id queued _ from
        ⟨live.request, rfl, live.uninquired, ?_, ?_, live.results⟩)
      · show Walking id queued (after.line subject.user) jobs
        rw [line, if_pos rfl]
        exact .joining rfl rfl _
      · exact accounts _
    · rw [others other same]
      cases sound.affair other with
      | unknown nothing => exact .unknown nothing
      | ended ended => exact .ended ended
      | @live known live =>
          refine .live ⟨live.request, live.known, live.uninquired, ?_, live.accounts, live.results⟩
          rw [line]
          split
          · next equal => exact (equal ▸ live.walking).joined same
          · exact live.walking

theorem Sound.call_of_next (sound : board.Sound) {key : Reference} {behind : List CallId}
    (line : board.line key = id :: behind) {other : CallId} (next : behind.head? = some other) :
    ∃ call, board.call? other = some call ∧ call.locked = key :=
  sound.waiting key other (line ▸ List.mem_cons_of_mem id (List.mem_of_head? next))

theorem Sound.underway_left (sound : board.Sound) {key : Reference} {behind : List CallId}
    (line : board.line key = id :: behind) {other : CallId} (different : other ≠ id)
    (live : Underway board.line other call (board.docket other)) :
    Underway (Function.update board.line key behind) other call
      { board.docket other with
        jobs := board.jobs other ++ if behind.head? = some other then [.enter other] else [] } := by
  have walking : Walking other call (board.line call.locked) (board.jobs other) := live.walking
  have accounts : Accounts other call.walk (board.jobs other) (board.docket other).entries
      (board.docket other).faults := live.accounts
  refine ⟨live.request, live.known, live.uninquired, ?_, ?_, live.results⟩
  · by_cases mine : call.locked = key
    · rw [mine, line] at walking
      rw [mine, Function.update_self]
      exact walking.left fun holder => different holder.symm
    · have not_next : behind.head? ≠ some other := fun next => by
        rcases sound.call_of_next line next with ⟨found, known, locked⟩
        cases live.known.symm.trans known
        exact mine locked
      rw [Function.update_of_ne mine, if_neg not_next, List.append_nil]
      exact walking
  · show Accounts other call.walk _ (board.docket other).entries (board.docket other).faults
    generalize (board.docket other).entries = entries at accounts ⊢
    generalize (board.docket other).faults = faults at accounts ⊢
    split
    · next first =>
        rcases sound.call_of_next line first with ⟨found, known, locked⟩
        cases live.known.symm.trans known
        rw [locked, line] at walking
        have idle := walking.idle_of_waits different.symm (List.mem_of_head? first)
        rw [idle] at accounts ⊢
        cases accounts with
        | queued => exact .entering
    · rw [List.append_nil]
      exact accounts

theorem Sound.leaves (sound : board.Sound) (known : board.call? id = some call)
    {behind : List CallId} (line : board.line call.locked = id :: behind)
    {outcome : Except Fault Decision} (single : board.jobs id = [.leave id outcome]) :
    (board.leave id call outcome).Sound := by
  have live := sound.underway known
  have distinct := sound.single call.locked
  rw [line] at distinct
  have last : id ∉ behind := (List.nodup_cons.mp distinct).1
  have settles : Settles outcome (board.docket id).entries (board.docket id).faults := by
    have accounts := live.accounts
    rw [show (board.docket id).jobs = [.leave id outcome] from single] at accounts
    cases accounts with
    | leaving settles => exact settles
  have lines : (board.leave id call outcome).line =
      Function.update board.line call.locked behind := by
    rw [leave, line, List.tail_cons]
  have docket (other : CallId) : (board.leave id call outcome).docket other =
      { board.docket other with
        jobs := if other = id then [.outcome id outcome]
          else board.jobs other ++ if behind.head? = some other then [.enter other] else [] } := by
    simp only [leave, Board.docket, line, List.tail_cons]
  constructor
  case single =>
    intro key
    rw [lines, Function.update_apply]
    split
    · exact (List.nodup_cons.mp distinct).2
    · exact sound.single key
  case waiting =>
    intro key other member
    refine sound.waiting key other ?_
    rw [lines, Function.update_apply] at member
    split at member
    · next same =>
        rw [same, line]
        exact List.mem_cons_of_mem id member
    · exact member
  case affair =>
    intro other
    rw [lines]
    by_cases same : other = id
    · rw [same, docket, if_pos rfl]
      refine .live ⟨live.request, live.known, live.uninquired, ?_, .done settles, live.results⟩
      rw [Function.update_self]
      exact .done last fun _ => trivial
    · have elsewhere (gone : board.call? other = none) : behind.head? ≠ some other := fun next => by
        rcases sound.call_of_next line next with ⟨found, known, -⟩
        cases gone.symm.trans known
      rw [docket, if_neg same]
      cases sound.affair other with
      | unknown nothing =>
          rw [if_neg (elsewhere (congrArg Docket.call nothing)), List.append_nil]
          exact .unknown nothing
      | ended ended =>
          rw [if_neg (elsewhere ended.gone), List.append_nil]
          exact .ended ended
      | live others => exact .live (sound.underway_left line same others)

theorem Sound.ends (sound : board.Sound) (known : board.call? id = some call)
    {outcome : Except Fault Decision} (single : board.jobs id = [.outcome id outcome]) :
    (board.close id outcome).Sound := by
  have live := sound.underway known
  have jobs : (board.docket id).jobs = [.outcome id outcome] := single
  have settles : Settles outcome (board.docket id).entries (board.docket id).faults := by
    have accounts := live.accounts
    rw [jobs] at accounts
    cases accounts with
    | done settles => exact settles
  have away : id ∉ board.line call.locked := by
    have walking := live.walking
    rw [jobs] at walking
    cases walking with
    | done away _ => exact away
  have docket : (board.close id outcome).docket id =
      { board.docket id with
        call := none, jobs := [], results := (board.docket id).results ++ [(outcome, none)] } := by
    simp [close, Board.docket, List.filter_append]
  refine sound.act id rfl (fun other different => docket_close_of_ne outcome different)
    (fun key member => absurd member (sound.not_mem_line known away key))
    (.ended (show Ended outcome _ from ?_))
  rw [docket]
  exact ⟨Option.isSome_of_eq_some live.request, rfl, rfl, by rw [live.results]; rfl, settles⟩

theorem Sound.unknown (sound : board.Sound) (fresh : id ∉ board.requests.map Prod.fst) :
    board.docket id = ⟨none, none, [], [], [], []⟩ := by
  have nothing : (board.docket id).request = none := Association.lookup_eq_none_of_fresh fresh
  cases sound.affair id with
  | unknown nothing => exact nothing
  | live live => cases nothing.symm.trans live.request
  | ended ended =>
      have known := ended.request
      rw [nothing] at known
      cases known

theorem Sound.begins (sound : board.Sound) (fresh : id ∉ board.requests.map Prod.fst)
    (outages : List (String × String)) (request : Request) (now : Time.Instant) :
    ((board.enroll id request).walk outages id (.fresh request now)
      (Offline.start request)).Sound := by
  have unknown := sound.unknown fresh
  have away (key : Reference) : id ∉ board.line key := fun member => by
    rcases sound.waiting key id member with ⟨call, known, -⟩
    cases (congrArg Docket.call unknown).symm.trans known
  have docket : (board.enroll id request).docket id = ⟨some request, none, [], [], [], []⟩ := by
    have before : board.requests.lookup id = none := Association.lookup_eq_none_of_fresh fresh
    show ({ board.docket id with request := _ } : Docket) = _
    rw [unknown, enroll, Association.lookup_concat, before, if_pos rfl]
    rfl
  have accords := Offline.accords_start request
  have proceeds : Proceeds id (.fresh request now) (board.line .null) (Offline.start request) :=
    proceeds_start (away _) request
  rcases Offline.start_eq_ask request with ⟨query, stage, first, -⟩
  rw [first] at accords proceeds ⊢
  have line : (board.enroll id request).line = board.line := rfl
  exact sound.asks line (fun other different => docket_enroll_of_ne request different)
    (congrArg Docket.request docket) (congrArg Docket.results docket) rfl
    (fun key member => absurd member (away key)) outages (by rw [docket]; exact accords)
    proceeds

theorem Sound.walks (sound : board.Sound) (known : board.call? id = some call) {job : Job}
    (single : board.jobs id = [job]) {settings : Offline.Settings} {now : Time.Instant}
    {next : Offline.Next} (goesOn : call.GoesOn settings now id job next)
    (outages : List (String × String)) : (board.walk outages id call next).Sound := by
  have live := sound.underway known
  have jobs : (board.docket id).jobs = [job] := single
  have walking := live.walking
  have accounts := live.accounts
  rw [jobs] at walking accounts
  have proceeds := goesOn.proceeds walking
  have accords := goesOn.accords accounts
  have unchanged (job : Job) : board.proceed id call [job] =
      { board with jobs := Function.update board.jobs id [job] } := by
    have same : Function.update board.call? id (some call) = board.call? := by
      rw [← known]
      exact Function.update_eq_self ..
    simp only [proceed, same]
  have continues (next : Call) (jobs : List Job) (request : next.request = call.request)
      (locked : next.locked = call.locked) (uninquired : next.inquiry = call.inquiry)
      (walking : Walking id next (board.line next.locked) jobs)
      (accounts : Accounts id next.walk jobs (board.docket id).entries (board.docket id).faults) :
      (board.proceed id next jobs).Sound :=
    sound.goesOn known next jobs request locked (uninquired.trans live.uninquired) walking accounts
  cases proceeds with
  | ask walking =>
      exact sound.asks rfl (fun _ _ => rfl) live.request live.results live.uninquired
        (fun key => sound.locked_eq known) outages accords (.ask walking)
  | @rest stage walking =>
      refine continues { call with walk := some stage } [.check id] rfl rfl rfl walking ?_
      rw [(accords.blank rfl).1, (accords.blank rfl).2]
      exact .checking
  | @acquire subject away =>
      refine sound.joins known away subject (fun free => ?_) outages
      rw [(accords.blank rfl).1, (accords.blank rfl).2]
      cases free with
      | false => exact .queued
      | true => exact .entering
  | @finish outcome rounds walking =>
      have ends := continues call _ rfl rfl rfl walking (.done (accords.settles rfl))
      rw [unchanged] at ends
      exact ends
  | @leave outcome rounds walking =>
      have ends := continues call _ rfl rfl rfl walking (.leaving (accords.settles rfl))
      rw [unchanged] at ends
      exact ends

theorem Sound.step {settings : Offline.Settings} {deed : Deed} (sound : board.Sound)
    (step : board.Step settings deed after) : after.Sound := by
  cases step with
  | begins brings fresh idle => exact sound.begins fresh _ _ _
  | walks goes known single goesOn => exact sound.walks known single goesOn _
  | leaves goes known single line last => exact sound.leaves known line single
  | ends goes known single uninquired => exact sound.ends known single

theorem Sound.live_of_job (sound : board.Sound) {job : Job} (member : job ∈ board.jobs id) :
    ∃ call, board.call? id = some call ∧ board.jobs id = [job] := by
  have member : job ∈ (board.docket id).jobs := member
  cases sound.affair id with
  | unknown nothing =>
      rw [nothing] at member
      cases member
  | live live => exact ⟨_, live.known, live.walking.jobs_eq_of_mem member⟩
  | ended ended =>
      rw [ended.idle] at member
      cases member

theorem Sound.can_step (sound : board.Sound) {settings : Offline.Settings} {deed : Deed}
    (goes : deed.request? = none) {job : Job} (member : job ∈ board.jobs deed.call) :
    ∃ after, board.Step settings deed after := by
  rcases sound.live_of_job member with ⟨call, known, single⟩
  have live := sound.underway known
  have walking := live.walking
  rw [show (board.docket deed.call).jobs = [job] from single] at walking
  cases walking with
  | outside away walk outside => exact ⟨_, .walks goes known single (.replied _ walk)⟩
  | checking away walk => exact ⟨_, .walks goes known single (.checks walk)⟩
  | called holds walk locked => exact ⟨_, .walks goes known single (.enters walk)⟩
  | looking holds walk locked tells => exact ⟨_, .walks goes known single (.replied _ walk)⟩
  | granting holds walk => exact ⟨_, .walks goes known single (.replied _ walk)⟩
  | refusing holds walk found => exact ⟨_, .walks goes known single (.replied _ walk)⟩
  | leaving holds reason =>
      rcases List.head?_eq_some_iff.mp holds with ⟨behind, line⟩
      have distinct := sound.single call.locked
      rw [line] at distinct
      exact ⟨_, .leaves goes known single line (List.nodup_cons.mp distinct).1⟩
  | done away reason => exact ⟨_, .ends goes known single live.uninquired⟩

end Board

namespace Proceedings

structure Orderly (settings : Offline.Settings) (proceedings : Proceedings) : Prop where
  regular : proceedings.Regular settings
  sound : proceedings.board.Sound

variable {settings : Offline.Settings} {before after : Proceedings} {deed : Deed}

theorem orderly_start (settings : Offline.Settings) (memory : Memory) :
    (start settings memory).Orderly settings where
  regular := ⟨⟨rfl, rfl, rfl, memory, [], rfl⟩, Lock.sound_free⟩
  sound := ⟨fun _ => List.nodup_nil, fun _ _ => nofun, fun _ => .unknown rfl⟩

theorem Orderly.step_of_do (orderly : before.Orderly settings)
    (done : before.do? deed = some after) :
    before.board.Step settings deed after.board ∧ after.Orderly settings := by
  have possible : ∃ board, before.board.Step settings deed board := by
    cases brings : deed.request? with
    | some request =>
        simp only [do?, brings] at done
        split at done
        · cases done
        · next fresh =>
            have idle : before.board.jobs deed.call = [] :=
              congrArg Docket.jobs (orderly.sound.unknown fresh)
            exact ⟨_, .begins brings fresh idle⟩
    | none =>
        simp only [do?, brings, Option.map_eq_some_iff] at done
        rcases done with ⟨job, found, -⟩
        have mine : (job.call == deed.call) = true :=
          List.find?_some (p := fun job : Job => job.call == deed.call) found
        have member : job ∈ before.board.jobs deed.call :=
          List.mem_filter.mpr ⟨List.mem_of_find?_eq_some found, by simpa using mine⟩
        exact orderly.sound.can_step brings member
  rcases possible with ⟨board, step⟩
  rcases do_of_step orderly.regular step with ⟨other, same, regular, rfl⟩
  cases done.symm.trans same
  exact ⟨step, regular, orderly.sound.step step⟩

/-- What holds at the start and is kept by every step holds after all deeds that can be done. -/
theorem induction_of_doAll (holds : List Deed → Proceedings → Prop) {memory : Memory}
    (first : holds [] (start settings memory))
    (step : ∀ deeds deed before after, before.Orderly settings →
      before.board.Step settings deed after.board → holds deeds before →
      holds (deeds ++ [deed]) after) {deeds : List Deed}
    (run : (start settings memory).doAll? deeds = some after) :
    after.Orderly settings ∧ holds deeds after := by
  induction deeds using List.reverseRecOn generalizing after with
  | nil =>
      cases run
      exact ⟨orderly_start settings memory, first⟩
  | append_singleton deeds deed kept =>
      rw [doAll?_concat] at run
      rcases Option.bind_eq_some_iff.mp run with ⟨before, earlier, done⟩
      rcases kept earlier with ⟨orderly, held⟩
      rcases orderly.step_of_do done with ⟨allowed, still⟩
      exact ⟨still, step deeds deed before after orderly allowed held⟩

end Proceedings

end Gatehouse.Validation
