import Gatehouse.Proofs.Validation.Affairs
import Gatehouse.Proofs.Validation.Erasure
import Gatehouse.Proofs.Validation.Toil

/-!
# Failures of the register

Any question to the register may fail, in any step of any call. What the register holds afterwards
is told by what was asked (`Proceedings.memory_of_doAll`), a call takes a few steps at most
(`Proceedings.left_of_doAll`), and one for which nothing was entered can be left out
(`Proceedings.spared_of_doAll`). `Withstands` says of a whole run what failures come to, and
`withstands_failures` proves it.

Every step of a call brings it nearer to its end, whatever the others do in between
(`Board.Sound.left_lt` and `Board.Sound.left_of_ne`). Whoever holds a lock has something to do
(`Board.Sound.job_of_holder`), so a call that has not ended is never stuck (`Board.Sound.unstuck`).
-/

namespace Gatehouse.Validation

open Gatehouse.Access Gatehouse.Register

theorem Call.GoesOn.toil_lt {settings : Offline.Settings} {now : Time.Instant} {id : CallId}
    {call : Call} {job : Job} {next : Offline.Next} {line : List CallId}
    (goesOn : call.GoesOn settings now id job next) (walking : Walking id call line [job]) :
    ∃ stage, call.walk = some stage ∧ next.toil stage < job.toil + stage.toil := by
  cases goesOn with
  | @replied stage reply walk =>
      refine ⟨stage, walk, Offline.toil_resume _ _ _ _ (fun subject user same => ?_)
        (fun subject same => ?_) reply⟩
      all_goals
        subst same
        cases walking <;> simp_all [Offline.Stage.isOutside]
  | checks walk => exact ⟨_, walk, Offline.toil_check ..⟩
  | enters walk => exact ⟨_, walk, Offline.toil_enter ..⟩

/-- How much is left of a call. Who waits for a lock counts as if it could enter. -/
def Docket.left (docket : Docket) : Nat :=
  match docket.call, docket.request with
  | some call, _ => docket.jobs.head?.elim 3 Job.toil + call.walk.elim 0 Offline.Stage.toil
  | none, none => 15
  | none, some _ => 0

namespace Board

variable {settings : Offline.Settings} {deed : Deed} {board after : Board} {id : CallId}
  {call : Call}

theorem left_walk (outages : List (String × String)) (known : board.call? id = some call)
    {stage : Offline.Stage} (walk : call.walk = some stage) (next : Offline.Next) :
    ((board.walk outages id call next).docket id).left = next.toil stage := by
  cases next with
  | acquire user stage =>
      simp only [Board.walk, proceed, docket, Docket.left, Function.update_self, Offline.Next.toil]
      split <;> rfl
  | _ => simp [Board.walk, proceed, docket, Docket.left, known, walk, Offline.Next.toil, Job.toil]

theorem Sound.left_lt (sound : board.Sound) (step : board.Step settings deed after) :
    (after.docket deed.call).left < (board.docket deed.call).left := by
  have left {call : Call} {job : Job} (known : board.call? deed.call = some call)
      (single : board.jobs deed.call = [job]) : (board.docket deed.call).left =
        job.toil + call.walk.elim 0 Offline.Stage.toil := by
    simp [docket, Docket.left, known, single]
  cases step with
  | @begins request brings fresh idle =>
      rcases Offline.start_eq_ask request with ⟨query, stage, first, -⟩
      have few := stage.toil_le
      rw [sound.unknown fresh, first]
      simp only [walk, proceed, docket, Docket.left, Function.update_self, Option.elim_some,
        List.head?_cons, Job.toil]
      omega
  | @walks call job next goes known single goesOn =>
      have walking := (sound.underway known).walking
      rw [show (board.docket deed.call).jobs = [job] from single] at walking
      rcases goesOn.toil_lt walking with ⟨stage, walk, nearer⟩
      rw [left_walk _ known walk, left known single, walk]
      exact nearer
  | @leaves call outcome behind goes known single line last =>
      rw [left known single]
      simp [leave, docket, Docket.left, known, Job.toil]
  | @ends call outcome goes known single uninquired =>
      have brought := (sound.underway known).request
      rw [left known single]
      simp only [docket] at brought
      simp [close, docket, Docket.left, brought, Job.toil]

theorem Sound.left_of_ne (sound : board.Sound) (step : board.Step settings deed after)
    (different : id ≠ deed.call) : (after.docket id).left = (board.docket id).left := by
  cases step with
  | begins brings fresh idle =>
      rw [docket_walk_of_ne _ _ different, docket_enroll_of_ne _ different]
  | walks goes known single goesOn => rw [docket_walk_of_ne _ _ different]
  | @leaves holder outcome behind goes known single line last =>
      by_cases next : behind.head? = some id
      · -- The next one in the line may enter, which was counted for it all along.
        have waits : id ∈ board.line holder.locked :=
          line ▸ List.mem_cons_of_mem deed.call (List.mem_of_head? next)
        rcases sound.waiting _ id waits with ⟨call, live, locked⟩
        have walking := (sound.underway live).walking
        rw [locked, line] at walking
        have idle : board.jobs id = [] :=
          walking.idle_of_waits different.symm (List.mem_of_head? next)
        simp [leave, docket, Docket.left, live, line, next, idle, different, Job.toil]
      · simp [leave, docket, Docket.left, line, next, different]
  | ends goes known single uninquired => rw [docket_close_of_ne _ different]

theorem Sound.job_of_holder (sound : board.Sound) {key : Reference} {holder : CallId}
    {behind : List CallId} (line : board.line key = holder :: behind) :
    ∃ job, board.jobs holder = [job] := by
  have stands : holder ∈ board.line key := line ▸ List.mem_cons_self
  rcases sound.waiting key holder stands with ⟨call, known, locked⟩
  have distinct := sound.single key
  have walking := (sound.underway known).walking
  rw [locked] at walking
  rw [line] at distinct walking
  have inside : holder ∈ holder :: behind := List.mem_cons_self
  show ∃ job, (board.docket holder).jobs = [job]
  generalize (board.docket holder).jobs = jobs at walking
  cases walking with
  | outside away walk outside => exact absurd inside away
  | checking away walk => exact absurd inside away
  | queued waits walk locked => exact absurd waits (List.nodup_cons.mp distinct).1
  | done away reason => exact absurd inside away
  | _ => exact ⟨_, rfl⟩

/-- A call that was brought has ended, has something to do, or waits for one who has. -/
theorem Sound.unstuck (sound : board.Sound) (brought : id ∈ board.requests.map Prod.fst) :
    (∃ outcome, Ended outcome (board.docket id)) ∨ (∃ job, board.jobs id = [job]) ∨
      ∃ key holder behind, board.line key = holder :: behind ∧ id ∈ behind := by
  cases sound.affair id with
  | unknown nothing =>
      have unknown : board.requests.lookup id = none := congrArg Docket.request nothing
      rcases List.mem_map.mp brought with ⟨entry, member, mine⟩
      have other := List.lookup_eq_none_iff.mp unknown entry member
      simp [mine] at other
  | ended ended => exact .inl ⟨_, ended⟩
  | @live call live =>
      have walking := live.walking
      show _ ∨ (∃ job, (board.docket id).jobs = [job]) ∨ _
      generalize (board.docket id).jobs = jobs at walking
      cases walking with
      | queued waits walk locked =>
          cases line : board.line call.locked with
          | nil => simp [line] at waits
          | cons holder behind =>
              rw [line] at waits
              exact .inr (.inr ⟨_, holder, behind, line, waits⟩)
      | _ => exact .inr (.inl ⟨_, rfl⟩)

end Board

/-- After an answer the register holds what the answer says to have been entered. -/
theorem Dealing.memory_eq (id : CallId) (memory : Memory) (outages : List (String × String))
    (query : Query) :
    (memory.answerUnless outages query).1 = memory.appendAll
      (Dealing.entry? ⟨id, query, (memory.answerUnless outages query).2⟩).toList := by
  by_cases looks : ∀ entry, query ≠ .append entry
  · rcases memory.answerUnless_look outages looks with ⟨same, other⟩
    rw [Dealing.entry?_of_ne other, same]
    rfl
  · rcases not_forall_not.mp looks with ⟨entry, rfl⟩
    rcases memory.answerUnless_append outages entry with ⟨fault, failed⟩ | added
    · rw [failed]
      rfl
    · rw [added]
      rfl

namespace Board

variable {settings : Offline.Settings} {deed : Deed} {board after : Board} {id : CallId}
  {call : Call}

theorem walk_enters (board : Board) (outages : List (String × String)) (id : CallId) (call : Call)
    (next : Offline.Next) :
    ∃ asked, (board.walk outages id call next).dealings = board.dealings ++ asked ∧
      (∀ dealing ∈ asked, dealing.call = id) ∧
      (board.walk outages id call next).memory =
        board.memory.appendAll (asked.filterMap Dealing.entry?) := by
  have nothing : ∃ asked, board.dealings = board.dealings ++ asked ∧
      (∀ dealing ∈ asked, dealing.call = id) ∧
      board.memory = board.memory.appendAll (asked.filterMap Dealing.entry?) :=
    ⟨[], (List.append_nil _).symm, by simp, rfl⟩
  cases next with
  | ask query stage =>
      let asked : Dealing := ⟨id, query, (board.memory.answerUnless outages query).2⟩
      have listed : [asked].filterMap Dealing.entry? = asked.entry?.toList := by
        cases entry : asked.entry? <;> simp [entry]
      refine ⟨[asked], rfl, by simp [asked], ?_⟩
      rw [listed]
      exact Dealing.memory_eq id board.memory outages query
  | rest stage => exact nothing
  | acquire user stage => exact nothing
  | finish outcome rounds => exact nothing
  | leave outcome rounds => exact nothing

theorem Step.enters (step : board.Step settings deed after) :
    ∃ asked, after.dealings = board.dealings ++ asked ∧
      (∀ dealing ∈ asked, dealing.call = deed.call) ∧
      after.memory = board.memory.appendAll (asked.filterMap Dealing.entry?) := by
  cases step with
  | begins brings fresh idle => exact walk_enters (board.enroll ..) ..
  | walks goes known single goesOn => exact walk_enters ..
  | leaves goes known single line last => exact ⟨[], (List.append_nil _).symm, by simp, rfl⟩
  | ends goes known single uninquired => exact ⟨[], (List.append_nil _).symm, by simp, rfl⟩

theorem Sound.not_mem_line_of_ended (sound : board.Sound) {outcome : Except Fault Decision}
    (ended : Ended outcome (board.docket id)) (key : Reference) : id ∉ board.line key :=
  fun member => by
    rcases sound.waiting key id member with ⟨call, known, -⟩
    cases ended.gone.symm.trans known

theorem outcomes_of_ended {outcome : Except Fault Decision}
    (ended : Ended outcome (board.docket id)) :
    (board.outcomes.filter fun (other, _) => other == id) = [(id, outcome, none)] := by
  rcases List.map_eq_singleton_iff.mp ended.results with ⟨⟨other, result⟩, only, rfl⟩
  have member : (other, outcome, none) ∈ board.outcomes.filter fun (other, _) => other == id :=
    only ▸ List.mem_cons_self
  have mine : other = id := by simpa using List.of_mem_filter member
  rw [only, mine]

theorem Sound.without_of_ended (sound : board.Sound) {outcome : Except Fault Decision}
    (ended : Ended outcome (board.docket id)) : board.without id = board.forget id := by
  have away := sound.not_mem_line_of_ended ended
  have gone : board.call? id = none := ended.gone
  have idle : board.jobs id = [] := ended.idle
  refine Board.ext rfl (funext fun key => ?_) ?_ (funext fun other => ?_) rfl rfl rfl
  · exact List.filter_eq_self.mpr fun other member => by
      simpa using fun same : other = id => away key (same ▸ member)
  · show Function.update board.call? id none = board.call?
    rw [← gone, Function.update_eq_self]
  · simp only [without, forget, follower_of_not (not_follows_of_not_mem away other),
      List.append_nil]
    split
    · next same => rw [same, idle]
    · rfl

end Board

theorem entriesOf_append (id : CallId) (dealings more : List Dealing) :
    entriesOf id (dealings ++ more) = entriesOf id dealings ++ entriesOf id more := by
  simp [entriesOf, List.filter_append, List.filterMap_append]

theorem Settles.granted_iff {outcome : Except Fault Decision} {entries : List LogEntry}
    {faults : List Fault} (settles : Settles outcome entries faults) :
    (∃ decision, outcome = .ok decision ∧ decision.isGrant = true) ↔
      ∃ entry, entries = [entry] ∧ entry.granted = true := by
  cases settles with
  | granted grants entered => exact iff_of_true ⟨_, rfl, grants⟩ ⟨_, rfl, entered⟩
  | denied refuses entered =>
      refine iff_of_false ?_ ?_
      · rintro ⟨decision, same, grants⟩
        cases same
        cases refuses.symm.trans grants
      · rintro ⟨entry, rfl, granted⟩
        cases (entered entry List.mem_cons_self).symm.trans granted
  | failed same => exact iff_of_false (by simp) (by simp)

theorem Settles.entries_of_granted {outcome : Except Fault Decision} {entries : List LogEntry}
    {faults : List Fault} (settles : Settles outcome entries faults) {entry : LogEntry}
    (member : entry ∈ entries) (granted : entry.granted = true) : entries = [entry] := by
  cases settles with
  | granted grants entered => rw [List.mem_singleton.mp member]
  | denied refuses entered => cases (entered entry member).symm.trans granted
  | failed same => cases member

theorem Settles.of_fault {outcome : Except Fault Decision} {entries : List LogEntry}
    {faults : List Fault} (settles : Settles outcome entries faults) {fault : Fault}
    (member : fault ∈ faults) : outcome = .error fault ∧ entries = [] := by
  cases settles with
  | granted grants entered => cases member
  | denied refuses entered => cases member
  | failed same => exact ⟨congrArg Except.error (same fault member).symm, rfl⟩

theorem Accounts.entries_of_fault {id : CallId} {walk : Option Offline.Stage} {jobs : List Job}
    {entries : List LogEntry} {faults : List Fault}
    (accounts : Accounts id walk jobs entries faults) {fault : Fault} (member : fault ∈ faults) :
    entries = [] := by
  cases accounts with
  | leaving settles => exact (settles.of_fault member).2
  | done settles => exact (settles.of_fault member).2
  | failed walk asking => rfl
  | _ => cases member

namespace Proceedings

variable {settings : Offline.Settings} {memory : Memory} {deeds : List Deed}
  {after : Proceedings} {id : CallId}

theorem memory?_eq (regular : after.Regular settings) :
    after.desk.memory? = some after.board.memory := by
  rcases regular.plain.memory with ⟨memory, outages, kept⟩
  simp [board, Desk.memory?, kept]

theorem ended_of_outcome (sound : after.board.Sound) {outcome : Except Fault Decision}
    {report : Option Online.Report} (member : (id, outcome, report) ∈ after.desk.outcomes) :
    Ended outcome (after.board.docket id) := by
  have member : (outcome, report) ∈ (after.board.docket id).results :=
    List.mem_map.mpr ⟨_, List.mem_filter.mpr ⟨member, by simp⟩, rfl⟩
  cases sound.affair id with
  | unknown nothing =>
      rw [nothing] at member
      cases member
  | live live =>
      rw [live.results] at member
      cases member
  | ended ended =>
      rw [ended.results] at member
      cases List.mem_singleton.mp member
      exact ended

theorem entries_of_fault (sound : after.board.Sound) {fault : Fault}
    (member : fault ∈ faultsOf id after.dealings) : entriesOf id after.dealings = [] := by
  have member : fault ∈ (after.board.docket id).faults := member
  show (after.board.docket id).entries = []
  cases sound.affair id with
  | unknown nothing => rw [nothing]
  | live live => exact live.accounts.entries_of_fault member
  | ended ended => exact (ended.settles.of_fault member).2

theorem memory_of_doAll (run : (start settings memory).doAll? deeds = some after) :
    after.board.memory = memory.appendAll (after.dealings.filterMap Dealing.entry?) := by
  refine (induction_of_doAll (fun _ after => after.board.memory =
    memory.appendAll (after.dealings.filterMap Dealing.entry?)) rfl ?_ run).2
  intro deeds deed before after orderly step held
  rcases step.enters with ⟨asked, dealings, -, entered⟩
  have dealings : after.dealings = before.dealings ++ asked := dealings
  rw [entered, held, dealings, List.filterMap_append, Memory.appendAll_append]

theorem left_of_doAll (run : (start settings memory).doAll? deeds = some after) (id : CallId) :
    (deeds.filter fun deed => deed.call == id).length + (after.board.docket id).left ≤ 15 := by
  refine (induction_of_doAll (fun deeds after => (deeds.filter fun deed =>
    deed.call == id).length + (after.board.docket id).left ≤ 15) (le_refl 15) ?_ run).2
  intro deeds deed before after orderly step few
  rw [List.filter_append, List.length_append]
  by_cases mine : deed.call = id
  · have fewer := orderly.sound.left_lt step
    rw [mine] at fewer
    simp only [mine, beq_self_eq_true, List.filter_cons_of_pos, List.filter_nil,
      List.length_singleton]
    omega
  · have same := orderly.sound.left_of_ne step (Ne.symm mine)
    rw [List.filter_cons_of_neg (by simpa using mine), List.filter_nil, List.length_nil, same]
    exact few

theorem without_start (settings : Offline.Settings) (memory : Memory) (id : CallId) :
    (start settings memory).board.without id = (start settings memory).board := by
  have nobody : ∀ key, id ∉ (start settings memory).board.line key := fun _ => List.not_mem_nil
  refine Board.ext rfl rfl ?_ (funext fun other => ?_) rfl rfl rfl
  · exact Function.update_eq_self id _
  · simp only [Board.without, follower_of_not (not_follows_of_not_mem nobody other)]
    split <;> rfl

def Spared (settings : Offline.Settings) (memory : Memory) (id : CallId) (deeds : List Deed)
    (after : Proceedings) : Prop :=
  ∃ less, (start settings memory).doAll? (deeds.filter fun deed => deed.call != id) = some less ∧
    less.Regular settings ∧ less.board = after.board.without id

theorem Spared.step {before : Proceedings} {deed : Deed}
    (spared : Spared settings memory id deeds before) (sound : before.board.Sound)
    (step : before.board.Step settings deed after.board)
    (kept : deed.call = id → after.board.memory = before.board.memory) :
    Spared settings memory id (deeds ++ [deed]) after := by
  rcases spared with ⟨less, earlier, regular, same⟩
  by_cases erased : deed.call = id
  · refine ⟨less, ?_, regular, ?_⟩
    · rw [List.filter_append, List.filter_cons_of_neg (by simp [erased]), List.filter_nil,
        List.append_nil, earlier]
    · rw [same, ← erased, sound.without_own step (kept erased)]
  · have step := sound.step_without step erased
    rw [← same] at step
    rcases do_of_step regular step with ⟨less_after, done, still, board⟩
    refine ⟨less_after, ?_, still, board⟩
    rw [List.filter_append, List.filter_cons_of_pos (by simpa using erased), List.filter_nil,
      doAll?_concat, earlier]
    exact done

/-- The deeds of the others can be done where a call for which nothing was entered is not made. -/
theorem spared_of_doAll (run : (start settings memory).doAll? deeds = some after)
    (nothing : entriesOf id after.dealings = []) : Spared settings memory id deeds after := by
  refine (induction_of_doAll (fun deeds after => entriesOf id after.dealings = [] →
    Spared settings memory id deeds after) (fun _ => ?_) ?_ run).2 nothing
  · exact ⟨_, rfl, (orderly_start settings memory).regular, (without_start ..).symm⟩
  · intro deeds deed before after orderly step held nothing
    rcases step.enters with ⟨asked, dealings, mine, entered⟩
    have dealings : after.dealings = before.dealings ++ asked := dealings
    rw [dealings, entriesOf_append, List.append_eq_nil_iff] at nothing
    refine (held nothing.1).step orderly.sound step fun erased => ?_
    have all_mine : (asked.filter fun dealing => dealing.call == id) = asked :=
      List.filter_eq_self.mpr fun dealing member => by simp [mine dealing member, erased]
    have nothing := nothing.2
    rw [entriesOf, all_mine] at nothing
    rw [entered, nothing]
    rfl

end Proceedings

/-- What a run comes to in which any questions to the register may have failed. -/
structure Withstands (settings : Offline.Settings) (memory : Memory) (deeds : List Deed)
    (after : Proceedings) : Prop where
  /-- The register holds what it held at the start and what was entered since. -/
  kept : after.desk.memory? = some (memory.appendAll (after.dealings.filterMap Dealing.entry?))
  /-- A call is granted exactly when one grant was entered for it, and nothing else. -/
  granted : ∀ id outcome report, (id, outcome, report) ∈ after.desk.outcomes →
    ((∃ decision, outcome = .ok decision ∧ decision.isGrant = true) ↔
      ∃ entry, entriesOf id after.dealings = [entry] ∧ entry.granted = true)
  /-- A grant that was entered for a call is all that was. -/
  alone : ∀ id outcome report, (id, outcome, report) ∈ after.desk.outcomes →
    ∀ entry ∈ entriesOf id after.dealings, entry.granted = true →
      entriesOf id after.dealings = [entry]
  /-- A call for which the register failed has entered nothing, and ends with that failure. -/
  failed : ∀ id, ∀ fault ∈ faultsOf id after.dealings, entriesOf id after.dealings = [] ∧
    ∀ outcome report, (id, outcome, report) ∈ after.desk.outcomes → outcome = .error fault
  /-- A call that has ended neither holds a lock nor waits for one. -/
  released : ∀ id outcome report, (id, outcome, report) ∈ after.desk.outcomes →
    ∀ key, id ∉ after.desk.locks.line key
  /-- A call that was brought has ended, with one outcome, or has something to do, or waits for a
  call that has. -/
  unstuck : ∀ id ∈ after.requests.map Prod.fst,
    (∃ outcome, (after.desk.outcomes.filter fun (other, _) => other == id) =
      [(id, outcome, none)]) ∨
    (∃ job ∈ after.ready, job.call = id) ∨
    ∃ key holder behind, after.desk.locks.line key = holder :: behind ∧ id ∈ behind ∧
      ∃ job ∈ after.ready, job.call = holder
  /-- Every call ends after a few steps of its own. -/
  brief : ∀ id, (deeds.filter fun deed => deed.call == id).length ≤ 15
  /-- A call for which nothing was entered might as well not have been made: the steps of the others
  lead to the same register and the same outcomes of theirs, and to the same desk once the call has
  ended. -/
  erased : ∀ id, entriesOf id after.dealings = [] →
    ∃ less, (Proceedings.start settings memory).doAll?
        (deeds.filter fun deed => deed.call != id) = some less ∧
      less.desk.memory? = after.desk.memory? ∧
      less.desk.outcomes = (after.desk.outcomes.filter fun (other, _) => other ≠ id) ∧
      ∀ outcome report, (id, outcome, report) ∈ after.desk.outcomes →
        less.board = after.board.forget id

/-- Failures of the register neither grant anything, nor leave anything half done, nor keep a lock
closed. -/
theorem withstands_failures {settings : Offline.Settings} {memory : Memory} {deeds : List Deed}
    {after : Proceedings}
    (run : (Proceedings.start settings memory).doAll? deeds = some after) :
    Withstands settings memory deeds after := by
  have orderly : after.Orderly settings :=
    (Proceedings.induction_of_doAll (fun _ _ => True) trivial (by simp) run).1
  have sound := orderly.sound
  have has_job {id : CallId} {job : Job} (single : after.board.jobs id = [job]) :
      ∃ job ∈ after.ready, job.call = id := by
    have member : job ∈ after.board.jobs id := single ▸ List.mem_cons_self
    rcases List.mem_filter.mp member with ⟨present, mine⟩
    exact ⟨job, present, by simpa using mine⟩
  constructor
  case kept =>
    rw [Proceedings.memory?_eq orderly.regular, Proceedings.memory_of_doAll run]
  case granted =>
    intro id outcome report member
    exact (Proceedings.ended_of_outcome sound member).settles.granted_iff
  case alone =>
    intro id outcome report member entry entered granted
    exact (Proceedings.ended_of_outcome sound member).settles.entries_of_granted entered granted
  case failed =>
    intro id fault failed
    refine ⟨Proceedings.entries_of_fault sound failed, fun outcome report member => ?_⟩
    exact ((Proceedings.ended_of_outcome sound member).settles.of_fault failed).1
  case released =>
    intro id outcome report member
    exact sound.not_mem_line_of_ended (Proceedings.ended_of_outcome sound member)
  case unstuck =>
    intro id brought
    rcases sound.unstuck brought with ⟨outcome, ended⟩ | ⟨job, single⟩ |
      ⟨key, holder, behind, line, waits⟩
    · exact .inl ⟨outcome, Board.outcomes_of_ended ended⟩
    · exact .inr (.inl (has_job single))
    · rcases sound.job_of_holder line with ⟨job, single⟩
      exact .inr (.inr ⟨key, holder, behind, line, waits, has_job single⟩)
  case brief =>
    intro id
    exact le_of_add_le_left (Proceedings.left_of_doAll run id)
  case erased =>
    intro id nothing
    rcases Proceedings.spared_of_doAll run nothing with ⟨less, others, regular, same⟩
    refine ⟨less, others, ?_, congrArg Board.outcomes same, fun outcome report member => ?_⟩
    · rw [Proceedings.memory?_eq regular, same, Proceedings.memory?_eq orderly.regular]
      rfl
    · rw [same, sound.without_of_ended (Proceedings.ended_of_outcome sound member)]

def codedRegister : Memory :=
  { users := [{
      registration := "T100", name := "", active := true, validFrom := none, validUntil := none
      allowCard := false, allowBiometric := false, allowKeypad := true, code := some "7", id := 1 }]
    cards := []
    log := [] }

/-- Two calls of the same user. The first one holds the lock when the search for a recent grant
fails, while the second one waits for it. -/
def overlappingDeeds : List Deed :=
  let begins (id : CallId) : Deed :=
    ⟨id, ⟨1000000, 0⟩, [], some ⟨"7", .invalid, .entry, .keypad⟩⟩
  let goes (id : CallId) : Deed := ⟨id, ⟨1000000, 0⟩, [], none⟩
  let fails (id : CallId) : Deed :=
    ⟨id, ⟨1000000, 0⟩, [("findRecentGrantedAccess", "store down")], none⟩
  [begins 1, goes 1, goes 1, begins 2, goes 2, goes 2, fails 1, goes 1, goes 1, goes 2, goes 1,
    goes 2, goes 2, goes 2, goes 2]

theorem withstands_failures_overlapping :
    let settings : Offline.Settings :=
      { window := .finite 300000, logDenials := true, ahead := .finite 0 }
    ∃ after, (Proceedings.start settings codedRegister).doAll? overlappingDeeds = some after ∧
      after.desk.outcomes =
        [(1, .error (.reported "store down"), none),
          (2, .ok (.granted Display.granted .entry .keypad .offline), none)] ∧
      Withstands settings codedRegister overlappingDeeds after := by
  intro settings
  have done : ((Proceedings.start settings codedRegister).doAll? overlappingDeeds).isSome := by
    decide +kernel
  have outcomes : (((Proceedings.start settings codedRegister).doAll? overlappingDeeds).map
      fun after => after.desk.outcomes) =
        some [(1, .error (.reported "store down"), none),
          (2, .ok (.granted Display.granted .entry .keypad .offline), none)] := by
    decide +kernel
  rcases Option.isSome_iff_exists.mp done with ⟨after, run⟩
  rw [run] at outcomes
  exact ⟨after, run, Option.some.inj outcomes, withstands_failures run⟩

end Gatehouse.Validation
