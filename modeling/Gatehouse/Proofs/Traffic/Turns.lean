import Gatehouse.Proofs.Traffic.Floor
import Gatehouse.Proofs.Traffic.Queue
import Gatehouse.Proofs.Turnstile.Rest

/-!
# Requests in turn

Of the requests before a device the first in line is called, waits for its decision or leaves; the
others wait. `Turn` tells these apart by the one task of the first, and says how far the lists of
submitted, begun and decided requests have come: they differ only in those who are still in line.
While a decision is awaited the turnstile of the device is idle. `Orderly` says this of every
device, and this module shows that what requests do keeps it.
-/

namespace Gatehouse

open Access

def Floor.tasksOf (floor : Floor) (id : RequestId) : List Task :=
  Agenda.owned Task.request? id floor.tasks

/-- How far the requests before a device have come, told by their line and the tasks of its first;
a decision is awaited only where the turnstile is idle. -/
inductive Turn (idle : Prop) (tasks : RequestId → List Task) :
    (line submitted begun decided : List RequestId) → Prop
  | free (gone : List RequestId) : Turn idle tasks [] gone gone gone
  | called (gone : List RequestId) {id : RequestId} (waiting : List RequestId) :
      tasks id = [.job (.begin id)] →
      Turn idle tasks (id :: waiting) (gone ++ id :: waiting) gone gone
  | deciding (gone : List RequestId) {id : RequestId} (waiting : List RequestId) :
      idle → tasks id = [.verdict id] →
      Turn idle tasks (id :: waiting) (gone ++ id :: waiting) (gone ++ [id]) gone
  | leaving (gone : List RequestId) {id : RequestId} (waiting : List RequestId)
      {result : Except Fault Outcome} :
      tasks id = [.job (.depart id result)] →
      Turn idle tasks (id :: waiting) (gone ++ id :: waiting) (gone ++ [id]) (gone ++ [id])

namespace Turn

variable {idle : Prop} {tasks : RequestId → List Task}
  {line submitted begun decided : List RequestId}

/-- Decisions come in the order of turns, turns in the order of submission, and a decision comes
before the next turn. -/
theorem in_order (turn : Turn idle tasks line submitted begun decided) :
    decided <+: begun ∧ begun <+: submitted ∧ begun.length ≤ decided.length + 1 := by
  cases turn with
  | free => exact ⟨List.prefix_rfl, List.prefix_rfl, Nat.le_succ _⟩
  | called => exact ⟨List.prefix_rfl, List.prefix_append .., Nat.le_succ _⟩
  | deciding _ waiting =>
      refine ⟨List.prefix_append .., ⟨waiting, by simp⟩, ?_⟩
      exact Nat.le_of_eq List.length_append
  | leaving gone waiting => exact ⟨List.prefix_rfl, ⟨waiting, by simp⟩, Nat.le_succ _⟩

/-- What keeps the task of the first in line, and the turnstile idle, keeps the turn. -/
theorem mono {idle' : Prop} {tasks' : RequestId → List Task}
    (turn : Turn idle tasks line submitted begun decided) (stays : idle → idle')
    (same : ∀ id, line.head? = some id → tasks' id = tasks id) :
    Turn idle' tasks' line submitted begun decided := by
  cases turn with
  | free => exact .free _
  | called _ waiting task => exact .called _ waiting ((same _ rfl).trans task)
  | deciding _ waiting rests task =>
      exact .deciding _ waiting (stays rests) ((same _ rfl).trans task)
  | leaving gone waiting task => exact .leaving gone waiting ((same _ rfl).trans task)

theorem joins {tasks' : RequestId → List Task} {id : RequestId}
    (turn : Turn idle tasks line submitted begun decided)
    (same : ∀ first, line.head? = some first → tasks' first = tasks first)
    (called : line = [] → tasks' id = [.job (.begin id)]) :
    Turn idle tasks' (line ++ [id]) (submitted ++ [id]) begun decided := by
  cases turn with
  | free => exact .called _ [] (called rfl)
  | called _ waiting task =>
      rw [List.append_assoc]
      exact .called _ (waiting ++ [id]) ((same _ rfl).trans task)
  | deciding _ waiting rests task =>
      rw [List.append_assoc]
      exact .deciding _ (waiting ++ [id]) rests ((same _ rfl).trans task)
  | leaving gone waiting task =>
      rw [List.append_assoc]
      exact .leaving gone (waiting ++ [id]) ((same _ rfl).trans task)

theorem single_task {id : RequestId} {waiting : List RequestId}
    (turn : Turn idle tasks (id :: waiting) submitted begun decided) :
    ∃ task, tasks id = [task] := by
  cases turn with
  | called _ _ task => exact ⟨_, task⟩
  | deciding _ _ _ task => exact ⟨_, task⟩
  | leaving _ _ task => exact ⟨_, task⟩

section

variable {idle' : Prop} {tasks' : RequestId → List Task} {id : RequestId}
  {waiting : List RequestId}

theorem idle_of_verdict (turn : Turn idle tasks (id :: waiting) submitted begun decided)
    (task : tasks id = [.verdict id]) : idle := by
  cases turn with
  | called _ _ other => cases task.symm.trans other
  | deciding _ _ rests => exact rests
  | leaving _ _ other => cases task.symm.trans other

theorem begins (turn : Turn idle tasks (id :: waiting) submitted begun decided)
    (task : tasks id = [.job (.begin id)]) (rests : idle') (next : tasks' id = [.verdict id]) :
    Turn idle' tasks' (id :: waiting) submitted (begun ++ [id]) decided := by
  cases turn with
  | called => exact .deciding _ waiting rests next
  | deciding _ _ _ other => cases task.symm.trans other
  | leaving _ _ other => cases task.symm.trans other

theorem settles {result : Except Fault Outcome}
    (turn : Turn idle tasks (id :: waiting) submitted begun decided)
    (task : tasks id = [.verdict id]) (next : tasks' id = [.job (.depart id result)]) :
    Turn idle' tasks' (id :: waiting) submitted begun (decided ++ [id]) := by
  cases turn with
  | called _ _ other => cases task.symm.trans other
  | deciding => exact .leaving _ waiting next
  | leaving _ _ other => cases task.symm.trans other

theorem departs {result : Except Fault Outcome}
    (turn : Turn idle tasks (id :: waiting) submitted begun decided)
    (task : tasks id = [.job (.depart id result)])
    (next : ∀ other, waiting.head? = some other → tasks' other = [.job (.begin other)]) :
    Turn idle' tasks' waiting submitted begun decided := by
  cases turn with
  | called _ _ other => cases task.symm.trans other
  | deciding _ _ _ other => cases task.symm.trans other
  | leaving gone =>
      cases waiting with
      | nil => exact .free _
      | cons other others =>
          have moved : gone ++ id :: other :: others = (gone ++ [id]) ++ other :: others := by simp
          rw [moved]
          exact .called _ others (next other rfl)

end

end Turn

structure Orderly (floor : Floor) : Prop where
  rest : floor.turnstiles.AtRest
  sound : floor.traffic.coordinator.locks.Sound
  single : ∀ device, (floor.line device).Nodup
  waiting : ∀ device id, id ∈ floor.line device ↔
    ∃ visit, floor.visit? id = some visit ∧ visit.device = device
  numbered : ∀ id visit, floor.visit? id = some visit → id < floor.traffic.requests
  turn : ∀ device, Turn (floor.turnstiles.state device = .idle) floor.tasksOf (floor.line device)
    (floor.submittedTo device) (floor.begunAt device) (floor.decidedAt device)
  quiet : ∀ id, (∀ device, (floor.line device).head? ≠ some id) → floor.tasksOf id = []
  plain : ∀ job, Task.job (.validation job) ∉ floor.tasks

variable {floor after : Floor}

theorem Orderly.queued (orderly : Orderly floor) :
    floor.traffic.coordinator.Queued floor.traffic.requests :=
  ⟨orderly.sound, orderly.single, orderly.waiting, orderly.numbered⟩

theorem Orderly.calm (orderly : Orderly floor)
    (turnstiles : Turnstile.Controller.Calm floor.turnstiles after.turnstiles)
    (locks : after.traffic.coordinator.locks = floor.traffic.coordinator.locks)
    (visits : after.traffic.coordinator.visits = floor.traffic.coordinator.visits)
    (requests : after.traffic.requests = floor.traffic.requests)
    (tasks : ∀ id, after.tasksOf id = floor.tasksOf id)
    (submitted : after.submitted = floor.submitted) (begun : after.begun = floor.begun)
    (decided : after.decided = floor.decided)
    (plain : ∀ job, Task.job (.validation job) ∉ after.tasks) : Orderly after := by
  have line (device : Device) : after.line device = floor.line device :=
    congrArg (·.line device) locks
  have queued : after.traffic.coordinator.Queued after.traffic.requests :=
    requests ▸ orderly.queued.congr locks visits
  constructor
  case rest => exact turnstiles.rest
  case sound => exact queued.sound
  case single => exact queued.single
  case waiting => exact queued.waiting
  case numbered => exact queued.numbered
  case turn =>
    intro device
    have turn := orderly.turn device
    unfold Floor.submittedTo Floor.begunAt Floor.decidedAt at turn ⊢
    rw [line, submitted, begun, decided]
    exact turn.mono (turnstiles.idle device) fun id _ => tasks id
  case quiet =>
    intro id nowhere
    rw [tasks]
    exact orderly.quiet id fun device => line device ▸ nowhere device
  case plain => exact plain

theorem Orderly.head_of_task (orderly : Orderly floor) {id : RequestId}
    (busy : floor.tasksOf id ≠ []) :
    ∃ device waiting, floor.line device = id :: waiting := by
  by_contra none
  refine busy (orderly.quiet id fun device first => none ?_)
  rcases List.head?_eq_some_iff.mp first with ⟨waiting, line⟩
  exact ⟨device, waiting, line⟩

/-- A request comes in. It is called at once where nobody is in line. -/
theorem Orderly.submit (orderly : Orderly floor) (visit : Visit)
    (coordinator : after.traffic.coordinator =
      (floor.traffic.coordinator.submit floor.traffic.requests visit).1)
    (requests : after.traffic.requests = floor.traffic.requests + 1)
    (tasks : ∀ id, after.tasksOf id = floor.tasksOf id ++
      if id = floor.traffic.requests ∧ floor.line visit.device = [] then [.job (.begin id)] else [])
    (submitted : after.submitted =
      floor.submitted ++ [(visit.device, floor.traffic.requests)])
    (begun : after.begun = floor.begun) (decided : after.decided = floor.decided)
    (plain : ∀ job, Task.job (.validation job) ∉ after.tasks) : Orderly after := by
  have nowhere := orderly.queued.fresh.2
  have queued : after.traffic.coordinator.Queued after.traffic.requests := by
    rw [coordinator, requests]
    exact orderly.queued.submit visit
  have turnstiles : after.turnstiles = floor.turnstiles := by
    unfold Floor.turnstiles
    rw [coordinator]
    rfl
  have line (device : Device) : after.line device =
      if device = visit.device then floor.line visit.device ++ [floor.traffic.requests]
      else floor.line device := by
    unfold Floor.line
    rw [coordinator]
    exact Coordinator.line_submit orderly.sound device
  have same_tasks (id : RequestId) (old : id ≠ floor.traffic.requests) :
      after.tasksOf id = floor.tasksOf id := by
    rw [tasks, if_neg fun both => old both.1, List.append_nil]
  have no_tasks : floor.tasksOf floor.traffic.requests = [] :=
    orderly.quiet _ fun device first => nowhere device (List.mem_of_head? first)
  constructor
  case rest => exact turnstiles ▸ orderly.rest
  case sound => exact queued.sound
  case single => exact queued.single
  case waiting => exact queued.waiting
  case numbered => exact queued.numbered
  case turn =>
    intro device
    have turn := orderly.turn device
    unfold Floor.submittedTo Floor.begunAt Floor.decidedAt at turn ⊢
    rw [turnstiles, line, submitted, begun, decided, Floor.ofDevice_append,
      Floor.ofDevice_singleton]
    -- The new request stood in no line, so the first of each line keeps its task.
    have same (first : RequestId) (head : (floor.line device).head? = some first) :
        after.tasksOf first = floor.tasksOf first :=
      same_tasks first fun new => nowhere device (new ▸ List.mem_of_head? head)
    by_cases here : device = visit.device
    · rw [if_pos here, if_pos here, ← here]
      refine turn.joins same fun empty => ?_
      rw [tasks, if_pos ⟨rfl, here ▸ empty⟩, no_tasks, List.nil_append]
    · rw [if_neg here, if_neg here, List.append_nil]
      exact turn.mono id same
  case quiet =>
    intro id not_first
    have before (device : Device) : (floor.line device).head? ≠ some id := fun first => by
      refine not_first device ?_
      rw [line]
      split
      · next equal => rw [← equal, List.head?_append, first, Option.some_or]
      · exact first
    rw [tasks, orderly.quiet id before, List.nil_append]
    refine if_neg fun ⟨new, empty⟩ => not_first visit.device ?_
    rw [line, if_pos rfl, empty, new]
    rfl
  case plain => exact plain

/-- The task of a request that is taken: it is the only one, and its request is first in line. -/
structure Taken (floor : Floor) (task : Task) (id : RequestId) (visit : Visit)
    (waiting : List RequestId) (rest : List Task) : Prop where
  line : floor.line visit.device = id :: waiting
  known : floor.visit? id = some visit
  only : floor.tasksOf id = [task]
  none_left : Agenda.owned Task.request? id rest = []
  others : ∀ other, other ≠ id → Agenda.owned Task.request? other rest = floor.tasksOf other
  old : ∀ task ∈ rest, task ∈ floor.tasks

theorem Taken.first {task : Task} {id : RequestId} {visit : Visit} {waiting : List RequestId}
    {rest : List Task} (taken : Taken floor task id visit waiting rest) :
    id ∈ floor.line visit.device := by
  rw [taken.line]
  exact List.mem_cons_self

theorem Floor.mem_of_mem_rest {front back : List Task} {task : Task}
    (whole : floor.tasks = front ++ task :: back) :
    ∀ other ∈ front ++ back, other ∈ floor.tasks := by
  intro other present
  rw [whole]
  rcases List.mem_append.mp present with before | behind
  · exact List.mem_append_left _ before
  · exact List.mem_append_right _ (List.mem_cons_of_mem _ behind)

theorem Orderly.take (orderly : Orderly floor) {front back : List Task} {task : Task}
    {id : RequestId} (whole : floor.tasks = front ++ task :: back)
    (mine : task.request? = some id) :
    ∃ visit waiting, Taken floor task id visit waiting (front ++ back) := by
  have member : task ∈ floor.tasksOf id := by
    refine Agenda.mem_owned.mpr ⟨?_, mine⟩
    rw [whole]
    exact List.mem_append_right front List.mem_cons_self
  rcases orderly.head_of_task (List.ne_nil_of_mem member) with ⟨device, waiting, line⟩
  have first : id ∈ floor.line device := by
    rw [line]
    exact List.mem_cons_self
  rcases (orderly.waiting device id).mp first with ⟨visit, known, rfl⟩
  have turn := orderly.turn visit.device
  rw [line] at turn
  have only : floor.tasksOf id = [task] := by
    rcases turn.single_task with ⟨one, tasks⟩
    rw [tasks] at member ⊢
    rw [List.mem_singleton.mp member]
  have single := only
  unfold Floor.tasksOf at single
  rw [whole] at single
  refine ⟨visit, waiting, line, known, only, (Agenda.owned_rest_of_single mine single).2,
    fun other different => ?_, Floor.mem_of_mem_rest whole⟩
  unfold Floor.tasksOf
  rw [whole]
  exact Agenda.owned_rest_of_ne
    (fun same => different (Option.some.inj (same.symm.trans mine))) front back

theorem Orderly.advance (orderly : Orderly floor) {task next : Task} {id : RequestId}
    {visit : Visit} {waiting : List RequestId} {rest : List Task}
    (taken : Taken floor task id visit waiting rest) (mine : next.request? = some id)
    (ordinary : ∀ job, next ≠ .job (.validation job))
    (locks : after.traffic.coordinator.locks = floor.traffic.coordinator.locks)
    (visits : after.traffic.coordinator.visits = floor.traffic.coordinator.visits)
    (requests : after.traffic.requests = floor.traffic.requests)
    (tasks : after.tasks = rest ++ [next]) (submitted : after.submitted = floor.submitted)
    (at_rest : after.turnstiles.AtRest)
    (idle : ∀ device, device ≠ visit.device → floor.turnstiles.state device = .idle →
      after.turnstiles.state device = .idle)
    (begun : ∀ device, device ≠ visit.device → after.begunAt device = floor.begunAt device)
    (decided : ∀ device, device ≠ visit.device →
      after.decidedAt device = floor.decidedAt device)
    (turn : after.tasksOf id = [next] →
      Turn (after.turnstiles.state visit.device = .idle) after.tasksOf (id :: waiting)
        (floor.submittedTo visit.device) (after.begunAt visit.device)
        (after.decidedAt visit.device)) : Orderly after := by
  have line (device : Device) : after.line device = floor.line device :=
    congrArg (·.line device) locks
  have queued : after.traffic.coordinator.Queued after.traffic.requests :=
    requests ▸ orderly.queued.congr locks visits
  have mine_now : after.tasksOf id = [next] := by
    unfold Floor.tasksOf
    rw [tasks, Agenda.owned_append, taken.none_left, Agenda.owned_cons_self mine]
    rfl
  have others (other : RequestId) (different : other ≠ id) :
      after.tasksOf other = floor.tasksOf other := by
    unfold Floor.tasksOf
    have not_mine : next.request? ≠ some other := fun same =>
      different (Option.some.inj (same.symm.trans mine))
    rw [tasks, Agenda.owned_append, taken.others other different,
      Agenda.owned_cons_of_ne not_mine]
    exact List.append_nil _
  have submitted_same (device : Device) : after.submittedTo device = floor.submittedTo device := by
    unfold Floor.submittedTo
    rw [submitted]
  constructor
  case rest => exact at_rest
  case sound => exact queued.sound
  case single => exact queued.single
  case waiting => exact queued.waiting
  case numbered => exact queued.numbered
  case turn =>
    intro device
    rw [line, submitted_same]
    by_cases here : device = visit.device
    · rw [here, taken.line]
      exact turn mine_now
    · rw [begun device here, decided device here]
      refine (orderly.turn device).mono (idle device here) fun first head => others first ?_
      rintro rfl
      exact here (orderly.queued.device_eq (List.mem_of_head? head) taken.first)
  case quiet =>
    intro other nowhere
    have different : other ≠ id := by
      rintro rfl
      refine nowhere visit.device ?_
      rw [line, taken.line]
      rfl
    rw [others other different]
    exact orderly.quiet other fun device => line device ▸ nowhere device
  case plain =>
    intro job member
    rw [tasks] at member
    rcases List.mem_append.mp member with before | last
    · exact orderly.plain job (taken.old _ before)
    · exact ordinary job (List.mem_singleton.mp last).symm

end Gatehouse
