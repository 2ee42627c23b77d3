import Gatehouse.Agenda.Machine
import Mathlib.Data.List.Basic
import Mathlib.Data.List.Perm.Basic

/-!
# Jobs in any order

Many activities that have at most one job each go on side by side: `owned` picks the jobs of one
owner, and its lemmas say how taking one job off a list and adding others shows in them.

A run takes its ready jobs in the order of one line. Here any job that is ready may be performed
next, so what is proved of every choice of jobs does not depend on rounds or on places in the line.
The runs of a machine are among these: `turns_eq_working`.
-/

namespace Gatehouse.Agenda

section

variable {Job Owner : Type} [DecidableEq Owner] (owner? : Job → Option Owner)

def owned (id : Owner) (jobs : List Job) : List Job :=
  jobs.filter fun job => owner? job = some id

variable {owner?} {id : Owner} {job : Job}

theorem owned_append (left right : List Job) :
    owned owner? id (left ++ right) = owned owner? id left ++ owned owner? id right :=
  List.filter_append ..

theorem owned_cons_self (mine : owner? job = some id) (jobs : List Job) :
    owned owner? id (job :: jobs) = job :: owned owner? id jobs := by
  simp [owned, mine]

theorem owned_cons_of_ne (other : owner? job ≠ some id) (jobs : List Job) :
    owned owner? id (job :: jobs) = owned owner? id jobs := by
  simp [owned, other]

theorem mem_owned {jobs : List Job} :
    job ∈ owned owner? id jobs ↔ job ∈ jobs ∧ owner? job = some id := by
  simp [owned]

theorem owned_map_toList {make : Owner → Job} (mine : ∀ id, owner? (make id) = some id)
    (next : Option Owner) (id : Owner) :
    owned owner? id (next.toList.map make) = if next = some id then [make id] else [] := by
  cases next with
  | none => rfl
  | some other => by_cases same : other = id <;> simp [owned, mine, same]

theorem owned_if (mine : owner? job = some id) (other : Owner) (made : Bool) :
    owned owner? other ((if made then [(0, job)] else [] : List (Nat × Job)).map Prod.snd) =
      if id = other ∧ made then [job] else [] := by
  cases made <;> by_cases same : id = other <;> simp [owned, mine, same]

theorem owned_rest_of_ne (other : owner? job ≠ some id) (front back : List Job) :
    owned owner? id (front ++ back) = owned owner? id (front ++ job :: back) := by
  rw [owned_append, owned_append, owned_cons_of_ne other]

/-- Where a job is the only one of its owner, nothing else is left when it is taken away. -/
theorem owned_rest_of_single {front back : List Job} {only : Job}
    (mine : owner? job = some id) (single : owned owner? id (front ++ job :: back) = [only]) :
    only = job ∧ owned owner? id (front ++ back) = [] := by
  rw [owned_append, owned_cons_self mine] at single
  have empty : (owned owner? id front).length + (owned owner? id back).length = 0 := by
    have := congrArg List.length single
    simp only [List.length_append, List.length_cons, List.length_nil] at this
    omega
  have front_empty : owned owner? id front = [] := List.eq_nil_of_length_eq_zero (by omega)
  have back_empty : owned owner? id back = [] := List.eq_nil_of_length_eq_zero (by omega)
  rw [front_empty, back_empty] at single
  refine ⟨?_, by rw [owned_append, front_empty, back_empty, List.append_nil]⟩
  simpa using single.symm

end

variable {State Job Alarm : Type}

structure Pool (State Job : Type) where
  state : State
  ready : List Job

namespace Pool

/-- Puts the outcome of something that happened into place. -/
def after (pool : Pool State Job) (outcome : State × Line Job) : Pool State Job :=
  { state := outcome.1, ready := pool.ready ++ outcome.2.map Prod.snd }

/-- Performs the job at a place among those that are ready; nothing happens where there is none. -/
def work (perform : Clock → Job → State → State × Line Job) (clock : Clock) (place : Nat)
    (pool : Pool State Job) : Pool State Job :=
  match pool.ready[place]? with
  | some job =>
      { pool with ready := pool.ready.eraseIdx place }.after (perform clock job pool.state)
  | none => pool

theorem split_at {ready : List Job} {place : Nat} {job : Job} (found : ready[place]? = some job) :
    ∃ front back, ready = front ++ job :: back ∧ ready.eraseIdx place = front ++ back := by
  rcases List.getElem?_eq_some_iff.mp found with ⟨inside, rfl⟩
  refine ⟨ready.take place, ready.drop (place + 1), ?_, List.eraseIdx_eq_take_drop_succ ..⟩
  rw [← List.drop_eq_getElem_cons inside, List.take_append_drop]

theorem work_cases (perform : Clock → Job → State → State × Line Job) (clock : Clock)
    (place : Nat) (pool : Pool State Job) :
    pool.work perform clock place = pool ∨
      ∃ front job back, pool.ready[place]? = some job ∧ pool.ready = front ++ job :: back ∧
        pool.work perform clock place =
          { state := (perform clock job pool.state).1
            ready := front ++ back ++ (perform clock job pool.state).2.map Prod.snd } := by
  unfold work
  cases found : pool.ready[place]? with
  | none => exact .inl rfl
  | some job =>
      rcases split_at found with ⟨front, back, whole, erased⟩
      exact .inr ⟨front, job, back, rfl, whole, by simp only [after, erased]⟩

def workAll (perform : Clock → Job → State → State × Line Job) (pool : Pool State Job)
    (places : List (Clock × Nat)) : Pool State Job :=
  places.foldl (fun pool (clock, place) => pool.work perform clock place) pool

def Mirrors (pool : Pool State Job) (run : Run State Job) : Prop :=
  pool.state = run.state ∧ pool.ready.Perm (run.line.map Prod.snd)

theorem mirrors_turn (machine : Machine State Job Alarm) {pool : Pool State Job}
    {run : Run State Job} (mirrors : pool.Mirrors run) :
    ∃ places, (pool.workAll machine.perform places).Mirrors (machine.turn run) := by
  rcases mirrors with ⟨same, ready⟩
  unfold Machine.turn
  split
  · exact ⟨[], same, ready⟩
  · next rounds job rest line =>
      refine ⟨[], same, ready.trans ?_⟩
      rw [line]
      simp only [List.map_cons, List.map_append, List.map_nil]
      exact (List.perm_append_singleton job _).symm
  · next job rest line =>
      rw [line, List.map_cons] at ready
      have member : job ∈ pool.ready := ready.symm.subset List.mem_cons_self
      rcases List.mem_iff_getElem?.mp member with ⟨place, found⟩
      rcases split_at found with ⟨front, back, whole, erased⟩
      refine ⟨[(run.clock, place)], ?_⟩
      have others : (front ++ back).Perm (rest.map Prod.snd) := by
        rw [whole] at ready
        exact (List.perm_middle.symm.trans ready).cons_inv
      simp only [workAll, List.foldl_cons, List.foldl_nil, work, found, after, Run.after, Mirrors,
        same, erased, List.map_append, true_and]
      exact others.append_right _

theorem turns_eq_working (machine : Machine State Job Alarm) (budget : Nat)
    {pool : Pool State Job} {run : Run State Job} (mirrors : pool.Mirrors run) :
    ∃ places, (pool.workAll machine.perform places).Mirrors (machine.turns budget run) := by
  induction budget generalizing pool run with
  | zero => exact ⟨[], mirrors⟩
  | succ budget induction =>
      unfold Machine.turns
      split
      · exact ⟨[], mirrors⟩
      · rcases mirrors_turn machine mirrors with ⟨first, mirrored⟩
        rcases induction mirrored with ⟨rest, done⟩
        refine ⟨first ++ rest, ?_⟩
        simpa only [workAll, List.foldl_append] using done

end Pool

end Gatehouse.Agenda
