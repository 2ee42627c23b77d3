import Gatehouse.Proofs.Traffic.Sessions
import Gatehouse.Proofs.Turnstile.Limit

/-!
# One at a time

Whatever the order in which things happen, the requests of one device have their turns one after
another and in the order of submission. `Floor.Step` lists what a move can come to, and
`Orderly.playAll` says that a floor in order stays in order.
-/

namespace Gatehouse

open Access

variable {floor : Floor} {rest : List Task}

theorem Orderly.put (orderly : Orderly floor)
    (left : ∀ id, Agenda.owned Task.request? id rest = floor.tasksOf id)
    (old : ∀ task ∈ rest, task ∈ floor.tasks)
    {outcome : Traffic × Agenda.Line TrafficJob} {turnstiles : Turnstile.Controller}
    (turned : floor.traffic.Turned outcome.1 turnstiles)
    (calm : floor.turnstiles.Calm turnstiles)
    (jobs : ∀ job ∈ outcome.2, job.2.isHandling = true) : Orderly (floor.put rest outcome) := by
  have same : (floor.put rest outcome).turnstiles = turnstiles := turned.turnstiles
  refine orderly.calm (same ▸ calm) turned.locks turned.visits turned.requests (fun id => ?_)
    (floor.submitted_put rest turned.requests) rfl rfl fun job member => ?_
  · show Agenda.owned _ id (rest ++ outcome.2.map fun entry => Task.job entry.2) = _
    have none_added : Agenda.owned Task.request? id
        (outcome.2.map fun entry => Task.job entry.2) = [] := by
      refine List.filter_eq_nil_iff.mpr fun task member => ?_
      rcases List.mem_map.mp member with ⟨job, present, rfl⟩
      rw [Task.request?_of_handling (jobs job present)]
      simp
    rw [Agenda.owned_append, left, none_added, List.append_nil]
  · rcases List.mem_append.mp member with before | added
    · exact orderly.plain job (old _ before)
    · rcases List.mem_map.mp added with ⟨added, present, equal⟩
      have ofSession := jobs added present
      rw [Task.job.inj equal] at ofSession
      cases ofSession

theorem Orderly.put_submitted (orderly : Orderly floor)
    (left : ∀ id, Agenda.owned Task.request? id rest = floor.tasksOf id)
    (old : ∀ task ∈ rest, task ∈ floor.tasks)
    {outcome : Traffic × Agenda.Line TrafficJob} {visit : Visit}
    (submitted : floor.traffic.Submitted outcome.1 visit outcome.2) :
    Orderly (floor.put rest outcome) := by
  have known : outcome.1.coordinator.visit? floor.traffic.requests = some visit := by
    rw [submitted.coordinator, Coordinator.visit?_submit, orderly.queued.fresh.1, if_pos rfl,
      Option.none_or]
  refine orderly.submit visit submitted.coordinator submitted.requests (fun id => ?_) ?_ rfl rfl
    fun job member => ?_
  · show Agenda.owned _ id (rest ++ outcome.2.map fun entry => Task.job entry.2) = _
    rw [Agenda.owned_append, left, submitted.jobs]
    congr 1
    show _ = if id = _ ∧ floor.traffic.coordinator.locks.line visit.device = [] then _ else _
    cases floor.traffic.coordinator.locks.line visit.device with
    | nil =>
        by_cases same : id = floor.traffic.requests
        · subst same
          simp [Agenda.owned, Task.request?]
        · have other : ¬floor.traffic.requests = id := fun equal => same equal.symm
          simp [Agenda.owned, Task.request?, same, other]
    | cons first behind => simp [Agenda.owned]
  · show floor.submitted ++ Floor.newcomers floor.traffic outcome.1 = _
    rw [Floor.newcomers, if_pos (by rw [submitted.requests]; exact Nat.lt_succ_self _),
      Floor.place?_eq known]
  · rcases List.mem_append.mp member with before | added
    · exact orderly.plain job (old _ before)
    · rw [submitted.jobs] at added
      split at added
      · simp at added
      · cases added

theorem Floor.owned_rest {front back : List Task} {job : TrafficJob}
    (whole : floor.tasks = front ++ .job job :: back) (nobody : (Task.job job).request? = none)
    (id : RequestId) :
    Agenda.owned Task.request? id (front ++ back) = floor.tasksOf id := by
  have none : (Task.job job).request? ≠ some id := by
    rw [nobody]
    nofun
  unfold Floor.tasksOf
  rw [whole, Agenda.owned_rest_of_ne none]

theorem Traffic.turned_ring (traffic : Traffic) (clock : Agenda.Clock) (device : Device) :
    traffic.Turned (traffic.ring clock (.rotation device)).1
      (traffic.coordinator.turnstiles.ring clock device).1 :=
  ⟨rfl, rfl, rfl, rfl, rfl⟩

theorem Floor.play_ring_none (floor : Floor) (clock : Agenda.Clock)
    (next : floor.turnstiles.alarms.timers.next? = none) : floor.play (.ring clock) = floor := by
  simp only [Floor.play, next]

theorem Floor.play_ring_some (floor : Floor) (clock : Agenda.Clock)
    {timer : Agenda.Pending Device} (next : floor.turnstiles.alarms.timers.next? = some timer) :
    floor.play (.ring clock) =
      floor.put floor.tasks (floor.traffic.ring clock (.rotation timer.item)) := by
  simp only [Floor.play, next]

/-- What a move comes to: nothing at all, something about sessions and turnstiles alone, a visit
that comes in, or a step of the first request in a line. -/
inductive Floor.Step (floor : Floor) : Floor → Prop
  | nothing : Step floor floor
  | aside {rest : List Task} {outcome : Traffic × Agenda.Line TrafficJob}
      {turnstiles : Turnstile.Controller} :
      (∀ id, Agenda.owned Task.request? id rest = floor.tasksOf id) →
      (∀ task ∈ rest, task ∈ floor.tasks) →
      floor.traffic.Turned outcome.1 turnstiles → floor.turnstiles.Calm turnstiles →
      (∀ job ∈ outcome.2, job.2.isHandling = true) → Step floor (floor.put rest outcome)
  | joins {rest : List Task} {outcome : Traffic × Agenda.Line TrafficJob} {visit : Visit} :
      (∀ id, Agenda.owned Task.request? id rest = floor.tasksOf id) →
      (∀ task ∈ rest, task ∈ floor.tasks) →
      floor.traffic.Submitted outcome.1 visit outcome.2 → Step floor (floor.put rest outcome)
  | begins {id : RequestId} {visit : Visit} {waiting : List RequestId} {rest : List Task} :
      Taken floor (.job (.begin id)) id visit waiting rest → (clock : Agenda.Clock) →
      Step floor (floor.begin clock rest id)
  | settles {id : RequestId} {visit : Visit} {waiting : List RequestId} {rest : List Task} :
      Taken floor (.verdict id) id visit waiting rest → (clock : Agenda.Clock) →
      (outcome : Except Fault Decision) → Step floor (floor.settle clock rest id outcome)
  | departs {id : RequestId} {visit : Visit} {waiting : List RequestId} {rest : List Task}
      {result : Except Fault Outcome} :
      Taken floor (.job (.depart id result)) id visit waiting rest →
      Step floor (floor.put rest (floor.traffic.depart id result))

theorem Orderly.step_work (orderly : Orderly floor) (clock : Agenda.Clock) (place : Nat) :
    floor.Step (floor.work clock place) := by
  unfold Floor.work
  cases found : floor.tasks[place]? with
  | none => exact .nothing
  | some task =>
      rcases Agenda.Pool.split_at found with ⟨front, back, whole, erased⟩
      rw [erased]
      cases task with
      | verdict id => exact .nothing
      | job job =>
          cases job with
          | validation job =>
              refine absurd ?_ (orderly.plain job)
              rw [whole]
              exact List.mem_append_right _ List.mem_cons_self
          | begin id =>
              rcases orderly.take whole rfl with ⟨visit, waiting, taken⟩
              exact .begins taken clock
          | depart id result =>
              rcases orderly.take whole rfl with ⟨visit, waiting, taken⟩
              exact .departs taken
          | answered id result =>
              rcases floor.traffic.turned_answer id result with ⟨turned, jobs⟩
              exact .aside (Floor.owned_rest whole rfl) (Floor.mem_of_mem_rest whole) turned
                (.refl orderly.rest) jobs
          | handle session =>
              rcases floor.traffic.handle_cases clock orderly.rest session with
                ⟨turnstiles, turned, calm, jobs⟩ | ⟨visit, submitted⟩
              · exact .aside (Floor.owned_rest whole rfl) (Floor.mem_of_mem_rest whole) turned
                  calm jobs
              · exact .joins (Floor.owned_rest whole rfl) (Floor.mem_of_mem_rest whole) submitted
          | handled session fault =>
              rcases floor.traffic.turned_finish session fault with ⟨turned, jobs⟩
              exact .aside (Floor.owned_rest whole rfl) (Floor.mem_of_mem_rest whole) turned
                (.refl orderly.rest) jobs

theorem Orderly.step_decide (orderly : Orderly floor) (clock : Agenda.Clock) (place : Nat)
    (outcome : Except Fault Decision) : floor.Step (floor.decide clock place outcome) := by
  unfold Floor.decide
  cases found : floor.tasks[place]? with
  | none => exact .nothing
  | some task =>
      rcases Agenda.Pool.split_at found with ⟨front, back, whole, erased⟩
      rw [erased]
      cases task with
      | job job => exact .nothing
      | verdict id =>
          rcases orderly.take whole rfl with ⟨visit, waiting, taken⟩
          exact .settles taken clock outcome

theorem Orderly.step_play (orderly : Orderly floor) (move : FloorMove) :
    floor.Step (floor.play move) := by
  have left : ∀ id, Agenda.owned Task.request? id floor.tasks = floor.tasksOf id := fun _ => rfl
  have old : ∀ task ∈ floor.tasks, task ∈ floor.tasks := fun _ member => member
  have calm : floor.turnstiles.Calm floor.turnstiles := .refl orderly.rest
  have none : ∀ job ∈ ([] : Agenda.Line TrafficJob), job.2.isHandling = true :=
    List.forall_mem_nil _
  cases move with
  | connect session => exact .aside left old ⟨rfl, rfl, rfl, rfl, rfl⟩ calm none
  | receive session chunk =>
      rcases floor.traffic.turned_receive session chunk with ⟨turned, jobs⟩
      exact .aside left old turned calm jobs
  | close session =>
      exact .aside left old (floor.traffic.turned_close session) calm none
  | visit visit => exact .joins left old (floor.traffic.submitted_submit visit)
  | work clock place => exact orderly.step_work clock place
  | decide clock place outcome => exact orderly.step_decide clock place outcome
  | report clock device status =>
      exact .aside left old ⟨rfl, rfl, rfl, rfl, rfl⟩ (orderly.rest.report status) none
  | ring clock =>
      cases next : floor.turnstiles.alarms.timers.next? with
      | none =>
          rw [floor.play_ring_none clock next]
          exact .nothing
      | some timer =>
          rw [floor.play_ring_some clock next]
          exact .aside left old (floor.traffic.turned_ring clock timer.item)
            (orderly.rest.ring next) none

theorem Orderly.step (orderly : Orderly floor) {after : Floor} (step : floor.Step after) :
    Orderly after := by
  cases step with
  | nothing => exact orderly
  | aside left old turned calm jobs => exact orderly.put left old turned calm jobs
  | joins left old submitted => exact orderly.put_submitted left old submitted
  | begins taken clock => exact orderly.begin taken clock
  | settles taken clock outcome => exact orderly.settle taken clock outcome
  | departs taken => exact orderly.depart taken

theorem Orderly.playAll (orderly : Orderly floor) (moves : List FloorMove) :
    Orderly (floor.playAll moves) := by
  induction moves generalizing floor with
  | nil => exact orderly
  | cons move later induction => exact induction (orderly.step (orderly.step_play move))

end Gatehouse
