import Gatehouse.Proofs.Traffic.Candid

/-!
# Results on their way

A request that leaves takes its result along. `Tidy` says that such a result is what the one
decision about the request comes to, and that requests on record are ones that have come. `Kept`
puts this beside what else moves keep of a floor.
-/

namespace Gatehouse

open Access

namespace Floor

def outcomesFor (floor : Floor) (request : RequestId) : List (Except Fault Decision) :=
  floor.decided.filterMap fun (_, other, outcome) =>
    if other = request then some outcome else none

def outcomesOf (floor : Floor) (id : SessionId) : List (Except Fault Decision) :=
  floor.decided.filterMap fun (_, request, outcome) =>
    if floor.traffic.askers.lookup request = some id then some outcome else none

variable {floor : Floor} {id : RequestId} {visit : Visit}

theorem decided_settle (known : floor.visit? id = some visit) (clock : Agenda.Clock)
    (rest : List Task) (outcome : Except Fault Decision) :
    (floor.settle clock rest id outcome).decided =
      floor.decided ++ [(visit.device, id, outcome)] :=
  congrArg (fun entries => floor.decided ++ List.map _ entries) (place?_eq known)

theorem outcomesFor_settle (known : floor.visit? id = some visit) (clock : Agenda.Clock)
    (rest : List Task) (outcome : Except Fault Decision) (request : RequestId) :
    (floor.settle clock rest id outcome).outcomesFor request =
      floor.outcomesFor request ++ if id = request then [outcome] else [] := by
  unfold outcomesFor
  rw [decided_settle known, List.filterMap_append]
  by_cases same : id = request <;> simp [same]

theorem outcomesOf_settle (known : floor.visit? id = some visit) (clock : Agenda.Clock)
    (rest : List Task) (outcome : Except Fault Decision) (session : SessionId) :
    (floor.settle clock rest id outcome).outcomesOf session =
      floor.outcomesOf session ++
        if floor.traffic.askers.lookup id = some session then [outcome] else [] := by
  have askers : (floor.settle clock rest id outcome).traffic.askers = floor.traffic.askers :=
    (Traffic.turned_settle known clock outcome).1.askers
  unfold outcomesOf
  rw [decided_settle known, askers, List.filterMap_append]
  by_cases mine : floor.traffic.askers.lookup id = some session <;> simp [mine]

theorem outcomesFor_eq_nil {request : RequestId}
    (undecided : ∀ entry ∈ floor.decided, entry.2.1 ≠ request) :
    floor.outcomesFor request = [] :=
  List.filterMap_eq_nil_iff.mpr fun entry member => if_neg (undecided entry member)

end Floor

/-- A result is what the outcome of a decision comes to at a device: the response to it, or a fault
where an announcement may fail. -/
structure Terms.Comes (terms : Terms) (device : Device) (outcome : Except Fault Decision)
    (result : Except Fault Outcome) : Prop where
  response : ∀ ended, result = .ok ended →
    ended.response = (Decision.ofOutcome outcome).response device terms.seconds
  heard : terms.heard → ∃ ended, result = .ok ended

theorem Terms.Comes.tells {terms : Terms} {device : Device} {outcome : Except Fault Decision}
    {result : Except Fault Outcome} (comes : terms.Comes device outcome result) {bytes : Bytes}
    (told : terms.codec.Tells device (result.map Outcome.response) bytes) :
    terms.Tells device outcome bytes := by
  cases result with
  | error fault =>
      have missed : ¬terms.heard := fun heard => by
        rcases comes.heard heard with ⟨ended, fine⟩
        cases fine
      cases told with
      | response same _ => cases same
      | denial _ denies => exact .denial (.inr missed) denies
  | ok ended =>
      have response := comes.response ended rfl
      cases told with
      | response same fits =>
          cases same
          exact .response (response ▸ fits)
      | denial refused denies => exact .denial (.inl (response ▸ refused _ rfl)) denies

/-- A decision about a request of a session ends with its response, or an announcement may fail. -/
theorem Traffic.Candid.comes {traffic : Traffic} {terms : Terms} (candid : traffic.Candid terms)
    {request : RequestId} {asker : SessionId} {visit : Visit}
    (asked : traffic.askers.lookup request = some asker)
    (known : traffic.coordinator.visit? request = some visit) {outcome : Except Fault Decision}
    {result : Except Fault Outcome}
    (ends : traffic.coordinator.Ends visit traffic.announcer.audience (.ofOutcome outcome)
      result) : terms.Comes visit.device outcome result where
  response ended fine := by
    have heard : ¬traffic.announcer.audience.Misses visit := fun missed => by
      rcases ends.missed missed with ⟨fault, failed⟩
      cases failed.symm.trans fine
    cases (ends.heard heard).symm.trans fine
    rw [← candid.seconds_eq]
  heard listened := ⟨_, ends.heard (candid.heard listened asked known)⟩

/-- Requests on record have come, one that is still to leave is not decided yet, and the result that
a request of a session takes along is what its one decision comes to. -/
structure Tidy (terms : Terms) (floor : Floor) : Prop where
  numbered : floor.traffic.Numbered
  came : ∀ entry ∈ floor.decided, entry.2.1 < floor.traffic.requests
  answered : ∀ request result, Task.job (.answered request result) ∈ floor.tasks →
    request < floor.traffic.requests
  undecided : ∀ request visit, floor.visit? request = some visit →
    (∀ result, Task.job (.depart request result) ∉ floor.tasks) → floor.outcomesFor request = []
  departing : ∀ request result, Task.job (.depart request result) ∈ floor.tasks →
    ∃ visit, floor.visit? request = some visit ∧
      ∀ asker, floor.traffic.askers.lookup request = some asker →
        ∃ outcome, floor.outcomesFor request = [outcome] ∧
          terms.Comes visit.device outcome result

variable {terms : Terms} {floor after : Floor}

/-- A request that leaves is still about to when tasks of no request were taken off. -/
theorem mem_rest_of_left {rest : List Task} {request : RequestId} {result : Except Fault Outcome}
    (left : Agenda.owned Task.request? request rest = floor.tasksOf request)
    (ready : Task.job (.depart request result) ∈ floor.tasks) :
    Task.job (.depart request result) ∈ rest := by
  have mine : Task.job (.depart request result) ∈ floor.tasksOf request :=
    Agenda.mem_owned.mpr ⟨ready, rfl⟩
  rw [← left] at mine
  exact (Agenda.mem_owned.mp mine).1

theorem Taken.mem_rest {task : Task} {id : RequestId} {visit : Visit} {waiting : List RequestId}
    {rest : List Task} (taken : Taken floor task id visit waiting rest) {request : RequestId}
    {result : Except Fault Outcome} (other : Task.job (.depart request result) ≠ task)
    (ready : Task.job (.depart request result) ∈ floor.tasks) :
    Task.job (.depart request result) ∈ rest := by
  by_cases same : request = id
  · have mine : Task.job (.depart request result) ∈ floor.tasksOf id :=
      Agenda.mem_owned.mpr ⟨ready, congrArg some same⟩
    rw [taken.only] at mine
    exact absurd (List.mem_singleton.mp mine) other
  · exact mem_rest_of_left (taken.others request same) ready

theorem Taken.ne_of_mem_rest {task : Task} {id : RequestId} {visit : Visit}
    {waiting : List RequestId} {rest : List Task} (taken : Taken floor task id visit waiting rest)
    {request : RequestId} {result : Except Fault Outcome}
    (ready : Task.job (.depart request result) ∈ rest) : request ≠ id := by
  rintro rfl
  have mine : Task.job (.depart request result) ∈ Agenda.owned Task.request? request rest :=
    Agenda.mem_owned.mpr ⟨ready, rfl⟩
  rw [taken.none_left] at mine
  cases mine

theorem Tidy.turned (tidy : Tidy terms floor) {turnstiles : Turnstile.Controller}
    {added : List Task} {rest : List Task}
    (turned : floor.traffic.Turned after.traffic turnstiles)
    (decided : after.decided = floor.decided)
    (old : ∀ task ∈ rest, task ∈ floor.tasks) (tasks : after.tasks = rest ++ added)
    (kept : ∀ request result, Task.job (.depart request result) ∈ floor.tasks →
      Task.job (.depart request result) ∈ rest)
    (answered : ∀ request result, Task.job (.answered request result) ∉ added)
    (departing : ∀ request result, Task.job (.depart request result) ∉ added) :
    Tidy terms after := by
  have visits (request : RequestId) : after.visit? request = floor.visit? request :=
    congrArg (·.lookup request) turned.visits
  have outcomes (request : RequestId) :
      after.outcomesFor request = floor.outcomesFor request := by
    unfold Floor.outcomesFor
    rw [decided]
  constructor
  case numbered =>
    intro request asker asked
    rw [turned.askers] at asked
    rw [turned.requests]
    exact tidy.numbered request asker asked
  case came =>
    rw [decided, turned.requests]
    exact tidy.came
  case answered =>
    intro request result member
    rw [tasks] at member
    rw [turned.requests]
    rcases List.mem_append.mp member with before | new
    · exact tidy.answered request result (old _ before)
    · exact absurd new (answered request result)
  case undecided =>
    intro request visit known stays
    rw [outcomes]
    refine tidy.undecided request visit (visits request ▸ known) fun result ready => ?_
    exact stays result (tasks ▸ List.mem_append_left _ (kept request result ready))
  case departing =>
    intro request result member
    rw [tasks] at member
    rw [visits, outcomes, turned.askers]
    rcases List.mem_append.mp member with before | new
    · exact tidy.departing request result (old _ before)
    · exact absurd new (departing request result)

theorem Tidy.aside (tidy : Tidy terms floor) {rest : List Task}
    {outcome : Traffic × Agenda.Line TrafficJob} {turnstiles : Turnstile.Controller}
    (left : ∀ id, Agenda.owned Task.request? id rest = floor.tasksOf id)
    (old : ∀ task ∈ rest, task ∈ floor.tasks)
    (turned : floor.traffic.Turned outcome.1 turnstiles)
    (jobs : ∀ job ∈ outcome.2, job.2.isHandling = true) : Tidy terms (floor.put rest outcome) := by
  have handling {job : TrafficJob}
      (member : Task.job job ∈ outcome.2.map fun entry => Task.job entry.2) :
      job.isHandling = true := by
    rcases List.mem_map.mp member with ⟨added, present, equal⟩
    rw [← Task.job.inj equal]
    exact jobs added present
  have moved : floor.traffic.Turned (floor.put rest outcome).traffic turnstiles := turned
  refine tidy.turned moved rfl old rfl (fun request result => mem_rest_of_left (left request))
    (fun request result member => ?_) fun request result member => ?_
  · cases handling member
  · cases handling member

theorem Tidy.joins (tidy : Tidy terms floor) (orderly : Orderly floor) {rest : List Task}
    {outcome : Traffic × Agenda.Line TrafficJob} {visit : Visit}
    (left : ∀ id, Agenda.owned Task.request? id rest = floor.tasksOf id)
    (old : ∀ task ∈ rest, task ∈ floor.tasks)
    (submitted : floor.traffic.Submitted outcome.1 visit outcome.2) :
    Tidy terms (floor.put rest outcome) := by
  have requests : (floor.put rest outcome).traffic.requests = floor.traffic.requests + 1 :=
    submitted.requests
  have visits (request : RequestId) : (floor.put rest outcome).visit? request =
      (floor.visit? request).or
        (if request = floor.traffic.requests then some visit else none) := by
    show outcome.1.coordinator.visit? request = _
    rw [submitted.coordinator]
    exact Association.lookup_concat request _ visit _
  have called {task : Task} (member : task ∈ outcome.2.map fun entry => Task.job entry.2) :
      task = .job (.begin floor.traffic.requests) := by
    rcases List.mem_map.mp member with ⟨job, present, rfl⟩
    rw [submitted.jobs] at present
    split at present
    · rw [List.mem_singleton.mp present]
    · cases present
  constructor
  case numbered =>
    intro request asker asked
    rw [requests]
    rcases submitted.askers request asker asked with before | new
    · exact Nat.lt_succ_of_lt (tidy.numbered request asker before)
    · rw [new]
      exact Nat.lt_succ_self _
  case came =>
    intro entry member
    rw [requests]
    exact Nat.lt_succ_of_lt (tidy.came entry member)
  case answered =>
    intro request result member
    rw [requests]
    rcases List.mem_append.mp member with before | added
    · exact Nat.lt_succ_of_lt (tidy.answered request result (old _ before))
    · cases called added
  case undecided =>
    intro request known found stays
    rw [visits] at found
    cases before : floor.visit? request with
    | some earlier =>
        refine tidy.undecided request earlier before fun result ready => ?_
        exact stays result (List.mem_append_left _ (mem_rest_of_left (left request) ready))
    | none =>
        rw [before, Option.none_or] at found
        split at found
        · next new =>
            subst new
            exact Floor.outcomesFor_eq_nil fun entry member =>
              Nat.ne_of_lt (tidy.came entry member)
        · cases found
  case departing =>
    intro request result member
    rcases List.mem_append.mp member with before | added
    · rcases tidy.departing request result (old _ before) with ⟨known, found, comes⟩
      refine ⟨known, ?_, fun asker asked => comes asker ?_⟩
      · rw [visits, found]
        rfl
      · refine (submitted.askers request asker asked).resolve_right fun new => ?_
        exact Nat.ne_of_lt (orderly.numbered request known found) new
    · cases called added

theorem Tidy.settles (tidy : Tidy terms floor) (orderly : Orderly floor)
    (candid : floor.traffic.Candid terms) {id : RequestId} {visit : Visit}
    {waiting : List RequestId} {rest : List Task}
    (taken : Taken floor (.verdict id) id visit waiting rest) (clock : Agenda.Clock)
    (outcome : Except Fault Decision) : Tidy terms (floor.settle clock rest id outcome) := by
  have turned : floor.traffic.Turned (floor.settle clock rest id outcome).traffic _ :=
    (Traffic.turned_settle taken.known clock outcome).1
  have tasks := Floor.tasks_settle taken.known clock rest outcome
  have decided := Floor.decided_settle taken.known clock rest outcome
  have outcomes := Floor.outcomesFor_settle taken.known clock rest outcome
  have ends := floor.traffic.coordinator.ends_settle visit floor.traffic.announcer.audience clock
    outcome (orderly.idle_of_verdict taken)
  generalize (floor.traffic.coordinator.settle clock visit floor.traffic.announcer.audience
    outcome).result = ending at tasks ends
  generalize floor.settle clock rest id outcome = after at turned tasks decided outcomes ⊢
  have visits (request : RequestId) : after.visit? request = floor.visit? request :=
    congrArg (·.lookup request) turned.visits
  constructor
  case numbered =>
    intro request asker asked
    rw [turned.askers] at asked
    rw [turned.requests]
    exact tidy.numbered request asker asked
  case came =>
    intro entry member
    rw [turned.requests]
    rw [decided] at member
    rcases List.mem_append.mp member with before | new
    · exact tidy.came entry before
    · rw [List.mem_singleton.mp new]
      exact orderly.numbered id visit taken.known
  case answered =>
    intro request result member
    rw [tasks] at member
    rw [turned.requests]
    rcases List.mem_append.mp member with before | new
    · exact tidy.answered request result (taken.old _ before)
    · cases List.mem_singleton.mp new
  case undecided =>
    intro request other known stays
    have different : id ≠ request := by
      rintro rfl
      refine stays ending ?_
      rw [tasks]
      exact List.mem_append_right _ List.mem_cons_self
    rw [outcomes, if_neg different, List.append_nil]
    refine tidy.undecided request other (visits request ▸ known) fun result ready => ?_
    refine stays result ?_
    rw [tasks]
    exact List.mem_append_left _ (taken.mem_rest nofun ready)
  case departing =>
    intro request result member
    rw [tasks] at member
    rw [visits, outcomes, turned.askers]
    rcases List.mem_append.mp member with before | new
    · rw [if_neg (taken.ne_of_mem_rest before).symm, List.append_nil]
      exact tidy.departing request result (taken.old _ before)
    · cases List.mem_singleton.mp new
      have none_yet : floor.outcomesFor id = [] := by
        refine tidy.undecided id visit taken.known fun result ready => ?_
        have mine : Task.job (.depart id result) ∈ floor.tasksOf id :=
          Agenda.mem_owned.mpr ⟨ready, rfl⟩
        rw [taken.only] at mine
        cases List.mem_singleton.mp mine
      refine ⟨visit, taken.known, fun asker asked => ⟨outcome, ?_, ?_⟩⟩
      · rw [none_yet, if_pos rfl]
        rfl
      · exact candid.comes asked taken.known ends

theorem Tidy.departs (tidy : Tidy terms floor) (orderly : Orderly floor) {id : RequestId}
    {visit : Visit} {waiting : List RequestId} {rest : List Task}
    {result : Except Fault Outcome}
    (taken : Taken floor (.job (.depart id result)) id visit waiting rest) :
    Tidy terms (floor.put rest (floor.traffic.depart id result)) := by
  have tasks := floor.tasks_depart taken.known rest result
  have traffic := floor.traffic_depart taken.known rest result
  have ready {task : Task}
      (member : task ∈ (floor.put rest (floor.traffic.depart id result)).tasks) :
      task ∈ rest ∨ (∃ next, task = .job (.begin next)) ∨ task = .job (.answered id result) := by
    rw [tasks] at member
    rcases List.mem_append.mp member with before | added
    · exact .inl before
    · rcases List.mem_append.mp added with call | answer
      · rcases List.mem_map.mp call with ⟨next, _, rfl⟩
        exact .inr (.inl ⟨next, rfl⟩)
      · exact .inr (.inr (List.mem_singleton.mp answer))
  have visits (request : RequestId) :
      (floor.put rest (floor.traffic.depart id result)).visit? request =
        if request = id then none else floor.visit? request := by
    unfold Floor.visit?
    rw [traffic]
    exact Association.lookup_filter_ne request id _
  constructor
  case numbered =>
    rw [traffic]
    exact tidy.numbered
  case came =>
    rw [traffic]
    exact tidy.came
  case answered =>
    intro request known member
    rw [traffic]
    rcases ready member with before | ⟨next, other⟩ | same
    · exact tidy.answered request known (taken.old _ before)
    · cases other
    · cases same
      exact orderly.numbered id visit taken.known
  case undecided =>
    intro request other known stays
    rw [visits] at known
    split at known
    · cases known
    · next different =>
        refine tidy.undecided request other known fun ending leaves => ?_
        refine stays ending (List.mem_append_left _ (taken.mem_rest ?_ leaves))
        rintro ⟨⟩
        exact different rfl
  case departing =>
    intro request known member
    rw [visits, traffic]
    rcases ready member with before | ⟨next, other⟩ | same
    · rw [if_neg (taken.ne_of_mem_rest before)]
      exact tidy.departing request known (taken.old _ before)
    · cases other
    · cases same

theorem Tidy.step (tidy : Tidy terms floor) (orderly : Orderly floor)
    (candid : floor.traffic.Candid terms) (step : floor.Step after) : Tidy terms after := by
  cases step with
  | nothing => exact tidy
  | aside left old turned calm jobs => exact tidy.aside left old turned jobs
  | joins left old submitted => exact tidy.joins orderly left old submitted
  | begins taken clock =>
      refine tidy.turned (Traffic.turned_begin taken.known clock) rfl taken.old rfl
        (fun request result => taken.mem_rest nofun) (fun request result member => ?_)
        fun request result member => ?_
      · cases List.mem_singleton.mp member
      · cases List.mem_singleton.mp member
  | settles taken clock outcome => exact tidy.settles orderly candid taken clock outcome
  | departs taken => exact tidy.departs orderly taken

/-- What all moves keep of a floor: requests go on in order, results on their way are those of the
decisions, and announcements fail only where they may. -/
structure Kept (terms : Terms) (floor : Floor) : Prop where
  orderly : Orderly floor
  tidy : Tidy terms floor
  candid : floor.traffic.Candid terms

theorem Kept.play (kept : Kept terms floor) (move : FloorMove) :
    Kept terms (floor.play move) := by
  have step := kept.orderly.step_play move
  constructor
  case orderly => exact kept.orderly.step step
  case tidy => exact kept.tidy.step kept.orderly kept.candid step
  case candid => exact kept.orderly.candid_play kept.tidy.numbered kept.candid move

theorem Kept.playAll (kept : Kept terms floor) (moves : List FloorMove) :
    Kept terms (floor.playAll moves) := by
  induction moves generalizing floor with
  | nil => exact kept
  | cons move later induction => exact induction (kept.play move)

end Gatehouse
