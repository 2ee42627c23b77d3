import Gatehouse.Proofs.Traffic.Turns

/-!
# The steps of requests

What it does to the floor that a request gets its turn, is decided, or leaves: `Orderly.begin`,
`Orderly.settle` and `Orderly.depart`. Only a granted decision opens a turnstile, and it finds the
turnstile idle.
-/

namespace Gatehouse

open Access

namespace Coordinator

variable (coordinator : Coordinator) (clock : Agenda.Clock) (visit : Visit) (audience : Audience)

def turnstilesAfter (outcome : Except Fault Decision) : Turnstile.Controller :=
  if Floor.isGranted outcome then (coordinator.turnstiles.grant clock visit.device).1
  else coordinator.turnstiles

theorem coordinator_settle (outcome : Except Fault Decision) :
    (coordinator.settle clock visit audience outcome).coordinator =
      { coordinator with turnstiles := coordinator.turnstilesAfter clock visit outcome } := by
  unfold settle turnstilesAfter
  cases outcome with
  | error fault => rfl
  | ok decision =>
      by_cases granted : decision.isGrant = true
      · simp only [Floor.isGranted, granted, if_true]
        rcases coordinator.turnstiles.grant clock visit.device with ⟨moved, fault | step⟩ <;> rfl
      · simp only [Floor.isGranted, granted]
        rfl

end Coordinator

/-- What becomes of the traffic when only the turnstiles of its coordinator change. -/
structure Traffic.Turned (before after : Traffic) (turnstiles : Turnstile.Controller) : Prop where
  turnstiles : after.coordinator.turnstiles = turnstiles
  askers : after.askers = before.askers
  locks : after.coordinator.locks = before.coordinator.locks
  visits : after.coordinator.visits = before.coordinator.visits
  requests : after.requests = before.requests

namespace Traffic

variable {traffic : Traffic} {id : RequestId} {visit : Visit}

theorem turned_begin (known : traffic.coordinator.visit? id = some visit)
    (clock : Agenda.Clock) :
    traffic.Turned (traffic.begin clock id).1
      (traffic.coordinator.turnstiles.recoverStale clock visit.device).1 := by
  unfold begin
  rw [known]
  exact ⟨rfl, rfl, rfl, rfl, rfl⟩

theorem turned_settle (known : traffic.coordinator.visit? id = some visit)
    (clock : Agenda.Clock) (outcome : Except Fault Decision) :
    traffic.Turned (traffic.settle clock id outcome).1
        (traffic.coordinator.turnstilesAfter clock visit outcome) ∧
      (traffic.settle clock id outcome).2 = [(0, .depart id
        (traffic.coordinator.settle clock visit traffic.announcer.audience outcome).result)] := by
  have settled :=
    traffic.coordinator.coordinator_settle clock visit traffic.announcer.audience outcome
  unfold settle
  simp only [known]
  generalize traffic.coordinator.settle clock visit traffic.announcer.audience outcome = result
    at settled
  rcases result with ⟨coordinator, result, notices, event⟩
  subst settled
  cases event with
  | none => exact ⟨⟨rfl, rfl, rfl, rfl, rfl⟩, trivial⟩
  | some event => exact ⟨⟨rfl, rfl, rfl, rfl, rfl⟩, trivial⟩

theorem depart_eq (known : traffic.coordinator.visit? id = some visit)
    (result : Except Fault Outcome) :
    traffic.depart id result =
      ({ traffic with coordinator := (traffic.coordinator.depart id visit).1 },
        ((traffic.coordinator.locks.line visit.device).tail.head?.toList.map
          fun other => (1, .begin other)) ++ [(0, .answered id result)]) := by
  have next : (traffic.coordinator.locks.line visit.device).tail.head? =
      (traffic.coordinator.depart id visit).2 := rfl
  unfold depart
  simp only [known, next]
  rcases traffic.coordinator.depart id visit with ⟨coordinator, none | other⟩ <;> rfl

end Traffic

namespace Floor

theorem place?_eq {traffic : Traffic} {id : RequestId} {visit : Visit}
    (known : traffic.coordinator.visit? id = some visit) :
    place? traffic id = [(visit.device, id)] := by
  unfold place?
  rw [known]
  rfl

theorem traffic_depart {floor : Floor} {id : RequestId} {visit : Visit}
    (known : floor.traffic.coordinator.visit? id = some visit) (rest : List Task)
    (result : Except Fault Outcome) :
    (floor.put rest (floor.traffic.depart id result)).traffic =
      { floor.traffic with coordinator := (floor.traffic.coordinator.depart id visit).1 } := by
  rw [Traffic.depart_eq known]
  rfl

theorem turnstiles_depart {floor : Floor} {id : RequestId} {visit : Visit}
    (known : floor.traffic.coordinator.visit? id = some visit) (rest : List Task)
    (result : Except Fault Outcome) :
    (floor.put rest (floor.traffic.depart id result)).turnstiles = floor.turnstiles := by
  unfold turnstiles
  rw [traffic_depart known]
  rfl

/-- When a request leaves, the next one of its device is called, and its result is passed on. -/
theorem tasks_depart {floor : Floor} {id : RequestId} {visit : Visit}
    (known : floor.traffic.coordinator.visit? id = some visit) (rest : List Task)
    (result : Except Fault Outcome) :
    (floor.put rest (floor.traffic.depart id result)).tasks =
      rest ++ ((floor.line visit.device).tail.head?.toList.map (fun other => .job (.begin other)) ++
        [.job (.answered id result)]) := by
  rw [Traffic.depart_eq known]
  simp [put, line, Function.comp_def]

theorem submitted_put (floor : Floor) (rest : List Task)
    {outcome : Traffic × Agenda.Line TrafficJob}
    (same : outcome.1.requests = floor.traffic.requests) :
    (floor.put rest outcome).submitted = floor.submitted := by
  show floor.submitted ++ newcomers floor.traffic outcome.1 = floor.submitted
  rw [newcomers, if_neg (by omega), List.append_nil]

end Floor

variable {floor : Floor} {id : RequestId} {visit : Visit} {waiting : List RequestId}
  {rest : List Task}

theorem Floor.ofDevice_append_other {device : Device} (different : device ≠ visit.device)
    (entries : List (Device × RequestId)) :
    Floor.ofDevice device (entries ++ [(visit.device, id)]) = Floor.ofDevice device entries := by
  rw [Floor.ofDevice_append, Floor.ofDevice_singleton, if_neg different, List.append_nil]

theorem Floor.ofDevice_append_self (entries : List (Device × RequestId)) :
    Floor.ofDevice visit.device (entries ++ [(visit.device, id)]) =
      Floor.ofDevice visit.device entries ++ [id] := by
  rw [Floor.ofDevice_append, Floor.ofDevice_singleton, if_pos rfl]

theorem Orderly.begin (orderly : Orderly floor)
    (taken : Taken floor (.job (.begin id)) id visit waiting rest) (clock : Agenda.Clock) :
    Orderly (floor.begin clock rest id) := by
  have turned := Traffic.turned_begin taken.known clock
  obtain ⟨calm, idle⟩ : floor.turnstiles.Calm
      (floor.turnstiles.recoverStale clock visit.device).1 ∧
        (floor.turnstiles.recoverStale clock visit.device).1.state visit.device = .idle :=
    orderly.rest.recoverStale
  have turnstiles : (floor.begin clock rest id).turnstiles =
      (floor.turnstiles.recoverStale clock visit.device).1 := turned.turnstiles
  have begun : (floor.begin clock rest id).begun = floor.begun ++ [(visit.device, id)] :=
    congrArg (floor.begun ++ ·) (Floor.place?_eq taken.known)
  refine orderly.advance taken rfl (by rintro job ⟨⟩) turned.locks turned.visits
    turned.requests rfl rfl (turnstiles ▸ calm.rest)
    (fun device _ was_idle => turnstiles ▸ calm.idle device was_idle) (fun device different => ?_)
    (fun _ _ => rfl) fun task => ?_
  · unfold Floor.begunAt
    rw [begun, Floor.ofDevice_append_other different]
  · have turn := orderly.turn visit.device
    unfold Floor.begunAt at turn ⊢
    rw [taken.line] at turn
    rw [begun, Floor.ofDevice_append_self, turnstiles]
    exact turn.begins taken.only idle task

theorem Orderly.idle_of_verdict (orderly : Orderly floor)
    (taken : Taken floor (.verdict id) id visit waiting rest) :
    floor.turnstiles.state visit.device = .idle := by
  have turn := orderly.turn visit.device
  rw [taken.line] at turn
  exact turn.idle_of_verdict taken.only

/-- What a decision does to the turnstiles: it opens the one of its device, or does nothing. -/
theorem Orderly.turnstilesAfter (orderly : Orderly floor)
    (taken : Taken floor (.verdict id) id visit waiting rest) (clock : Agenda.Clock)
    (outcome : Except Fault Decision) :
    (floor.traffic.coordinator.turnstilesAfter clock visit outcome).AtRest ∧
      (floor.traffic.coordinator.turnstilesAfter clock visit outcome).ledger.capacity =
        floor.turnstiles.ledger.capacity ∧
      (∀ device, device ≠ visit.device →
        (floor.traffic.coordinator.turnstilesAfter clock visit outcome).state device =
          floor.turnstiles.state device) ∧
      (floor.turnstiles.ledger.capacity = .unlimited → ∀ device,
        (floor.traffic.coordinator.turnstilesAfter clock visit outcome).grants device =
          floor.turnstiles.grants device +
            if device = visit.device ∧ Floor.isGranted outcome = true then 1 else 0) := by
  unfold Coordinator.turnstilesAfter
  split
  · next granted =>
      simp only [granted, and_true]
      exact orderly.rest.grant (orderly.idle_of_verdict taken)
  · next denied =>
      refine ⟨orderly.rest, rfl, fun _ _ => rfl, fun _ device => ?_⟩
      rw [if_neg fun both => denied both.2]
      rfl

theorem Orderly.settle (orderly : Orderly floor)
    (taken : Taken floor (.verdict id) id visit waiting rest) (clock : Agenda.Clock)
    (outcome : Except Fault Decision) : Orderly (floor.settle clock rest id outcome) := by
  rcases Traffic.turned_settle taken.known clock outcome with ⟨turned, job⟩
  rcases orderly.turnstilesAfter taken clock outcome with ⟨at_rest, -, states, -⟩
  have turnstiles : (floor.settle clock rest id outcome).turnstiles =
      floor.traffic.coordinator.turnstilesAfter clock visit outcome := turned.turnstiles
  have decided : (floor.settle clock rest id outcome).decided =
      floor.decided ++ [(visit.device, id, outcome)] :=
    congrArg (fun entries => floor.decided ++ List.map _ entries) (Floor.place?_eq taken.known)
  have submitted : (floor.settle clock rest id outcome).submitted = floor.submitted :=
    floor.submitted_put rest turned.requests
  have tasks : (floor.settle clock rest id outcome).tasks = rest ++ [.job (.depart id
      (floor.traffic.coordinator.settle clock visit floor.traffic.announcer.audience
        outcome).result)] := by
    show rest ++ List.map _ (floor.traffic.settle clock id outcome).2 = _
    rw [job]
    rfl
  refine orderly.advance taken rfl (by rintro job ⟨⟩) turned.locks turned.visits turned.requests
    tasks submitted (turnstiles ▸ at_rest) (fun device different idle => ?_) (fun _ _ => rfl)
    (fun device different => ?_) fun task => ?_
  · rw [turnstiles, states device different, idle]
  · unfold Floor.decidedAt
    rw [decided, List.map_append]
    exact Floor.ofDevice_append_other different _
  · have turn := orderly.turn visit.device
    rw [taken.line] at turn
    have appended : (floor.settle clock rest id outcome).decidedAt visit.device =
        floor.decidedAt visit.device ++ [id] := by
      unfold Floor.decidedAt
      rw [decided, List.map_append]
      exact Floor.ofDevice_append_self _
    rw [appended]
    exact turn.settles taken.only task

/-- When a request leaves, it has no task any more, and the next one in line is called. -/
theorem Taken.tasksOf_depart {after : Floor} {task : Task} {result : Except Fault Outcome}
    (taken : Taken floor task id visit waiting rest)
    (tasks : after.tasks = rest ++ (waiting.head?.toList.map (fun other => .job (.begin other)) ++
      [.job (.answered id result)])) (other : RequestId) :
    after.tasksOf other = (if other = id then [] else floor.tasksOf other) ++
      if waiting.head? = some other then [.job (.begin other)] else [] := by
  have kept : Agenda.owned Task.request? other rest =
      if other = id then [] else floor.tasksOf other := by
    split
    · next same => exact same ▸ taken.none_left
    · next different => exact taken.others other different
  have called : Agenda.owned Task.request? other
      (waiting.head?.toList.map fun next => .job (.begin next)) =
        if waiting.head? = some other then [.job (.begin other)] else [] := by
    rw [Agenda.owned_map_toList]
    exact fun _ => rfl
  have not_answered : (Task.job (.answered id result)).request? ≠ some other := by
    intro same
    cases same
  unfold Floor.tasksOf
  rw [tasks, Agenda.owned_append, Agenda.owned_append, Agenda.owned_cons_of_ne not_answered, kept,
    called]
  exact congrArg _ (List.append_nil _)

/-- A request leaves. The next one in line, if any, is called. -/
theorem Orderly.depart (orderly : Orderly floor) {result : Except Fault Outcome}
    (taken : Taken floor (.job (.depart id result)) id visit waiting rest) :
    Orderly (floor.put rest (floor.traffic.depart id result)) := by
  have behind : (floor.line visit.device).tail = waiting := congrArg List.tail taken.line
  have tasks := floor.tasks_depart taken.known rest result
  rw [behind] at tasks
  rw [Traffic.depart_eq taken.known] at tasks ⊢
  generalize gone : floor.put rest _ = after at tasks ⊢
  have queued : after.traffic.coordinator.Queued after.traffic.requests := by
    rw [← gone]
    exact orderly.queued.depart taken.line
  have line (device : Device) : after.line device =
      if device = visit.device then waiting else floor.line device := by
    rw [← gone, ← behind]
    exact Coordinator.line_depart orderly.sound device
  have turnstiles : after.turnstiles = floor.turnstiles := by
    rw [← gone]
    rfl
  have not_behind : id ∉ waiting := orderly.queued.not_behind taken.line
  have tasks_of := taken.tasksOf_depart tasks
  -- Who stands behind is first in no line, and so has no task yet.
  have not_first {other : RequestId} (next : waiting.head? = some other) (device : Device) :
      (floor.line device).head? ≠ some other := fun head => by
    have member := List.mem_of_head? next
    have here := orderly.queued.device_eq (List.mem_of_head? head)
      (show other ∈ floor.line visit.device from taken.line ▸ List.mem_cons_of_mem id member)
    rw [here, taken.line] at head
    exact not_behind (Option.some.inj head ▸ member)
  constructor
  case rest => exact turnstiles ▸ orderly.rest
  case sound => exact queued.sound
  case single => exact queued.single
  case waiting => exact queued.waiting
  case numbered => exact queued.numbered
  case turn =>
    intro device
    have submitted : after.submittedTo device = floor.submittedTo device := by
      unfold Floor.submittedTo
      rw [← gone, floor.submitted_put rest rfl]
    have begun : after.begunAt device = floor.begunAt device := by
      rw [← gone]
      rfl
    have decided : after.decidedAt device = floor.decidedAt device := by
      rw [← gone]
      rfl
    have turn := orderly.turn device
    rw [turnstiles, line, submitted, begun, decided]
    split
    · next here =>
        rw [here] at turn ⊢
        rw [taken.line] at turn
        refine turn.departs taken.only fun other next => ?_
        have later : other ≠ id := fun same => not_behind (same ▸ List.mem_of_head? next)
        rw [tasks_of, if_neg later, orderly.quiet other (not_first next), if_pos next,
          List.nil_append]
    · next elsewhere =>
        refine turn.mono (fun idle => idle) fun other head => ?_
        have different : other ≠ id := fun same =>
          elsewhere (orderly.queued.device_eq (same ▸ List.mem_of_head? head) taken.first)
        rw [tasks_of, if_neg different, if_neg fun next => not_first next device head,
          List.append_nil]
  case quiet =>
    intro other nowhere
    have not_next : waiting.head? ≠ some other := by
      have := nowhere visit.device
      rwa [line, if_pos rfl] at this
    rw [tasks_of, if_neg not_next, List.append_nil]
    split
    · rfl
    · next different =>
        refine orderly.quiet other fun device head => ?_
        by_cases here : device = visit.device
        · rw [here, taken.line] at head
          exact different (Option.some.inj head).symm
        · have := nowhere device
          rw [line, if_neg here] at this
          exact this head
  case plain =>
    intro job member
    rw [tasks] at member
    rcases List.mem_append.mp member with before | added
    · exact orderly.plain job (taken.old _ before)
    · simp at added

end Gatehouse
