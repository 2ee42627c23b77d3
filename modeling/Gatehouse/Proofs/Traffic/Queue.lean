import Gatehouse.Coordinator
import Gatehouse.Proofs.Association
import Gatehouse.Proofs.Lock.Lines

/-!
# The lines of requests

A coordinator knows a visit for each request that stands in a line, and the line is that of the
device of the visit. `Queued` says this and that requests are numbered as they come; a new request
joins one line at its end, and the first of a line leaves it.
-/

namespace Gatehouse.Coordinator

/-- Requests stand in the lines of their devices, once each; as many as `requests` came so far. -/
structure Queued (coordinator : Coordinator) (requests : RequestId) : Prop where
  sound : coordinator.locks.Sound
  single : ∀ device, (coordinator.locks.line device).Nodup
  waiting : ∀ device id, id ∈ coordinator.locks.line device ↔
    ∃ visit, coordinator.visit? id = some visit ∧ visit.device = device
  numbered : ∀ id visit, coordinator.visit? id = some visit → id < requests

variable {coordinator after : Coordinator} {requests id : RequestId} {visit : Visit}

theorem line_submit (sound : coordinator.locks.Sound) (device : Device) :
    (coordinator.submit id visit).1.locks.line device =
      if device = visit.device then coordinator.locks.line visit.device ++ [id]
      else coordinator.locks.line device :=
  Lock.line_acquire sound visit.device device id

theorem visit?_submit (other : RequestId) :
    (coordinator.submit id visit).1.visit? other =
      (coordinator.visit? other).or (if other = id then some visit else none) :=
  Association.lookup_concat other id visit coordinator.visits

theorem line_depart (sound : coordinator.locks.Sound) (device : Device) :
    (coordinator.depart id visit).1.locks.line device =
      if device = visit.device then (coordinator.locks.line visit.device).tail
      else coordinator.locks.line device :=
  Lock.line_release sound visit.device device

theorem visit?_depart (other : RequestId) :
    (coordinator.depart id visit).1.visit? other =
      if other = id then none else coordinator.visit? other :=
  Association.lookup_filter_ne other id coordinator.visits

namespace Queued

theorem device_eq (queued : coordinator.Queued requests) {device other : Device}
    (here : id ∈ coordinator.locks.line device) (there : id ∈ coordinator.locks.line other) :
    device = other := by
  rcases (queued.waiting device id).mp here with ⟨visit, known, rfl⟩
  rcases (queued.waiting other id).mp there with ⟨same, also, rfl⟩
  cases known.symm.trans also
  rfl

theorem fresh (queued : coordinator.Queued requests) :
    coordinator.visit? requests = none ∧ ∀ device, requests ∉ coordinator.locks.line device := by
  have unknown : coordinator.visit? requests = none := by
    cases known : coordinator.visit? requests with
    | none => rfl
    | some visit => exact absurd (queued.numbered _ visit known) (Nat.lt_irrefl _)
  refine ⟨unknown, fun device member => ?_⟩
  rcases (queued.waiting device _).mp member with ⟨visit, known, -⟩
  cases unknown.symm.trans known

theorem congr (queued : coordinator.Queued requests) (locks : after.locks = coordinator.locks)
    (visits : after.visits = coordinator.visits) : after.Queued requests := by
  have known (id : RequestId) : after.visit? id = coordinator.visit? id :=
    congrArg (·.lookup id) visits
  constructor
  case sound => exact locks ▸ queued.sound
  case single => exact locks ▸ queued.single
  case waiting =>
    intro device id
    rw [locks, known]
    exact queued.waiting device id
  case numbered =>
    intro id visit found
    rw [known] at found
    exact queued.numbered id visit found

theorem submit (queued : coordinator.Queued requests) (visit : Visit) :
    (coordinator.submit requests visit).1.Queued (requests + 1) := by
  rcases queued.fresh with ⟨unknown, nowhere⟩
  constructor
  case sound => exact queued.sound.acquire _ _
  case single => exact Lock.nodup_acquire queued.sound queued.single (nowhere _)
  case waiting =>
    intro device id
    rw [visit?_submit, line_submit queued.sound]
    by_cases new : id = requests
    · rw [new, unknown, if_pos rfl, Option.none_or]
      constructor
      · intro member
        split at member
        · next equal => exact ⟨visit, rfl, equal.symm⟩
        · exact absurd member (nowhere device)
      · rintro ⟨known, same, rfl⟩
        cases same
        rw [if_pos rfl]
        exact List.mem_append_right _ List.mem_cons_self
    · rw [if_neg new, Option.or_none, ← queued.waiting]
      split
      · next equal =>
          rw [equal, List.mem_append, List.mem_singleton]
          exact ⟨fun member => member.resolve_right new, .inl⟩
      · exact Iff.rfl
  case numbered =>
    intro id known found
    rw [visit?_submit] at found
    by_cases new : id = requests
    · exact new ▸ Nat.lt_succ_self _
    · rw [if_neg new, Option.or_none] at found
      exact Nat.lt_succ_of_lt (queued.numbered id known found)

theorem not_behind (queued : coordinator.Queued requests) {device : Device}
    {waiting : List RequestId} (line : coordinator.locks.line device = id :: waiting) :
    id ∉ waiting := by
  have single := queued.single device
  rw [line] at single
  exact (List.nodup_cons.mp single).1

theorem depart (queued : coordinator.Queued requests) {waiting : List RequestId}
    (line : coordinator.locks.line visit.device = id :: waiting) :
    (coordinator.depart id visit).1.Queued requests := by
  have first : id ∈ coordinator.locks.line visit.device := line ▸ List.mem_cons_self
  constructor
  case sound => exact queued.sound.release visit.device
  case single => exact Lock.nodup_release queued.sound queued.single visit.device
  case waiting =>
    intro device other
    rw [visit?_depart, line_depart queued.sound, line]
    by_cases same : other = id
    · rw [if_pos same, same]
      constructor
      · intro member
        split at member
        · exact absurd member (queued.not_behind line)
        · next elsewhere => exact absurd (queued.device_eq member first) elsewhere
      · rintro ⟨known, found, -⟩
        cases found
    · rw [if_neg same, ← queued.waiting]
      split
      · next here => rw [here, line, List.mem_cons, or_iff_right same, List.tail_cons]
      · exact Iff.rfl
  case numbered =>
    intro other known found
    rw [visit?_depart] at found
    split at found
    · cases found
    · exact queued.numbered other known found

end Queued

end Gatehouse.Coordinator
