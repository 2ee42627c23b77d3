import Gatehouse.Proofs.Turnstile.Limit

/-!
# The record of turnstiles

What the ledger shows of a turnstile is read off the events that it has accepted since the turnstile
was last forgotten (`Entry.Records`). Each event goes on from where the one before it led, so they
are a walk from idle (`State.IsWalk`), of which the history is the end. A journal keeps the
outcomes of all events beside the ledger, and the entries agree with it after whatever calls
(`Journal.IsRecorded`).
-/

namespace Gatehouse.Turnstile

/-- Whether a transition leads to another state. -/
def Transition.moves (transition : Transition) : Bool :=
  transition.after != transition.before

namespace State

/-- Transitions of the table, each from the state to which the one before it led. -/
def IsWalk : State → List Transition → Prop
  | _, [] => True
  | state, transition :: rest =>
      transition.before = state ∧ state.next transition.event = some transition.after ∧
        transition.after.IsWalk rest

def last (state : State) (transitions : List Transition) : State :=
  (transitions.getLast?.map Transition.after).getD state

theorem last_cons (state : State) (transition : Transition) (rest : List Transition) :
    state.last (transition :: rest) = transition.after.last rest := by
  cases rest with
  | nil => rfl
  | cons next rest => simp [last, List.getLast?_cons]

theorem isWalk_append {state : State} {front back : List Transition} :
    state.IsWalk (front ++ back) ↔ state.IsWalk front ∧ (state.last front).IsWalk back := by
  induction front generalizing state with
  | nil => simp [IsWalk, last]
  | cons transition rest induction =>
      rw [List.cons_append, IsWalk, IsWalk, induction, last_cons]
      tauto

theorem IsWalk.drop {state : State} {transitions : List Transition}
    (walk : state.IsWalk transitions) (count : Nat) :
    ∃ first : State, first.IsWalk (transitions.drop count) ∧ (count = 0 → first = state) := by
  rw [← List.take_append_drop count transitions, isWalk_append] at walk
  refine ⟨_, walk.2, ?_⟩
  rintro rfl
  rfl

theorem IsWalk.exists_moves {transitions : List Transition} (walk : idle.IsWalk transitions)
    (some_made : transitions ≠ []) :
    ∃ transition, (transitions.filter Transition.moves).getLast? = some transition := by
  cases transitions with
  | nil => exact absurd rfl some_made
  | cons transition rest =>
      obtain ⟨before, possible, -⟩ := walk
      have moves : transition.moves = true := by
        rw [Transition.moves, before]
        cases event : transition.event <;> simp_all [State.next]
        simp [← possible]
      rw [List.filter_cons_of_pos moves, List.getLast?_cons]
      exact ⟨_, rfl⟩

end State

/-- An entry as it is after some transitions of its turnstile, of which it keeps the last. -/
structure Entry.Records (keep : Nat) (story : List Transition) (entry : Entry) : Prop where
  walk : State.idle.IsWalk story
  state : entry.state = State.idle.last story
  history : entry.history = (Capacity.atMost keep).keepLast story
  transitions : entry.transitions = story.length
  since : ∀ moved, (story.filter Transition.moves).getLast? = some moved →
    entry.since = moved.time

theorem records_fresh (keep : Nat) (now : Time.Instant) : (Ledger.fresh now).Records keep [] where
  walk := trivial
  state := rfl
  history := by simp [Ledger.fresh, Capacity.keepLast]
  transitions := rfl
  since := by simp

theorem Entry.Records.after {keep : Nat} {story : List Transition} {entry : Entry}
    (records : entry.Records keep story) {event : Event} {after : State}
    (possible : entry.state.next event = some after) (now : Time.Instant) :
    (Ledger.Entry.after (.atMost keep) entry ⟨entry.state, after, event, now⟩).Records keep
      (story ++ [⟨entry.state, after, event, now⟩]) where
  walk := by
    refine State.isWalk_append.mpr ⟨records.walk, records.state, ?_, trivial⟩
    rw [← records.state]
    exact possible
  state := by simp [Ledger.Entry.after, State.last]
  history := by
    simp only [Ledger.Entry.after, records.history]
    exact keepLast_append_keepLast _ _ _
  transitions := by simp [Ledger.Entry.after, records.transitions]
  since := by
    intro moved latest
    rw [List.filter_append] at latest
    by_cases stays : after = entry.state
    · have still : Transition.moves ⟨entry.state, after, event, now⟩ = false := by
        simp [Transition.moves, stays]
      rw [List.filter_singleton, still, cond_false, List.append_nil] at latest
      rw [Ledger.Entry.after, if_pos stays]
      exact records.since moved latest
    · have leads : Transition.moves ⟨entry.state, after, event, now⟩ = true := by
        simp [Transition.moves, stays]
      rw [List.filter_singleton, leads, cond_true, List.getLast?_concat] at latest
      rw [Ledger.Entry.after, if_neg stays, ← Option.some.inj latest]

namespace Ledger

def IsDistinct (entries : List (Device × Entry)) : Prop :=
  entries.Pairwise fun left right => left.1 ≠ right.1

theorem mem_place {device other : Device} {entry known : Entry} {entries : List (Device × Entry)}
    (member : (other, known) ∈ place device entry entries) :
    other = device ∨ (other, known) ∈ entries := by
  induction entries with
  | nil => exact .inl (congrArg Prod.fst (List.mem_singleton.mp member))
  | cons head rest induction =>
      rcases head with ⟨first, value⟩
      unfold place at member
      split at member
      · rcases List.mem_cons.mp member with same | old
        · exact .inl (congrArg Prod.fst same)
        · exact .inr (.tail _ old)
      · rcases List.mem_cons.mp member with same | later
        · exact .inr (same ▸ .head _)
        · exact (induction later).imp_right (.tail _)

theorem IsDistinct.place {entries : List (Device × Entry)} (distinct : IsDistinct entries)
    (device : Device) (entry : Entry) : IsDistinct (place device entry entries) := by
  induction entries with
  | nil => exact List.pairwise_singleton _ _
  | cons head rest induction =>
      rcases head with ⟨other, known⟩
      obtain ⟨behind, distinctRest⟩ := List.pairwise_cons.mp distinct
      unfold Ledger.place
      split
      · next same => exact List.pairwise_cons.mpr ⟨same ▸ behind, distinctRest⟩
      · next different =>
          refine List.pairwise_cons.mpr ⟨fun later member => ?_, induction distinctRest⟩
          rcases mem_place member with same | old
          · exact same ▸ different
          · exact behind later old

theorem known?_eq_some {ledger : Ledger} (distinct : IsDistinct ledger.entries) {device : Device}
    {entry : Entry} : ledger.known? device = some entry ↔ (device, entry) ∈ ledger.entries := by
  rw [known?]
  generalize ledger.entries = entries at distinct ⊢
  induction entries with
  | nil => simp
  | cons head rest induction =>
      rcases head with ⟨other, known⟩
      obtain ⟨behind, distinctRest⟩ := List.pairwise_cons.mp distinct
      by_cases same : other = device
      · subst same
        have absent (value : Entry) : (other, value) ∉ rest := fun member =>
          behind (other, value) member rfl
        simp [absent, eq_comm]
      · have different : ¬device = other := fun equal => same equal.symm
        simpa [same, different] using induction distinctRest

theorem mem_snapshot {ledger : Ledger} (distinct : IsDistinct ledger.entries)
    {shown : Snapshot} :
    shown ∈ ledger.snapshot ↔
      ∃ entry, ledger.known? shown.device = some entry ∧ shown = entry.snapshot shown.device := by
  simp only [snapshot, List.mem_map, List.mem_mergeSort, Prod.exists]
  constructor
  · rintro ⟨device, entry, member, rfl⟩
    exact ⟨entry, (known?_eq_some distinct).mpr member, rfl⟩
  · rintro ⟨entry, found, same⟩
    exact ⟨shown.device, entry, (known?_eq_some distinct).mp found, same.symm⟩

theorem IsDistinct.snapshot {ledger : Ledger} (distinct : IsDistinct ledger.entries) :
    ledger.snapshot.Pairwise fun left right => left.device.number < right.device.number := by
  let goesFirst (left right : Device × Entry) : Bool := left.1.number ≤ right.1.number
  have trans (first second third : Device × Entry) (before : goesFirst first second = true)
      (next : goesFirst second third = true) : goesFirst first third = true := by
    simp only [goesFirst, decide_eq_true_eq] at before next ⊢
    exact Nat.le_trans before next
  have total (left right : Device × Entry) :
      (goesFirst left right || goesFirst right left) = true := by
    simpa [goesFirst] using Nat.le_total left.1.number right.1.number
  have sorted := List.pairwise_mergeSort trans total ledger.entries
  have same := (List.mergeSort_perm ledger.entries goesFirst).symm
  have apart : (ledger.entries.mergeSort goesFirst).Pairwise fun left right => left.1 ≠ right.1 :=
    same.pairwise distinct fun different => different.symm
  refine List.pairwise_map.mpr ((sorted.and apart).imp ?_)
  rintro left right ⟨ordered, different⟩
  have differs : left.1.number ≠ right.1.number := fun equal => different (Device.ext_number equal)
  exact Nat.lt_of_le_of_ne (of_decide_eq_true ordered) differs

theorem known?_forget (ledger : Ledger) (device other : Device) :
    (ledger.forget device).known? other =
      if other = device then none else ledger.known? other := by
  simp only [known?, forget, List.find?_filter]
  split
  · next same => simp [same]
  · next different =>
      congr 2
      funext entry
      by_cases found : entry.1 = other
      · simp [found, different]
      · simp [found]

/-- What can be done to a ledger. -/
inductive Call where
  | apply (now : Time.Instant) (device : Device) (event : Event)
  | forget (device : Device)

end Ledger

/-- A ledger, and what became of the events of each turnstile since it was last forgotten. -/
structure Journal where
  ledger : Ledger
  outcomes : List (Device × Except Fault Transition)

namespace Journal

open Ledger

def start (limit : Number) : Journal :=
  { ledger := .ofLimit limit, outcomes := [] }

def enter (journal : Journal) : Call → Journal
  | .apply now device event =>
      let (ledger, outcome) := journal.ledger.apply now device event
      { ledger := ledger, outcomes := journal.outcomes ++ [(device, outcome)] }
  | .forget device =>
      { ledger := journal.ledger.forget device
        outcomes := journal.outcomes.filter fun (other, _) => other != device }

def enterAll (journal : Journal) (calls : List Call) : Journal :=
  calls.foldl enter journal

/-- Whether a turnstile was asked for an event since it was last forgotten. -/
def Asked (journal : Journal) (device : Device) : Prop :=
  ∃ outcome, (device, outcome) ∈ journal.outcomes

/-- The transitions of a turnstile since it was last forgotten. -/
def accepted (journal : Journal) (device : Device) : List Transition :=
  journal.outcomes.filterMap fun (other, outcome) =>
    if other = device then outcome.toOption else none

structure IsRecorded (keep : Nat) (journal : Journal) : Prop where
  capacity : journal.ledger.capacity = .atMost keep
  distinct : IsDistinct journal.ledger.entries
  known : ∀ device entry, journal.ledger.known? device = some entry →
    journal.Asked device ∧ entry.Records keep (journal.accepted device)
  unknown : ∀ device, journal.ledger.known? device = none → ¬journal.Asked device

theorem accepted_of_not_asked {journal : Journal} {device : Device}
    (unasked : ¬journal.Asked device) : journal.accepted device = [] := by
  refine List.filterMap_eq_nil_iff.mpr ?_
  rintro ⟨other, outcome⟩ member
  have different : ¬other = device := by
    rintro rfl
    exact unasked ⟨outcome, member⟩
  exact if_neg different

namespace IsRecorded

variable {keep : Nat} {journal : Journal}

theorem start (limit : Int) :
    IsRecorded (max 1 limit.toNat) (Journal.start (.ofInt limit)) where
  capacity := by simp [Journal.start, ofLimit, Capacity.ofNumber, Number.ofInt]
  distinct := .nil
  known _ _ found := by cases found
  unknown _ _ := by simp [Asked, Journal.start]

theorem entry (recorded : IsRecorded keep journal) (now : Time.Instant) (device : Device) :
    ((journal.ledger.known? device).getD (fresh now)).Records keep (journal.accepted device) := by
  cases found : journal.ledger.known? device with
  | none =>
      rw [accepted_of_not_asked (recorded.unknown device found)]
      exact records_fresh keep now
  | some entry => exact (recorded.known device entry found).2

theorem put (recorded : IsRecorded keep journal) {device : Device} {entry : Entry}
    {outcome : Except Fault Transition}
    (records : entry.Records keep (journal.accepted device ++ outcome.toOption.toList)) :
    IsRecorded keep
      { ledger := journal.ledger.put device entry
        outcomes := journal.outcomes ++ [(device, outcome)] } := by
  have accepted (other : Device) :
      accepted ⟨journal.ledger.put device entry, journal.outcomes ++ [(device, outcome)]⟩ other =
        journal.accepted other ++ if other = device then outcome.toOption.toList else [] := by
    rw [Journal.accepted, List.filterMap_append]
    by_cases same : device = other
    · cases outcome <;> simp [same, Except.toOption, Journal.accepted]
    · have different : ¬other = device := fun equal => same equal.symm
      simp [same, different, Journal.accepted]
  have asked (other : Device) :
      Asked ⟨journal.ledger.put device entry, journal.outcomes ++ [(device, outcome)]⟩ other ↔
        journal.Asked other ∨ other = device := by
    simp only [Asked, List.mem_append, List.mem_singleton, Prod.mk.injEq, exists_or]
    simp
  refine ⟨recorded.capacity, recorded.distinct.place device entry, ?_, ?_⟩
  · intro other known found
    rw [asked, accepted]
    rw [known?_put] at found
    split at found
    · next same =>
        obtain rfl := Option.some.inj found
        rw [if_pos same, same]
        exact ⟨.inr rfl, records⟩
    · next different =>
        rw [if_neg different, List.append_nil]
        have old := recorded.known other known found
        exact ⟨.inl old.1, old.2⟩
  · intro other absent
    rw [asked]
    rw [known?_put] at absent
    split at absent
    · cases absent
    · next different =>
        rintro (earlier | same)
        · exact recorded.unknown other absent earlier
        · exact different same

theorem apply (recorded : IsRecorded keep journal) (now : Time.Instant) (device : Device)
    (event : Event) : IsRecorded keep (journal.enter (.apply now device event)) := by
  have records := recorded.entry now device
  rw [enter]
  rcases journal.ledger.apply_cases now device event with ⟨_, refused⟩ | ⟨after, possible, moved⟩
  · rw [refused]
    exact recorded.put (by simpa [Except.toOption] using records)
  · rw [moved, recorded.capacity]
    rw [← state_getD_fresh journal.ledger now device] at possible ⊢
    exact recorded.put (records.after possible now)

theorem forget (recorded : IsRecorded keep journal) (device : Device) :
    IsRecorded keep (journal.enter (.forget device)) := by
  have asked (other : Device) :
      (journal.enter (.forget device)).Asked other ↔ journal.Asked other ∧ other ≠ device := by
    simp [Asked, enter]
  have accepted (other : Device) (different : other ≠ device) :
      (journal.enter (.forget device)).accepted other = journal.accepted other := by
    rw [Journal.accepted, enter, List.filterMap_filter]
    refine List.filterMap_congr fun outcome _ => ?_
    by_cases found : outcome.1 = other
    · simp [found, different]
    · simp [found]
  refine ⟨recorded.capacity, recorded.distinct.filter _, ?_, ?_⟩
  · intro other entry found
    rw [enter, known?_forget] at found
    split at found
    · cases found
    · next different =>
        rw [asked, accepted other different]
        have old := recorded.known other entry found
        exact ⟨⟨old.1, different⟩, old.2⟩
  · intro other absent
    rw [enter, known?_forget] at absent
    rw [asked]
    split at absent
    · next same => exact fun asked => asked.2 same
    · exact fun asked => recorded.unknown other absent asked.1

theorem enterAll (recorded : IsRecorded keep journal) (calls : List Call) :
    IsRecorded keep (journal.enterAll calls) := by
  induction calls generalizing journal with
  | nil => exact recorded
  | cons call rest induction =>
      cases call with
      | apply now device event => exact induction (recorded.apply now device event)
      | forget device => exact induction (recorded.forget device)

theorem asked_iff (recorded : IsRecorded keep journal) (device : Device) :
    journal.Asked device ↔ ∃ shown ∈ journal.ledger.snapshot, shown.device = device := by
  simp only [mem_snapshot recorded.distinct]
  cases found : journal.ledger.known? device with
  | none =>
      refine iff_of_false (recorded.unknown device found) ?_
      rintro ⟨shown, ⟨entry, known, -⟩, rfl⟩
      simp [found] at known
  | some entry =>
      exact iff_of_true (recorded.known device entry found).1
        ⟨entry.snapshot device, ⟨entry, found, rfl⟩, rfl⟩

theorem state (recorded : IsRecorded keep journal) (device : Device) :
    journal.ledger.state device = State.idle.last (journal.accepted device) := by
  rw [← state_getD_fresh journal.ledger (.moment 0) device]
  exact (recorded.entry _ device).state

theorem history (recorded : IsRecorded keep journal) (device : Device) :
    journal.ledger.history device =
      (journal.accepted device).drop ((journal.accepted device).length - keep) := by
  rw [← history_getD_fresh journal.ledger (.moment 0) device]
  exact (recorded.entry _ device).history

end IsRecorded

end Journal

namespace Ledger

variable (ledger : Ledger) (now : Time.Instant) (device : Device) (event : Event)

theorem canApply_iff :
    ledger.canApply device event = true ↔
      ∃ transition, (ledger.apply now device event).2 = .ok transition := by
  rw [canApply]
  rcases ledger.apply_cases now device event with ⟨refused, same⟩ | ⟨after, possible, moved⟩
  · simp [refused, same]
  · simp [possible, moved]

theorem apply_ok {transition : Transition}
    (accepted : (ledger.apply now device event).2 = .ok transition) :
    transition.event = event ∧ transition.time = now := by
  rcases ledger.apply_cases now device event with ⟨_, same⟩ | ⟨after, _, moved⟩
  · simp [same] at accepted
  · rw [moved] at accepted
    cases accepted
    exact ⟨rfl, rfl⟩

/-- An event that is refused changes nothing of any turnstile that was seen before. -/
theorem apply_refused {fault : Fault}
    (refused : (ledger.apply now device event).2 = .error fault) :
    fault = .transition device (ledger.state device) event ∧
      ∀ other, (ledger.apply now device event).1.known? other = ledger.known? other ∨
        other = device ∧ ledger.known? other = none ∧
          (ledger.apply now device event).1.known? other = some (fresh now) := by
  rcases ledger.apply_cases now device event with ⟨_, same⟩ | ⟨after, _, moved⟩
  · rw [same] at refused ⊢
    cases refused
    refine ⟨rfl, fun other => ?_⟩
    rw [known?_put]
    split
    · next equal =>
        subst equal
        cases found : ledger.known? other with
        | none => exact .inr ⟨rfl, rfl, rfl⟩
        | some entry => exact .inl rfl
    · exact .inl rfl
  · simp [moved] at refused

end Ledger

/-- After whatever calls: the history of a turnstile is the last of the transitions that it made
since it was forgotten, a walk that begins idle unless it is cut; its state is where they led, and
the snapshot shows it with their number and the time of the last that led to another state, each
turnstile that was asked for an event once and in the order of addresses. An event is possible
exactly when it can be applied, and changes nothing else where it cannot. -/
theorem ledger_records (limit : Int) (calls : List Ledger.Call) :
    let journal := (Journal.start (.ofInt limit)).enterAll calls
    let keep := max 1 limit.toNat
    (∀ device,
      let accepted := journal.accepted device
      let history := journal.ledger.history device
      history = accepted.drop (accepted.length - keep) ∧
      (∃ first : State, first.IsWalk history ∧ (accepted.length ≤ keep → first = .idle)) ∧
      journal.ledger.state device = (accepted.getLast?.map Transition.after).getD .idle ∧
      (journal.Asked device ↔ ∃ shown ∈ journal.ledger.snapshot, shown.device = device) ∧
      ∀ shown ∈ journal.ledger.snapshot, shown.device = device →
        shown.state = journal.ledger.state device ∧ shown.transitions = accepted.length ∧
        (accepted ≠ [] → ∃ moved, (accepted.filter Transition.moves).getLast? = some moved ∧
          shown.since = moved.time)) ∧
    journal.ledger.snapshot.Pairwise
      (fun left right => left.device.number < right.device.number) ∧
    ∀ now device event,
      let result := journal.ledger.apply now device event
      (journal.ledger.canApply device event = true ↔ ∃ transition, result.2 = .ok transition) ∧
      (∀ transition, result.2 = .ok transition →
        transition.event = event ∧ transition.time = now) ∧
      ∀ fault, result.2 = .error fault →
        fault = .transition device (journal.ledger.state device) event ∧
        ∀ other, result.1.known? other = journal.ledger.known? other ∨
          other = device ∧ journal.ledger.known? other = none ∧
            result.1.known? other = some (Ledger.fresh now) := by
  intro journal keep
  have recorded : journal.IsRecorded keep := (Journal.IsRecorded.start limit).enterAll calls
  refine ⟨fun device => ?_, recorded.distinct.snapshot, fun now device event => ?_⟩
  · have records := recorded.entry (.moment 0) device
    refine ⟨recorded.history device, ?_, recorded.state device, recorded.asked_iff device, ?_⟩
    · obtain ⟨first, walk, whole⟩ := records.walk.drop ((journal.accepted device).length - keep)
      rw [← recorded.history device] at walk
      exact ⟨first, walk, fun short => whole (Nat.sub_eq_zero_of_le short)⟩
    · rintro shown listed rfl
      obtain ⟨entry, found, same⟩ := (Ledger.mem_snapshot recorded.distinct).mp listed
      have records := (recorded.known shown.device entry found).2
      rw [same]
      refine ⟨records.state.trans (recorded.state shown.device).symm, records.transitions, ?_⟩
      intro some_made
      obtain ⟨moved, latest⟩ := records.walk.exists_moves some_made
      exact ⟨moved, latest, records.since moved latest⟩
  · exact ⟨journal.ledger.canApply_iff now device event,
      fun transition => journal.ledger.apply_ok now device event,
      fun fault => journal.ledger.apply_refused now device event⟩

namespace Journal

def nearGate : Device := ⟨4, by decide⟩

def farGate : Device := ⟨6, by decide⟩

/-- The far gate is opened, keeps waiting, and refuses a reset. The near gate was opened as well,
but is forgotten, and refuses a report when it is seen again. -/
def twoGates : List Ledger.Call :=
  [.apply (.moment 10) farGate .grant, .apply (.moment 20) nearGate .grant,
    .apply (.moment 30) farGate .waiting, .apply (.moment 40) farGate .reset,
    .forget nearGate, .apply (.moment 50) nearGate .completed]

end Journal

open Journal in
/-- With one transition kept, the one that moved the far gate is no longer in its history. -/
theorem ledger_records_of_two_gates :
    let journal := (Journal.start (.ofInt 1)).enterAll twoGates
    journal.accepted farGate =
        [⟨.idle, .waitingRotation, .grant, .moment 10⟩,
          ⟨.waitingRotation, .waitingRotation, .waiting, .moment 30⟩] ∧
      journal.ledger.history farGate =
        [⟨.waitingRotation, .waitingRotation, .waiting, .moment 30⟩] ∧
      journal.ledger.state farGate = .waitingRotation ∧
      journal.ledger.snapshot =
        [⟨nearGate, .idle, .moment 50, 0⟩, ⟨farGate, .waitingRotation, .moment 10, 2⟩] ∧
      journal.ledger.canApply farGate .reset = false := by
  intro journal
  obtain ⟨records, -, refuses⟩ := ledger_records 1 twoGates
  obtain ⟨history, -, state, -⟩ := records farGate
  have accepted : journal.accepted farGate =
      [⟨.idle, .waitingRotation, .grant, .moment 10⟩,
        ⟨.waitingRotation, .waitingRotation, .waiting, .moment 30⟩] := by
    decide +kernel
  rw [accepted] at history state
  have entries : journal.ledger.entries =
      [(farGate, ⟨.waitingRotation, .moment 10,
          [⟨.waitingRotation, .waitingRotation, .waiting, .moment 30⟩], 2⟩),
        (nearGate, ⟨.idle, .moment 50, [], 0⟩)] := by
    decide +kernel
  refine ⟨accepted, history, state, ?_, ?_⟩
  · rw [Ledger.snapshot, entries]
    simp [List.mergeSort, Entry.snapshot, nearGate, farGate]
  · rw [← Bool.not_eq_true, (refuses (.moment 60) farGate .reset).1]
    rintro ⟨transition, accepted⟩
    cases accepted

end Gatehouse.Turnstile
