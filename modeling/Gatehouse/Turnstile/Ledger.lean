import Gatehouse.Capacity
import Gatehouse.Fault
import Gatehouse.Time.Instant
import Gatehouse.Turnstile.Cycle

/-!
# The ledger of turnstiles

The ledger keeps, for each turnstile seen so far, its state, the time since which it is in that
state, how many transitions it made, and the latest of them up to a limit. It refuses events that
are not possible. Entries stand in the order in which the turnstiles were first seen; a snapshot
lists them in the order of addresses.
-/

namespace Gatehouse.Turnstile

structure Transition where
  before : State
  after : State
  event : Event
  time : Time.Instant
  deriving DecidableEq

structure Entry where
  state : State
  since : Time.Instant
  history : List Transition
  transitions : Nat
  deriving DecidableEq

structure Snapshot where
  device : Device
  state : State
  since : Time.Instant
  transitions : Nat
  deriving DecidableEq

def Entry.snapshot (entry : Entry) (device : Device) : Snapshot :=
  { device := device
    state := entry.state
    since := entry.since
    transitions := entry.transitions }

structure Ledger where
  capacity : Capacity
  entries : List (Device × Entry)
  deriving DecidableEq

namespace Ledger

/-- A ledger without turnstiles that keeps at least one transition of each. -/
def ofLimit (limit : Number) : Ledger :=
  { capacity := .ofNumber 1 limit, entries := [] }

def defaultLimit : Number := .finite 100

def known? (ledger : Ledger) (device : Device) : Option Entry :=
  (ledger.entries.find? fun (other, _) => other == device).map Prod.snd

def state (ledger : Ledger) (device : Device) : State :=
  ((ledger.known? device).map Entry.state).getD .idle

def history (ledger : Ledger) (device : Device) : List Transition :=
  ((ledger.known? device).map Entry.history).getD []

def canApply (ledger : Ledger) (device : Device) (event : Event) : Bool :=
  ((ledger.state device).next event).isSome

def place (device : Device) (entry : Entry) : List (Device × Entry) → List (Device × Entry)
  | [] => [(device, entry)]
  | (other, known) :: rest =>
      if other = device then (device, entry) :: rest
      else (other, known) :: place device entry rest

def put (ledger : Ledger) (device : Device) (entry : Entry) : Ledger :=
  { ledger with entries := place device entry ledger.entries }

def fresh (now : Time.Instant) : Entry :=
  { state := .idle, since := now, history := [], transitions := 0 }

def Entry.after (capacity : Capacity) (entry : Entry) (transition : Transition) : Entry :=
  { state := transition.after
    since := if transition.after = entry.state then entry.since else transition.time
    history := capacity.keepLast (entry.history ++ [transition])
    transitions := entry.transitions + 1 }

/-- Applies an event, if it is possible. A turnstile that was not seen is entered in any case. -/
def apply (ledger : Ledger) (now : Time.Instant) (device : Device) (event : Event) :
    Ledger × Except Fault Transition :=
  let entry := (ledger.known? device).getD (fresh now)
  match entry.state.next event with
  | none => (ledger.put device entry, .error (.transition device entry.state event))
  | some after =>
      let transition : Transition :=
        { before := entry.state, after := after, event := event, time := now }
      (ledger.put device (Entry.after ledger.capacity entry transition), .ok transition)

def forget (ledger : Ledger) (device : Device) : Ledger :=
  { ledger with entries := ledger.entries.filter fun (other, _) => other != device }

def snapshot (ledger : Ledger) : List Snapshot :=
  (ledger.entries.mergeSort fun left right => left.1.number ≤ right.1.number).map
    fun (device, entry) => entry.snapshot device

theorem find?_place (device other : Device) (entry : Entry) (entries : List (Device × Entry)) :
    (place device entry entries).find? (fun (known, _) => known == other) =
      if other = device then some (device, entry)
      else entries.find? (fun (known, _) => known == other) := by
  induction entries with
  | nil =>
      by_cases same : other = device
      · simp [place, same]
      · have : ¬device = other := fun equal => same equal.symm
        simp [place, same, this]
  | cons head rest induction =>
      rcases head with ⟨known, value⟩
      unfold place
      split
      · next found =>
          subst found
          by_cases same : other = known
          · simp [same]
          · have : ¬known = other := fun equal => same equal.symm
            simp [same, this]
      · next different =>
          by_cases found : known = other
          · subst found
            simp [different]
          · simp [found, induction]

/-- Putting an entry in shows that entry for its turnstile and changes no other. -/
theorem known?_put (ledger : Ledger) (device other : Device) (entry : Entry) :
    (ledger.put device entry).known? other =
      if other = device then some entry else ledger.known? other := by
  simp only [known?, put, find?_place]
  split <;> rfl

end Ledger

end Gatehouse.Turnstile
