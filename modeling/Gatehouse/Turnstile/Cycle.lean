import Gatehouse.Command

/-!
# The rotation cycle

A turnstile is idle until a grant opens it. It then waits for a rotation, which completes or times
out, and a reset makes it idle again. The table says which event moves which state; every event
that moves a state at all leads to one fixed state.
-/

namespace Gatehouse.Turnstile

inductive State where
  | idle
  | waitingRotation
  | rotationCompleted
  | rotationTimeout
  deriving DecidableEq

inductive Event where
  | grant
  | waiting
  | completed
  | timeout
  | reset
  deriving DecidableEq

namespace State

def name : State → String
  | .idle => "IDLE"
  | .waitingRotation => "WAITING_ROTATION"
  | .rotationCompleted => "ROTATION_COMPLETED"
  | .rotationTimeout => "ROTATION_TIMEOUT"

def all : List State := [.idle, .waitingRotation, .rotationCompleted, .rotationTimeout]

def next : State → Event → Option State
  | .idle, .grant => some .waitingRotation
  | .waitingRotation, .waiting => some .waitingRotation
  | .waitingRotation, .completed => some .rotationCompleted
  | .waitingRotation, .timeout => some .rotationTimeout
  | .rotationCompleted, .reset => some .idle
  | .rotationTimeout, .reset => some .idle
  | _, _ => none

end State

namespace Event

def name : Event → String
  | .grant => "GRANT"
  | .waiting => "WAITING"
  | .completed => "COMPLETED"
  | .timeout => "TIMEOUT"
  | .reset => "RESET"

def all : List Event := [.grant, .waiting, .completed, .timeout, .reset]

def target : Event → State
  | .grant => .waitingRotation
  | .waiting => .waitingRotation
  | .completed => .rotationCompleted
  | .timeout => .rotationTimeout
  | .reset => .idle

end Event

theorem State.next_eq_target {state after : State} {event : Event}
    (possible : state.next event = some after) : after = event.target := by
  cases state <;> cases event <;> simp_all [State.next, Event.target]

inductive Status where
  | waiting
  | completed
  | timeout
  deriving DecidableEq

namespace Status

def event : Status → Event
  | .waiting => .waiting
  | .completed => .completed
  | .timeout => .timeout

def ofCommand? : Command → Option Status
  | .waitingRotation => some .waiting
  | .rotationCompleted => some .completed
  | .rotationTimeout => some .timeout
  | _ => none

theorem ofCommand?_isSome (command : Command) :
    (ofCommand? command).isSome = command.isRotationStatus := by
  cases command <;> rfl

end Status

end Gatehouse.Turnstile
