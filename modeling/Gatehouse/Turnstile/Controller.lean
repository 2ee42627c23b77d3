import Gatehouse.Notice
import Gatehouse.Turnstile.Alarm
import Gatehouse.Turnstile.Ledger

/-!
# The turnstile controller

The controller moves turnstiles through their cycle and keeps the alarms in step: a granted
turnstile gets an alarm, and a cycle that ends loses it. Every cycle that completes or times out is
reset at once, so the turnstile is ready for the next credential.
-/

namespace Gatehouse.Turnstile

structure Controller where
  ledger : Ledger
  alarms : Alarms
  deriving DecidableEq

namespace Controller

def start (timeout limit : Number) : Controller :=
  { ledger := .ofLimit limit, alarms := .ofTimeout timeout }

def defaultTimeout : Number := .finite 10000

def state (controller : Controller) (device : Device) : State :=
  controller.ledger.state device

def isArmed (controller : Controller) (device : Device) : Bool :=
  controller.alarms.isArmed device

def apply (controller : Controller) (clock : Agenda.Clock) (device : Device) (event : Event) :
    Controller × Except Fault Transition :=
  let (ledger, outcome) := controller.ledger.apply clock.instant device event
  ({ controller with ledger := ledger }, outcome)

def disarm (controller : Controller) (device : Device) : Controller :=
  { controller with alarms := (controller.alarms.disarm device).2 }

def grant (controller : Controller) (clock : Agenda.Clock) (device : Device) :
    Controller × Except Fault Transition :=
  match controller.apply clock device .grant with
  | (opened, .ok transition) =>
      ({ opened with alarms := opened.alarms.arm clock device }, .ok transition)
  | (same, .error fault) => (same, .error fault)

/-- Applies what a reader reports. A report that the reader waits only acknowledges the cycle; the
other two end it. -/
def report (controller : Controller) (clock : Agenda.Clock) (device : Device) (status : Status) :
    Controller × Except Fault (List Transition) :=
  match controller.apply clock device status.event with
  | (same, .error fault) => (same, .error fault)
  | (moved, .ok transition) =>
      match status with
      | .waiting => (moved, .ok [transition])
      | .completed | .timeout =>
          match (moved.disarm device).apply clock device .reset with
          | (ended, .ok reset) => (ended, .ok [transition, reset])
          | (ended, .error fault) => (ended, .error fault)

def timeOut (controller : Controller) (clock : Agenda.Clock) (device : Device) : Controller :=
  let (moved, _) := controller.apply clock device .timeout
  (moved.apply clock device .reset).1

def recoverStale (controller : Controller) (clock : Agenda.Clock) (device : Device) :
    Controller × List Notice :=
  if controller.state device = .waitingRotation then
    ((controller.disarm device).timeOut clock device, [.staleRotationClosed])
  else (controller, [])

def expire (controller : Controller) (clock : Agenda.Clock) (device : Device) :
    Controller × List Notice :=
  if controller.state device = .waitingRotation then
    (controller.timeOut clock device, [.rotationTimedOut])
  else (controller, [])

def ring (controller : Controller) (clock : Agenda.Clock) (device : Device) :
    Controller × List Notice :=
  { controller with alarms := controller.alarms.ring }.expire clock device

def close (controller : Controller) : Controller :=
  { controller with alarms := controller.alarms.disarmAll }

def expireAll (controller : Controller) (stamp : Nat) :
    List (Agenda.Pending Device) → Controller × List Notice
  | [] => (controller, [])
  | alarm :: rest =>
      let (expired, notices) := controller.expire ⟨alarm.due, stamp⟩ alarm.item
      let (last, more) := expired.expireAll stamp rest
      (last, notices ++ more)

def advance (controller : Controller) (clock : Agenda.Clock) (target : Rat) :
    Controller × List Notice :=
  let (due, alarms) := controller.alarms.goOff target
  { controller with alarms := alarms }.expireAll clock.stamp due

end Controller

end Gatehouse.Turnstile
