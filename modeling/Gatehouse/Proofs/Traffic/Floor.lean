import Gatehouse.Proofs.Agenda.Pool
import Gatehouse.Traffic

/-!
# Traffic in any order

A floor is the traffic with all that is ready in it, where the decisions of requests come from
somebody outside: they may come at any time, in any order, and be anything. Connections open, bytes
and visitors arrive, sessions are closed, readers report, alarms go off and jobs are performed in
any order; `Floor.playAll` plays a list of such moves, and a move that finds nothing to do changes
nothing.

A floor remembers which requests of which devices were submitted, had their turn, and were decided.
-/

namespace Gatehouse

open Access

/-- Something that is ready to go on: a job, or a request whose decision is awaited. -/
inductive Task where
  | job (job : TrafficJob)
  | verdict (request : RequestId)

namespace Task

def request? : Task → Option RequestId
  | .job (.begin request) | .job (.depart request _) | .verdict request => some request
  | _ => none

end Task

/-- What happens on a floor. -/
inductive FloorMove where
  | connect (session : Session)
  | receive (session : SessionId) (chunk : Bytes)
  | close (session : SessionId)
  | visit (visit : Visit)
  | work (clock : Agenda.Clock) (place : Nat)
  | decide (clock : Agenda.Clock) (place : Nat) (outcome : Except Fault Decision)
  | report (clock : Agenda.Clock) (device : Device) (status : Turnstile.Status)
  | ring (clock : Agenda.Clock)

/-- The traffic with its tasks, and the requests of devices that were submitted, that had their
turn, and that were decided. -/
structure Floor where
  traffic : Traffic
  tasks : List Task
  submitted : List (Device × RequestId)
  begun : List (Device × RequestId)
  decided : List (Device × RequestId × Except Fault Decision)

namespace Floor

/-- A floor on which nothing has happened. -/
def start (traffic : Traffic) : Floor :=
  { traffic := traffic, tasks := [], submitted := [], begun := [], decided := [] }

/-- The turnstiles. -/
def turnstiles (floor : Floor) : Turnstile.Controller :=
  floor.traffic.coordinator.turnstiles

/-- The line of requests before a device. -/
def line (floor : Floor) (device : Device) : List RequestId :=
  floor.traffic.coordinator.locks.line device

/-- A request that has not left. -/
def visit? (floor : Floor) (id : RequestId) : Option Visit :=
  floor.traffic.coordinator.visit? id

/-- The device of a request with the request, if the request has not left. -/
def place? (traffic : Traffic) (id : RequestId) : List (Device × RequestId) :=
  (traffic.coordinator.visit? id).toList.map fun visit => (visit.device, id)

def newcomers (before after : Traffic) : List (Device × RequestId) :=
  if before.requests < after.requests then place? after before.requests else []

/-- The floor after something has happened to the traffic, with some tasks left from before. -/
def put (floor : Floor) (rest : List Task) (outcome : Traffic × Agenda.Line TrafficJob) : Floor :=
  { floor with
    traffic := outcome.1
    tasks := rest ++ outcome.2.map fun (_, job) => .job job
    submitted := floor.submitted ++ newcomers floor.traffic outcome.1 }

/-- A request gets its turn; its decision is awaited from outside. -/
def begin (floor : Floor) (clock : Agenda.Clock) (rest : List Task) (id : RequestId) : Floor :=
  { floor with
    traffic := (floor.traffic.begin clock id).1
    tasks := rest ++ [.verdict id]
    begun := floor.begun ++ place? floor.traffic id }

def settle (floor : Floor) (clock : Agenda.Clock) (rest : List Task) (id : RequestId)
    (outcome : Except Fault Decision) : Floor :=
  { floor.put rest (floor.traffic.settle clock id outcome) with
    decided := floor.decided ++
      (place? floor.traffic id).map fun (device, id) => (device, id, outcome) }

/-- Performs the task at a place, unless it is a decision that is awaited. -/
def work (floor : Floor) (clock : Agenda.Clock) (place : Nat) : Floor :=
  match floor.tasks[place]? with
  | some (.job (.begin id)) => floor.begin clock (floor.tasks.eraseIdx place) id
  | some (.job job) =>
      floor.put (floor.tasks.eraseIdx place) (floor.traffic.perform clock job)
  | _ => floor

/-- Brings the decision that is awaited at a place. -/
def decide (floor : Floor) (clock : Agenda.Clock) (place : Nat)
    (outcome : Except Fault Decision) : Floor :=
  match floor.tasks[place]? with
  | some (.verdict id) => floor.settle clock (floor.tasks.eraseIdx place) id outcome
  | _ => floor

def withTurnstiles (traffic : Traffic) (turnstiles : Turnstile.Controller) : Traffic :=
  { traffic with coordinator := { traffic.coordinator with turnstiles := turnstiles } }

/-- What a move does. -/
def play (floor : Floor) : FloorMove → Floor
  | .connect session => floor.put floor.tasks ((floor.traffic.openSession session).1, [])
  | .receive session chunk => floor.put floor.tasks (floor.traffic.receive session chunk)
  | .close session => floor.put floor.tasks (floor.traffic.closeSession session, [])
  | .visit visit =>
      floor.put floor.tasks
        ((floor.traffic.submit visit).1, (floor.traffic.submit visit).2.2)
  | .work clock place => floor.work clock place
  | .decide clock place outcome => floor.decide clock place outcome
  | .report clock device status =>
      floor.put floor.tasks
        (withTurnstiles floor.traffic (floor.turnstiles.report clock device status).1, [])
  | .ring clock =>
      match floor.turnstiles.alarms.timers.next? with
      | some timer => floor.put floor.tasks (floor.traffic.ring clock (.rotation timer.item))
      | none => floor

/-- What moves do one after another. -/
def playAll (floor : Floor) (moves : List FloorMove) : Floor :=
  moves.foldl play floor

theorem playAll_concat (floor : Floor) (moves : List FloorMove) (move : FloorMove) :
    floor.playAll (moves ++ [move]) = (floor.playAll moves).play move := by
  rw [playAll, List.foldl_append]
  rfl

def ofDevice (device : Device) (entries : List (Device × RequestId)) : List RequestId :=
  (entries.filter fun (other, _) => other = device).map Prod.snd

/-- The requests of a device, in the order in which they were submitted. -/
def submittedTo (floor : Floor) (device : Device) : List RequestId :=
  ofDevice device floor.submitted

def begunAt (floor : Floor) (device : Device) : List RequestId :=
  ofDevice device floor.begun

def decidedAt (floor : Floor) (device : Device) : List RequestId :=
  ofDevice device (floor.decided.map fun (device, id, _) => (device, id))

/-- Whether a decision lets somebody pass. -/
def isGranted : Except Fault Decision → Bool
  | .ok decision => decision.isGrant
  | .error _ => false

def grantsAt (floor : Floor) (device : Device) : Nat :=
  floor.decided.countP fun (other, _, outcome) => other = device ∧ isGranted outcome = true

theorem ofDevice_append (device : Device) (left right : List (Device × RequestId)) :
    ofDevice device (left ++ right) = ofDevice device left ++ ofDevice device right := by
  simp [ofDevice]

theorem ofDevice_singleton (device other : Device) (id : RequestId) :
    ofDevice device [(other, id)] = if device = other then [id] else [] := by
  by_cases same : device = other
  · simp [ofDevice, same]
  · have : ¬other = device := fun equal => same equal.symm
    simp [ofDevice, same, this]

end Floor

end Gatehouse
