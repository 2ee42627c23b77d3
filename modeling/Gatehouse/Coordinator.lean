import Gatehouse.Access.Document
import Gatehouse.Lock
import Gatehouse.Message.Text
import Gatehouse.Turnstile.Controller

/-!
# Coordinating requests

Requests come from readers and from the web interface, many at a time. The coordinator lets those
of one device pass one after another. A request that gets its turn first closes a rotation that
nobody used, then waits for its decision; a grant opens the next rotation, and the decision is
announced. A decision that fails is answered with a plain denial, so no reader is left without a
response.
-/

namespace Gatehouse

open Access

inductive Origin where
  | device
  | web
  deriving DecidableEq

def Origin.name : Origin → String
  | .device => "device"
  | .web => "web"

structure DecisionEvent where
  device : Device
  credential : String
  direction : Direction
  reader : Reader
  decision : Decision
  decidedBy : Option Source
  response : Message
  timestamp : String
  origin : Origin
  deriving DecidableEq

def DecisionEvent.document (event : DecisionEvent) : Json :=
  .object ([
    ("deviceId", .text event.device.text),
    ("credential", .text event.credential),
    ("direction", .text event.direction.name),
    ("readerType", .text event.reader.name),
    ("source", .text event.origin.name),
    ("decision", .text event.decision.name)] ++
    Json.optionalMember "reason" (event.decision.reason?.map fun reason => .text reason.name) ++ [
    ("displayMessage", .text event.decision.display),
    ("decidedBy", .ofOption (fun source => .text source.name) event.decidedBy),
    ("response", .text event.response.text),
    ("timestamp", .text event.timestamp)])

structure Outcome where
  decision : Decision
  response : Message
  deriving DecidableEq

def Outcome.document (outcome : Outcome) : Json :=
  .object [
    ("decision", outcome.decision.document),
    ("response", .text outcome.response.text)]

inductive Audience where
  | nobody
  | listening
  | failing (fault : Fault)
  deriving DecidableEq

abbrev RequestId := Nat

structure Visit where
  device : Device
  request : Request
  origin : Origin
  deriving DecidableEq

structure Coordinator where
  turnstiles : Turnstile.Controller
  locks : Lock Device RequestId
  visits : List (RequestId × Visit)
  seconds : DisplaySeconds

namespace Coordinator

def start (turnstiles : Turnstile.Controller) (seconds : DisplaySeconds) : Coordinator :=
  { turnstiles := turnstiles, locks := .free, visits := [], seconds := seconds }

def visit? (coordinator : Coordinator) (id : RequestId) : Option Visit :=
  coordinator.visits.lookup id

/-- Takes a request in; true when the device is free, so that the request has its turn. -/
def submit (coordinator : Coordinator) (id : RequestId) (visit : Visit) : Coordinator × Bool :=
  let (locks, free) := coordinator.locks.acquire visit.device id
  ({ coordinator with locks := locks, visits := coordinator.visits ++ [(id, visit)] }, free)

def admitted (coordinator : Coordinator) (clock : Agenda.Clock) (visit : Visit) :
    Coordinator × List Notice :=
  let (turnstiles, notices) := coordinator.turnstiles.recoverStale clock visit.device
  ({ coordinator with turnstiles := turnstiles }, notices)

/-- The announcement of a decision; there is none when the timestamp has no text. -/
def eventOf (visit : Visit) (decision : Decision) (decidedBy : Option Source)
    (response : Message) : Except Fault DecisionEvent :=
  match Time.Iso.write? visit.request.timestamp with
  | none => .error .noTimeText
  | some timestamp =>
      .ok
        { device := visit.device, credential := visit.request.credential
          direction := visit.request.direction, reader := visit.request.reader
          decision := decision, decidedBy := decidedBy, response := response
          timestamp := timestamp, origin := visit.origin }

/-- Announces a decision: whether that went well, and what was announced if anything. -/
def announce (audience : Audience) (event : Except Fault DecisionEvent) :
    Except Fault Unit × Option DecisionEvent :=
  match audience, event with
  | .nobody, _ => (.ok (), none)
  | _, .error fault => (.error fault, none)
  | .failing fault, .ok event => (.error fault, some event)
  | .listening, .ok event => (.ok (), some event)

structure Settled where
  coordinator : Coordinator
  result : Except Fault Outcome
  notices : List Notice
  event : Option DecisionEvent

def respond (coordinator : Coordinator) (visit : Visit) (audience : Audience)
    (decision : Decision) (decidedBy : Option Source) (notices : List Notice) : Settled :=
  let response := decision.response visit.device coordinator.seconds
  let (announced, event) := announce audience (eventOf visit decision decidedBy response)
  { coordinator := coordinator
    result := announced.map fun _ => { decision := decision, response := response }
    notices := notices ++ [.requestProcessed]
    event := event }

def settle (coordinator : Coordinator) (clock : Agenda.Clock) (visit : Visit)
    (audience : Audience) (outcome : Except Fault Decision) : Settled :=
  match outcome with
  | .error _ =>
      coordinator.respond visit audience (.failure .validationError) none [.validationFailed]
  | .ok decision =>
      if decision.isGrant then
        match coordinator.turnstiles.grant clock visit.device with
        | (turnstiles, .ok _) =>
            { coordinator with turnstiles := turnstiles }.respond visit audience decision
              (some decision.source) []
        | (turnstiles, .error fault) =>
            { coordinator := { coordinator with turnstiles := turnstiles }, result := .error fault
              notices := [], event := none }
      else coordinator.respond visit audience decision (some decision.source) []

def depart (coordinator : Coordinator) (id : RequestId) (visit : Visit) :
    Coordinator × Option RequestId :=
  let (locks, next) := coordinator.locks.release visit.device
  ({ coordinator with
      locks := locks, visits := coordinator.visits.filter fun (other, _) => other != id },
    next)

end Coordinator

end Gatehouse
