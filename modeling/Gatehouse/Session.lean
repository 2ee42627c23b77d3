import Gatehouse.Access.Payload
import Gatehouse.Access.Response
import Gatehouse.Frame.Codec
import Gatehouse.Json.Value
import Gatehouse.Turnstile.Controller

/-!
# Sessions

A session is the protocol state of one connection. Bytes are decoded as they come; the messages in
them are handled strictly one after another, so responses leave in the order of the requests. After
a number of refused frames in a row, with no good one between them, the session closes itself. A
closed session takes no more bytes and sends nothing, but messages taken in before are still
handled.
-/

namespace Gatehouse

open Access

structure SessionStats where
  framesReceived : Nat
  framesSent : Nat
  protocolErrors : Nat
  skippedBytes : Nat
  deriving DecidableEq

def SessionStats.document (stats : SessionStats) : Json :=
  .object [
    ("framesReceived", .count stats.framesReceived),
    ("framesSent", .count stats.framesSent),
    ("protocolErrors", .count stats.protocolErrors),
    ("skippedBytes", .count stats.skippedBytes)]

inductive SessionEffect where
  | note (notice : Notice)
  | write (bytes : Bytes)
  | close (reason : String)
  deriving DecidableEq

/-- The protocol state of one connection. The inbox holds the messages that wait; the current one
is being handled. Of the writes to the connection those with a listed number fail, counted from
one. -/
structure Session where
  codec : Frame.Codec
  maxErrors : Number
  failingWrites : List Nat
  buffer : Frame.Buffer
  inbox : List Message
  current : Option Message
  errorsInARow : Nat
  closed : Bool
  writes : Nat
  stats : SessionStats

namespace Session

def start (codec : Frame.Codec) (maxErrors : Number) (failingWrites : List Nat) : Session :=
  { codec := codec, maxErrors := maxErrors, failingWrites := failingWrites, buffer := .empty
    inbox := [], current := none, errorsInARow := 0, closed := false, writes := 0
    stats := { framesReceived := 0, framesSent := 0, protocolErrors := 0, skippedBytes := 0 } }

def closingReason : String := "too many consecutive protocol errors"

def close (session : Session) : Session :=
  { session with closed := true, buffer := .empty }

def countSkipped (session : Session) (skipped : Nat) : Session × List SessionEffect :=
  if skipped = 0 then (session, [])
  else
    ({ session with
        stats := { session.stats with skippedBytes := session.stats.skippedBytes + skipped } },
      [.note .bytesDiscarded])

def countError (session : Session) : Session × List SessionEffect :=
  let counted : Session :=
    { session with
      errorsInARow := session.errorsInARow + 1
      stats := { session.stats with protocolErrors := session.stats.protocolErrors + 1 } }
  if session.maxErrors.le (.ofNat counted.errorsInARow) then
    (counted.close, [.note .frameDropped, .note .tooManyErrors, .close closingReason])
  else (counted, [.note .frameDropped])

def enqueue (session : Session) (message : Message) : Session :=
  { session with
    errorsInARow := 0
    inbox := session.inbox ++ [message]
    stats := { session.stats with framesReceived := session.stats.framesReceived + 1 } }

def take (session : Session) (decoded : Frame.Decoded) : Session × List SessionEffect :=
  let (counted, skipping) := session.countSkipped decoded.skipped
  match decoded with
  | .pending _ => (counted, skipping)
  | .frame message _ _ => (counted.enqueue message, skipping)
  | .failed _ _ =>
      let (counted, effects) := counted.countError
      (counted, skipping ++ effects)

def takeAll (session : Session) : List Frame.Decoded → Session × List SessionEffect
  | [] => (session, [])
  | decoded :: rest =>
      if session.closed then (session, [])
      else
        let (taken, effects) := session.take decoded
        let (last, more) := taken.takeAll rest
        (last, effects ++ more)

/-- Takes bytes in. A closed session ignores them. -/
def receive (session : Session) (chunk : Bytes) : Session × List SessionEffect :=
  if session.closed then (session, [])
  else
    let (decoded, left) := session.codec.drain (session.buffer.append chunk)
    { session with buffer := left }.takeAll decoded

def next? (session : Session) : Option (Message × Session) :=
  match session.inbox with
  | [] => none
  | message :: rest => some (message, { session with inbox := rest, current := some message })

structure Sent where
  session : Session
  fault : Option Fault
  effects : List SessionEffect

def send (session : Session) (message : Message) : Sent :=
  if session.closed then { session := session, fault := none, effects := [] }
  else
    match session.codec.encode message with
    | .error fault => { session := session, fault := some fault, effects := [] }
    | .ok bytes =>
        let tried : Session := { session with writes := session.writes + 1 }
        if session.failingWrites.contains tried.writes then
          { session := tried, fault := some (.reported "write failed"), effects := [] }
        else
          { session :=
              { tried with
                stats := { tried.stats with framesSent := tried.stats.framesSent + 1 } }
            fault := none
            effects := [.write bytes] }

def sendDenial (session : Session) (device : Device) (reason : Denial) : Sent :=
  session.send ((Decision.failure reason).response device .standard)

/-- How far the handling of a message has come: it is done, it failed, or it waits for the outcome
of a request. -/
inductive Progress where
  | done
  | failed (fault : Fault)
  | asking (request : Request)

structure Handled where
  session : Session
  turnstiles : Turnstile.Controller
  progress : Progress
  effects : List SessionEffect

def Sent.progress (sent : Sent) : Progress :=
  match sent.fault with
  | some fault => .failed fault
  | none => .done

/-- Handles an access request up to the point where its outcome is awaited. A request that cannot
be read is denied at once. -/
def handleRequest (session : Session) (turnstiles : Turnstile.Controller) (message : Message) :
    Handled :=
  match Request.ofMessage message with
  | .ok request =>
      { session := session, turnstiles := turnstiles, progress := .asking request, effects := [] }
  | .error _ =>
      let sent := session.sendDenial message.device .malformedRequest
      { session := sent.session, turnstiles := turnstiles, progress := sent.progress
        effects := .note .requestMalformed :: sent.effects }

/-- Handles a report on a rotation. The command alone carries the event; fields that cannot be read
do not matter. -/
def handleStatus (session : Session) (clock : Agenda.Clock) (turnstiles : Turnstile.Controller)
    (message : Message) (status : Turnstile.Status) : Handled :=
  let reading : Notice :=
    match Report.ofMessage message with
    | .ok _ => .statusReceived
    | .error _ => .statusUnreadable
  let (turnstiles, outcome) := turnstiles.report clock message.device status
  let result : Notice :=
    match outcome with
    | .ok _ => .turnstileMoved
    | .error _ => .statusUnexpected
  { session := session, turnstiles := turnstiles, progress := .done
    effects := [.note reading, .note result] }

def handle (session : Session) (clock : Agenda.Clock) (turnstiles : Turnstile.Controller)
    (message : Message) : Handled :=
  let quiet (effects : List SessionEffect) : Handled :=
    { session := session, turnstiles := turnstiles, progress := .done, effects := effects }
  if message.command = .accessRequest then session.handleRequest turnstiles message
  else
    match Turnstile.Status.ofCommand? message.command with
    | some status => session.handleStatus clock turnstiles message status
    | none =>
        if message.command.isManagement || message.command = .queryStatus then
          quiet [.note .managementReceived]
        else quiet [.note .decisionIgnored]

/-- The outcome of the current request is known. A response that cannot be sent, like a request that
failed, is answered with a plain denial. -/
def answer (session : Session) (device : Device) (result : Except Fault Message) : Sent :=
  let sent : Sent :=
    match result with
    | .ok response => session.send response
    | .error fault => { session := session, fault := some fault, effects := [] }
  match sent.fault with
  | none => sent
  | some _ =>
      let denial := sent.session.sendDenial device .validationError
      { denial with effects := sent.effects ++ .note .requestFailed :: denial.effects }

def finish (session : Session) (fault : Option Fault) : Session × List SessionEffect :=
  ({ session with current := none },
    match fault with
    | some _ => [.note .messageFailed]
    | none => [])

def isIdle (session : Session) : Bool :=
  session.inbox.isEmpty && session.current.isNone

end Session

end Gatehouse
