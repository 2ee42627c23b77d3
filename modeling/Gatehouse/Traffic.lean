import Gatehouse.Coordinator
import Gatehouse.Happening
import Gatehouse.History
import Gatehouse.Session
import Gatehouse.Validation.Desk

/-!
# Traffic

Everything that is under way at once: the sessions with the messages that wait in them, the
requests that they and the web interface have made, and the decisions that these wait for. Traffic
is a machine whose jobs are the steps of all of these, so the steps of different sessions and
requests interleave in the order in which they become ready.

What can be seen from outside is kept as a list of happenings.
-/

namespace Gatehouse

-- The zero that sums start from is that of the core library, whatever else is imported.
attribute [local instance (2000)] Zero.ofOfNat0

/-- Who hears announcements. Some announcements, counted from one, fail; the others enter the
history. -/
structure Announcer where
  listening : Bool
  failures : List (Nat × Fault)
  count : Nat
  history : History Json

namespace Announcer

def start (listening : Bool) (failures : List (Nat × Fault)) (limit : Number) : Announcer :=
  { listening := listening, failures := failures, count := 0, history := .empty limit }

def audience (announcer : Announcer) : Audience :=
  if !announcer.listening then .nobody
  else
    match (announcer.failures.lookup (announcer.count + 1)).orElse fun _ =>
        announcer.history.obstacle with
    | some fault => .failing fault
    | none => .listening

def announce (announcer : Announcer) (event : DecisionEvent) : Announcer × List Happening :=
  let count := announcer.count + 1
  if (announcer.failures.lookup count).isSome then ({ announcer with count := count }, [])
  else
    ({ announcer with count := count, history := announcer.history.record event.document },
      [.announced event])

end Announcer

inductive TrafficJob where
  | validation (job : Validation.Job)
  | begin (request : RequestId)
  | depart (request : RequestId) (result : Except Fault Outcome)
  | answered (request : RequestId) (result : Except Fault Outcome)
  | handle (session : SessionId)
  | handled (session : SessionId) (fault : Option Fault)

inductive TrafficAlarm where
  | validation (alarm : Validation.Alarm)
  | rotation (device : Device)

/-- All that is under way. Requests are numbered as they come; those of sessions are listed with
the session that waits for them. -/
structure Traffic where
  desk : Validation.Desk
  coordinator : Coordinator
  announcer : Announcer
  sessions : List (SessionId × Session)
  askers : List (RequestId × SessionId)
  requests : Nat
  happenings : List Happening

namespace Traffic

def start (desk : Validation.Desk) (coordinator : Coordinator) (announcer : Announcer) : Traffic :=
  { desk := desk, coordinator := coordinator, announcer := announcer, sessions := [], askers := []
    requests := 0, happenings := [] }

def reveal (traffic : Traffic) (happenings : List Happening) : Traffic :=
  { traffic with happenings := traffic.happenings ++ happenings }

def note (traffic : Traffic) (notices : List Notice) : Traffic :=
  traffic.reveal (notices.map Happening.noted)

def session? (traffic : Traffic) (id : SessionId) : Option Session :=
  traffic.sessions.lookup id

def setSession (traffic : Traffic) (id : SessionId) (session : Session) : Traffic :=
  { traffic with
    sessions := traffic.sessions.map fun (other, known) =>
      if other = id then (other, session) else (other, known) }

def happening (id : SessionId) : SessionEffect → Happening
  | .note notice => .noted notice
  | .write bytes => .wrote id bytes
  | .close reason => .closing id reason

def putSession (traffic : Traffic) (id : SessionId) (session : Session)
    (effects : List SessionEffect) : Traffic :=
  (traffic.setSession id session).reveal (effects.map (happening id))

def openSession (traffic : Traffic) (session : Session) : Traffic × SessionId :=
  let id := traffic.sessions.length
  ({ traffic with sessions := traffic.sessions ++ [(id, session)] }, id)

def closeSession (traffic : Traffic) (id : SessionId) : Traffic :=
  match traffic.session? id with
  | some session => traffic.setSession id session.close
  | none => traffic

/-- Bytes for a session come in. A session that was at rest begins to handle its first message. -/
def receive (traffic : Traffic) (id : SessionId) (chunk : Bytes) :
    Traffic × Agenda.Line TrafficJob :=
  match traffic.session? id with
  | none => (traffic, [])
  | some session =>
      let (taken, effects) := session.receive chunk
      (traffic.putSession id taken effects,
        if session.isIdle && !taken.isIdle then [(0, .handle id)] else [])

def submit (traffic : Traffic) (visit : Visit) :
    Traffic × RequestId × Agenda.Line TrafficJob :=
  let id := traffic.requests
  let (coordinator, free) := traffic.coordinator.submit id visit
  ({ traffic with coordinator := coordinator, requests := id + 1 }, id,
    if free then [(0, .begin id)] else [])

def submitFor (traffic : Traffic) (session : SessionId) (visit : Visit) :
    Traffic × Agenda.Line TrafficJob :=
  let (traffic, id, jobs) := traffic.submit visit
  ({ traffic with askers := traffic.askers ++ [(id, session)] }, jobs)

def putDesk (traffic : Traffic) (outcome : Validation.Desk × Agenda.Line Validation.Job) :
    Traffic × Agenda.Line TrafficJob :=
  let (desk, jobs) := outcome
  ({ traffic with desk := desk }, jobs.map fun (rounds, job) => (rounds, .validation job))

def begin (traffic : Traffic) (clock : Agenda.Clock) (id : RequestId) :
    Traffic × Agenda.Line TrafficJob :=
  match traffic.coordinator.visit? id with
  | none => (traffic, [])
  | some visit =>
      let (coordinator, notices) := traffic.coordinator.admitted clock visit
      let admitted := { traffic with coordinator := coordinator }.note notices
      admitted.putDesk (admitted.desk.begin clock id visit.request)

def settle (traffic : Traffic) (clock : Agenda.Clock) (id : RequestId)
    (outcome : Except Fault Access.Decision) : Traffic × Agenda.Line TrafficJob :=
  match traffic.coordinator.visit? id with
  | none => (traffic, [])
  | some visit =>
      let settled := traffic.coordinator.settle clock visit traffic.announcer.audience outcome
      let noted := { traffic with coordinator := settled.coordinator }.note settled.notices
      let announced :=
        match settled.event with
        | none => noted
        | some event =>
            let (announcer, happenings) := noted.announcer.announce event
            { noted with announcer := announcer }.reveal happenings
      (announced, [(0, .depart id settled.result)])

def depart (traffic : Traffic) (id : RequestId) (result : Except Fault Outcome) :
    Traffic × Agenda.Line TrafficJob :=
  match traffic.coordinator.visit? id with
  | none => (traffic, [])
  | some visit =>
      let (coordinator, next) := traffic.coordinator.depart id visit
      let follow : Agenda.Line TrafficJob :=
        match next with
        | some other => [(1, .begin other)]
        | none => []
      ({ traffic with coordinator := coordinator }, follow ++ [(0, .answered id result)])

def roundsToHandled : Nat := 2

def answer (traffic : Traffic) (id : RequestId) (result : Except Fault Outcome) :
    Traffic × Agenda.Line TrafficJob :=
  match traffic.askers.lookup id with
  | none => (traffic.reveal [.answered id result], [])
  | some asker =>
      match traffic.session? asker with
      | none => (traffic, [])
      | some session =>
          match session.current with
          | none => (traffic, [])
          | some message =>
              let sent := session.answer message.device (result.map Outcome.response)
              (traffic.putSession asker sent.session sent.effects,
                [(roundsToHandled, .handled asker sent.fault)])

def handle (traffic : Traffic) (clock : Agenda.Clock) (id : SessionId) :
    Traffic × Agenda.Line TrafficJob :=
  match (traffic.session? id).bind Session.next? with
  | none => (traffic, [])
  | some (message, session) =>
      let handled := session.handle clock traffic.coordinator.turnstiles message
      let after :=
        { traffic with
          coordinator := { traffic.coordinator with turnstiles := handled.turnstiles } }.putSession
          id handled.session handled.effects
      match handled.progress with
      | .done => (after, [(roundsToHandled, .handled id none)])
      | .failed fault => (after, [(roundsToHandled, .handled id (some fault))])
      | .asking request =>
          after.submitFor id { device := message.device, request := request, origin := .device }

def finish (traffic : Traffic) (id : SessionId) (fault : Option Fault) :
    Traffic × Agenda.Line TrafficJob :=
  match traffic.session? id with
  | none => (traffic, [])
  | some session =>
      let (finished, effects) := session.finish fault
      (traffic.putSession id finished effects,
        if finished.isIdle then [] else [(0, .handle id)])

/-- Performs a job. The outcome of a call at the desk is the decision of its request. -/
def perform (clock : Agenda.Clock) (job : TrafficJob) (traffic : Traffic) :
    Traffic × Agenda.Line TrafficJob :=
  match job with
  | .validation (.outcome id outcome) =>
      { traffic with desk := traffic.desk.close id outcome }.settle clock id outcome
  | .validation job => traffic.putDesk (Validation.Desk.perform clock job traffic.desk)
  | .begin id => traffic.begin clock id
  | .depart id result => traffic.depart id result
  | .answered id result => traffic.answer id result
  | .handle id => traffic.handle clock id
  | .handled id fault => traffic.finish id fault

def next? (traffic : Traffic) : Option (Agenda.Pending TrafficAlarm) :=
  let ofDesk (timer : Agenda.Pending Validation.Alarm) : Agenda.Pending TrafficAlarm :=
    ⟨timer.due, timer.stamp, .validation timer.item⟩
  let ofAlarm (timer : Agenda.Pending Device) : Agenda.Pending TrafficAlarm :=
    ⟨timer.due, timer.stamp, .rotation timer.item⟩
  match traffic.desk.timers.next?, traffic.coordinator.turnstiles.alarms.timers.next? with
  | none, none => none
  | some timer, none => some (ofDesk timer)
  | none, some alarm => some (ofAlarm alarm)
  | some timer, some alarm => some (if timer.before alarm then ofDesk timer else ofAlarm alarm)

def ring (clock : Agenda.Clock) (alarm : TrafficAlarm) (traffic : Traffic) :
    Traffic × Agenda.Line TrafficJob :=
  match alarm with
  | .validation alarm => traffic.putDesk (Validation.Desk.ring clock alarm traffic.desk)
  | .rotation device =>
      let (turnstiles, notices) := traffic.coordinator.turnstiles.ring clock device
      ({ traffic with coordinator := { traffic.coordinator with turnstiles := turnstiles } }.note
        notices, [])

def patience (traffic : Traffic) : Nat :=
  let messages := (traffic.sessions.map fun (_, session) => session.inbox.length + 1).sum
  let requests := traffic.coordinator.visits.length
  let alarms := traffic.coordinator.turnstiles.alarms.timers.pending.length
  (traffic.desk.effort + 20) *
    (traffic.desk.calls.length + traffic.desk.timers.pending.length + 2 * messages + requests +
      alarms + 1)

def machine : Agenda.Machine Traffic TrafficJob TrafficAlarm where
  perform := perform
  next? := next?
  ring := ring
  patience := patience

end Traffic

end Gatehouse
