import Gatehouse.Json.Members
import Gatehouse.Time.Iso
import Gatehouse.Turnstile.Controller

/-!
# Turnstiles in documents

How turnstiles, their transitions and their alarms are written as documents, and how events and
controllers are read from them.
-/

namespace Gatehouse.Turnstile

def Transition.document (transition : Transition) : Json :=
  .object [
    ("from", .text transition.before.name),
    ("to", .text transition.after.name),
    ("event", .text transition.event.name),
    ("at", transition.time.document)]

def transitionsDocument (transitions : List Transition) : Json :=
  .array (transitions.map Transition.document)

def Snapshot.document (snapshot : Snapshot) : Json :=
  .object [
    ("deviceId", .text snapshot.device.text),
    ("state", .text snapshot.state.name),
    ("since", snapshot.since.document),
    ("transitions", .count snapshot.transitions)]

def Ledger.document (ledger : Ledger) : Json :=
  .array (ledger.snapshot.map Snapshot.document)

def Alarms.document (alarms : Alarms) : Json :=
  .array (alarms.armed.map fun device => .count device.number)

def AlarmBook.document (book : AlarmBook) : Json :=
  .array (book.armed.map fun device => .count device.number)

def Event.ofDocument (document : Json) : Event :=
  (Event.all.find? fun event => event.name == document.textAt "event").getD .reset

def Status.ofDocument (document : Json) : Status :=
  match Event.ofDocument document with
  | .waiting => .waiting
  | .completed => .completed
  | _ => .timeout

def Controller.ofDocument (document : Json) : Controller :=
  .start (document.numberAt "rotationTimeoutMs" defaultTimeout)
    (document.numberAt "historyLimit" Ledger.defaultLimit)

end Gatehouse.Turnstile
