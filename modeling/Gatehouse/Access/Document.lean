import Gatehouse.Access.Payload
import Gatehouse.Access.Response
import Gatehouse.Json.Members
import Gatehouse.Time.Iso

/-!
# Requests and decisions in documents

How requests and decisions are written as documents, and how they are read from them. Reading takes
a missing or unknown word for the plainest one.
-/

namespace Gatehouse.Access

def Direction.named (document : Json) (name : String) : Direction :=
  (Direction.ofName? (document.textAt name)).getD .unknown

def Reader.named (document : Json) (name : String) : Reader :=
  (Reader.ofName? (document.textAt name)).getD .card

def instantAt (document : Json) (name : String) : Time.Instant :=
  ((document.member? name).bind Time.Instant.ofDocument?).getD .invalid

namespace Request

def document (request : Request) : Json :=
  .object [
    ("credential", .text request.credential),
    ("timestamp", .text request.timestamp.text),
    ("direction", .text request.direction.name),
    ("readerType", .text request.reader.name)]

def ofDocument (document : Json) : Request :=
  { credential := document.textAt "credential"
    timestamp := instantAt document "timestamp"
    direction := Direction.named document "direction"
    reader := Reader.named document "readerType" }

end Request

namespace Decision

def document : Decision → Json
  | .granted display direction reader source =>
      .object [
        ("decision", .text "GRANTED"),
        ("displayMessage", .text display),
        ("direction", .text direction.name),
        ("readerType", .text reader.name),
        ("source", .text source.name)]
  | .denied reason display source =>
      .object [
        ("decision", .text "DENIED"),
        ("reason", .text reason.name),
        ("displayMessage", .text display),
        ("source", .text source.name)]

def ofDocument (document : Json) : Decision :=
  let display := document.textAt "displayMessage"
  let source := if document.textAt "source" = Source.online.name then .online else .offline
  if document.textAt "decision" = "GRANTED" then
    .granted display (Direction.named document "direction") (Reader.named document "readerType")
      source
  else
    .denied ((Denial.ofName? (document.textAt "reason")).getD .validationError) display source

end Decision

def DisplaySeconds.ofDocument (document : Json) : DisplaySeconds :=
  { grant := document.numberAt "grantDisplaySeconds" standard.grant
    deny := document.numberAt "denyDisplaySeconds" standard.deny }

def Report.document (report : Report) (command : Command) : Json :=
  .object [
    ("kind", .text command.name),
    ("credential", .ofOption Json.text report.credential),
    ("timestamp", .text report.timestamp.text),
    ("direction", .text report.direction.name),
    ("readerType", .text report.reader.name)]

end Gatehouse.Access
