import Gatehouse.Agenda.Timers
import Gatehouse.Authority.Exchange
import Gatehouse.Json.Members

/-!
# Authorities in documents

How verdicts and the questions put to an authority are written as documents, and how its script is
read from them.
-/

namespace Gatehouse.Authority

namespace Verdict

def document (verdict : Verdict) : Json :=
  .object ([("granted", .truth verdict.granted)] ++
    Json.optionalMember "displayMessage" (verdict.display.map Json.text) ++
    Json.optionalMember "reason" (verdict.reason.map Json.text))

def ofDocument (document : Json) : Verdict :=
  { granted := document.isTruthyAt "granted"
    display := document.textAt? "displayMessage"
    reason := document.textAt? "reason" }

end Verdict

/-- When an answer comes, by a document; no delay at all needs no timer. -/
def Coming.ofDocument (document : Json) : Coming :=
  if document.flagAt "never" then .never
  else
    let delay := document.numberAt "afterMs" (.finite 0)
    if delay = .finite 0 then .atOnce else .later (Agenda.delay delay)

def complaint : Json → String
  | .null => "Cannot read properties of null (reading 'normalize')"
  | _ => "text.normalize is not a function"

/-- The verdict that comes; one whose display text is no text cannot be shown. -/
def Word.ofVerdict (document : Json) : Word :=
  match document.member? "displayMessage" with
  | none | some (.text _) => .verdict (.ofDocument document)
  | some other => .unshowable (complaint other)

def Word.ofDocument (document : Json) : Word :=
  match document.given? "verdict", document.textAt? "text" with
  | some given, _ => .ofVerdict given
  | none, some text => .body text
  | none, none => .failure (document.textAt "error")

def Act.ofDocument (document : Json) : Act :=
  { word := .ofDocument document, coming := .ofDocument document }

def Posted.members (posted : Posted) : List (String × Json) := [
  ("url", .text posted.url),
  ("method", .text "post"),
  ("authorization", .ofOption Json.text posted.authorization),
  ("body", posted.body)]

def Asked.document (beginning : Rat) (asked : Asked) : Json :=
  .object ([
    ("at", .ofNumber (.nearest (asked.time - beginning))),
    ("aborted", .truth asked.aborted)] ++
    (asked.posted.map Posted.members).getD [])

end Gatehouse.Authority
