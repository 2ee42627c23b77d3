import Gatehouse.Fault.Document
import Gatehouse.Validation.Offline
import Gatehouse.Validation.Online

/-!
# Validation in documents

How the ways of deciding requests are read from documents, and how the reports on inquiries are
written as documents.
-/

namespace Gatehouse.Validation

/-- How requests are decided from the register, by a document. The register's clock runs ahead by
some milliseconds. -/
def Offline.Settings.ofDocument (document : Json) (ahead : Number) : Offline.Settings :=
  { window := document.numberAt "antiPassbackWindowMs" defaultWindow
    logDenials := document.truthAt "logDenials" true
    ahead := ahead }

namespace Online

def Settings.ofDocument (document : Json) : Settings :=
  .ofNumbers (document.numberAt "timeoutMs" defaultTimeout)
    (document.numberAt "retries" defaultRetries)
    (document.numberAt "retryDelayMs" defaultPause)

def Settings.document (settings : Settings) : Json :=
  .object [
    ("timeoutMs", .ofNumber settings.timeout),
    ("retries", .ofNumber settings.retries),
    ("retryDelayMs", .ofNumber settings.pause)]

def Report.members (kind : Fault → String) (report : Report) : List (String × Json) := [
  ("attempts", .count report.attempts),
  ("fellBack", .truth report.fellBack)] ++
  Json.optionalMember "error" (report.error.map fun fault => .object (fault.members kind))

end Online

end Gatehouse.Validation
