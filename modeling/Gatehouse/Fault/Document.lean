import Gatehouse.Fault
import Gatehouse.Json.Members

/-!
# Faults in documents

How faults are written as documents: a word for the kind of the fault, its wording, and what else
is known of it. The words for the kinds are the reader's, so they are a parameter.
-/

namespace Gatehouse

def Issue.document (issue : Issue) : Json :=
  .object [("path", .text (".".intercalate issue.path)), ("message", .text issue.message)]

def Issue.member (issues : List Issue) : String × Json :=
  ("issues", .array (issues.map Issue.document))

namespace Fault

/-- What a fault says of itself besides its kind: faults that stand for something outside without
words of its own say nothing. -/
def wordingMembers (fault : Fault) : List (String × Json) :=
  match fault with
  | .noFile | .schema _ => []
  | _ =>
      [("message", .text fault.text)] ++
        Json.optionalMember "code" (fault.code?.map Json.text) ++
        Json.optionalMember "category" (fault.category?.map Json.text)

def detailMembers : Fault → List (String × Json)
  | .message flaw => [("reason", .text flaw.reason)]
  | .unknownCommand code => [("commandCode", .text code)]
  | .field index content flaw =>
      [("fieldIndex", .ofNumber index), ("field", .text content)] ++
        Json.optionalMember "limit" (flaw.limit.map Json.ofNumber)
  | .missingFields _ expected actual =>
      [("expected", .count expected), ("actual", .count actual)]
  | .checkMismatch expected actual => [("expected", .text expected), ("actual", .text actual)]
  | .frameTooLarge size limit => [("size", .count size), ("maxSize", .ofNumber limit)]
  | .storeUnavailable operation _ => [("operation", .text operation)]
  | .authorityFailed attempts _ => [("attempts", .count attempts)]
  | .authorityTimeout limit => [("timeoutMs", .ofNumber limit)]
  | .transition device before event =>
      [("deviceId", .text device.text), ("from", .text before.name),
        ("to", .text event.target.name), ("event", .text event.name)]
  | .settings (.seedInvalid _ issues) => [Issue.member issues]
  | .schema issues => [Issue.member issues]
  | .settings _ | .reported _ | .exchange _ | .mistyped _ | .pattern .. | .noTimeText | .badLength
  | .noFile => []

def members (kind : Fault → String) (fault : Fault) : List (String × Json) :=
  ("error", .text (kind fault)) :: fault.wordingMembers ++ fault.detailMembers ++
    match fault with
    | .storeUnavailable _ cause | .authorityFailed _ cause =>
        [("cause", .object (members kind cause))]
    | _ => []

end Fault

end Gatehouse
