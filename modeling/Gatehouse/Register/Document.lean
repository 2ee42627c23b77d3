import Gatehouse.Access.Document
import Gatehouse.Register.Query

/-!
# Records in documents

How the records of the register are written as documents, and how they are read from them.
-/

namespace Gatehouse.Register

/-- An optional instant as a document; one that is no point in time is called invalid. -/
def timeDocument (instant : Option Time.Instant) : Json :=
  .ofOption (fun instant => .text instant.text) instant

def timeAt? (document : Json) (name : String) : Option Time.Instant :=
  (document.given? name).bind Time.Instant.ofDocument?

def referenceAt (document : Json) (name : String) : Reference :=
  (document.member? name).getD .null

def idMember (name : String) (id : Id) : String × Json :=
  (name, .ofInt id)

namespace UserDetails

def members (user : UserDetails) : List (String × Json) := [
  ("registration", .text user.registration),
  ("name", .text user.name),
  ("active", .truth user.active),
  ("validFrom", timeDocument user.validFrom),
  ("validUntil", timeDocument user.validUntil),
  ("allowCard", .truth user.allowCard),
  ("allowBiometric", .truth user.allowBiometric),
  ("allowKeypad", .truth user.allowKeypad),
  ("code", .ofOption Json.text user.code)]

def ofDocument (document : Json) : UserDetails :=
  { registration := document.textAt "registration"
    name := document.textAt "name"
    active := document.flagAt "active"
    validFrom := timeAt? document "validFrom"
    validUntil := timeAt? document "validUntil"
    allowCard := document.flagAt "allowCard"
    allowBiometric := document.flagAt "allowBiometric"
    allowKeypad := document.flagAt "allowKeypad"
    code := document.textAt? "code" }

end UserDetails

def User.document (user : User) : Json :=
  .object (idMember "id" user.id :: user.members)

namespace CardDetails

def members (card : CardDetails) : List (String × Json) := [
  ("cardNumber", .text card.cardNumber),
  ("registration", .text card.registration),
  ("active", .truth card.active),
  ("validFrom", timeDocument card.validFrom),
  ("validUntil", timeDocument card.validUntil)]

def ofDocument (document : Json) : CardDetails :=
  { cardNumber := document.textAt "cardNumber"
    registration := document.textAt "registration"
    active := document.flagAt "active"
    validFrom := timeAt? document "validFrom"
    validUntil := timeAt? document "validUntil" }

end CardDetails

def Card.document (card : Card) : Json :=
  .object (idMember "id" card.id :: ("userId", card.holder) :: card.members)

namespace LogEntry

def members (entry : LogEntry) : List (String × Json) := [
  ("userId", entry.user),
  ("registration", entry.registration),
  ("credential", .text entry.credential),
  ("direction", .text entry.direction.name),
  ("readerType", .text entry.reader.name),
  ("granted", .truth entry.granted),
  ("displayMessage", .text entry.display),
  ("timestamp", timeDocument entry.timestamp)]

def ofDocument (document : Json) : LogEntry :=
  { user := referenceAt document "userId"
    registration := referenceAt document "registration"
    credential := document.textAt "credential"
    direction := Access.Direction.named document "direction"
    reader := Access.Reader.named document "readerType"
    granted := document.flagAt "granted"
    display := document.textAt "displayMessage"
    timestamp := timeAt? document "timestamp" }

end LogEntry

def LogRecord.document (record : LogRecord) : Json :=
  .object (idMember "id" record.id :: record.members)

def Query.ofDocument (document : Json) : Query :=
  let subject := document.textAt "arg"
  match document.textAt "do" with
  | "findCardByNumber" => .cardByNumber subject
  | "findUserByRegistration" => .userByRegistration (.text subject)
  | "findUserByCode" => .userByCode subject
  | "findRecentGrantedAccess" =>
      .recentGrant (referenceAt document "userId") (.named document "direction")
        (timeAt? document "since")
  | _ => .append (.ofDocument (document.partAt "entry"))

end Gatehouse.Register
