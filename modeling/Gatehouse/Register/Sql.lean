import Gatehouse.Register.Query
import Gatehouse.Time.Iso

/-!
# The register in a database

Each question is one statement with parameters. The statements are laid out over several lines, and
a database that is asked sees that layout. Rows and parameters are documents. What a row gives as
the number or the registration of a user is taken as it is; a condition holds when its value counts
as true. Documents have no instants, so a bound of a period that a row gives is unusable.
-/

namespace Gatehouse.Register.Sql

abbrev Row := Json

structure Statement where
  text : String
  parameters : List Json
  deriving DecidableEq

def time (instant : Option Time.Instant) : Json :=
  .ofOption (fun instant => .text instant.text) instant

structure Column where
  name : String
  alias? : Option String

def Column.text (column : Column) : String :=
  match column.alias? with
  | some other => column.name ++ " AS \"" ++ other ++ "\""
  | none => column.name

def plain (name : String) : Column := { name := name, alias? := none }

def renamed (name other : String) : Column := { name := name, alias? := some other }

def userColumns : List (List Column) :=
  [[plain "id", plain "registration", plain "name", plain "active",
      renamed "valid_from" "validFrom", renamed "valid_until" "validUntil"],
    [renamed "allow_card" "allowCard", renamed "allow_biometric" "allowBiometric",
      renamed "allow_keypad" "allowKeypad", plain "code"]]

def cardColumns : List (List Column) :=
  [[plain "id", renamed "card_number" "cardNumber", plain "registration",
      renamed "user_id" "userId", plain "active"],
    [renamed "valid_from" "validFrom", renamed "valid_until" "validUntil"]]

def logColumns : List (List Column) :=
  [[plain "id", renamed "user_id" "userId", plain "registration", plain "credential",
      plain "direction", renamed "reader_type" "readerType"],
    [plain "granted", renamed "display_message" "displayMessage",
      renamed "created_at" "timestamp"]]

def commas (parts : List String) : String :=
  ", ".intercalate parts

def columnsText (lines : List (List Column)) : String :=
  ",\n  ".intercalate (lines.map fun line => commas (line.map Column.text))

def clauseBreak : String := "\n       "

inductive Condition where
  | equals (column : String)
  | holds (column : String)
  | atLeast (column : String)

def conditionTexts (number : Nat) : List Condition → List String
  | [] => []
  | .equals column :: rest => s!"{column} = ${number}" :: conditionTexts (number + 1) rest
  | .holds column :: rest => s!"{column} = TRUE" :: conditionTexts number rest
  | .atLeast column :: rest => s!"{column} >= ${number}" :: conditionTexts (number + 1) rest

/-- A selection of at most one row: the first one in the order of some columns, each falling. Its
clauses stand on one line or on lines of their own. -/
structure Selection where
  columns : List (List Column)
  table : String
  conditions : List Condition
  falling : List String
  spread : Bool

def Selection.text (selection : Selection) : String :=
  let conditions := " AND ".intercalate (conditionTexts 1 selection.conditions)
  let order :=
    if selection.falling.isEmpty then []
    else ["ORDER BY " ++ commas (selection.falling.map (· ++ " DESC"))]
  (if selection.spread then clauseBreak else " ").intercalate
    (["SELECT " ++ columnsText selection.columns ++ " FROM " ++ selection.table,
      "WHERE " ++ conditions] ++ order ++ ["LIMIT 1"])

def cardByNumber : Selection :=
  { columns := cardColumns, table := "cards", conditions := [.equals "card_number"], falling := []
    spread := false }

def userByRegistration : Selection :=
  { columns := userColumns, table := "users", conditions := [.equals "registration"], falling := []
    spread := false }

def userByCode : Selection :=
  { columns := userColumns, table := "users", conditions := [.equals "code"], falling := []
    spread := false }

def recentGrant : Selection :=
  { columns := logColumns, table := "access_logs"
    conditions := [.equals "user_id", .equals "direction", .holds "granted", .atLeast "created_at"]
    falling := ["created_at", "id"], spread := true }

def filledColumns : List String :=
  ["user_id", "registration", "credential", "direction", "reader_type", "granted",
    "display_message", "created_at"]

def appendText : String :=
  clauseBreak.intercalate [
    "INSERT INTO access_logs (" ++ commas filledColumns ++ ")",
    "VALUES (" ++ commas ((List.range filledColumns.length).map fun index => s!"${index + 1}") ++
      ")",
    "RETURNING " ++ columnsText logColumns]

def statement : Query → Statement
  | .cardByNumber number => { text := cardByNumber.text, parameters := [.text number] }
  | .userByRegistration registration =>
      { text := userByRegistration.text, parameters := [registration] }
  | .userByCode code => { text := userByCode.text, parameters := [.text code] }
  | .recentGrant user direction since =>
      { text := recentGrant.text, parameters := [user, .text direction.name, time since] }
  | .append entry =>
      { text := appendText
        parameters :=
          [entry.user, entry.registration, .text entry.credential, .text entry.direction.name,
            .text entry.reader.name, .truth entry.granted, .text entry.display,
            time entry.timestamp] }

def reference (row : Row) (name : String) : Reference :=
  (row.member? name).getD .null

/-- The bound of a period in a row; what does not count as true is none. -/
def bound (row : Row) (name : String) : Bound :=
  if row.isTruthyAt name then .unusable else .unbounded

def cardView (row : Row) : CardView :=
  { holder := reference row "userId", registration := reference row "registration"
    active := row.isTruthyAt "active", validFrom := bound row "validFrom"
    validUntil := bound row "validUntil" }

def userView (row : Row) : UserView :=
  { id := reference row "id", registration := reference row "registration"
    active := row.isTruthyAt "active", validFrom := bound row "validFrom"
    validUntil := bound row "validUntil", allowCard := row.isTruthyAt "allowCard"
    allowBiometric := row.isTruthyAt "allowBiometric"
    allowKeypad := row.isTruthyAt "allowKeypad" }

def putMember (row : Row) (name : String) (value : Json) : Row :=
  .object (row.members.filter (fun (other, _) => other != name) ++ [(name, value)])

/-- A log row with words that the gateway knows: other directions are unknown, and other ways of
reading are cards. -/
def knownWords (row : Row) : Row :=
  let direction := ((row.textAt? "direction").bind Access.Direction.ofName?).getD .unknown
  let reader := ((row.textAt? "readerType").bind Access.Reader.ofName?).getD .card
  putMember (putMember row "direction" (.text direction.name)) "readerType" (.text reader.name)

/-- The row that a question yields, from the rows or the failure of its statement; a null counts as
none. A new log record must come back. -/
def result (query : Query) (answer : Except Fault (List Row)) : Except Fault (Option Row) :=
  match answer with
  | .error fault => .error (.storeUnavailable query.name fault)
  | .ok rows =>
      let first := rows.head?.filter (· != .null)
      match query with
      | .append _ =>
          match first.filter Json.isTruthy with
          | some row => .ok (some (knownWords row))
          | none => .error (.storeUnavailable query.name (.reported "INSERT returned no row"))
      | .recentGrant .. => .ok ((first.filter Json.isTruthy).map knownWords)
      | _ => .ok first

def reply (query : Query) : Except Fault (Option Row) → Reply
  | .error fault => .failed fault
  | .ok found =>
      let found := found.filter Json.isTruthy
      match query with
      | .cardByNumber _ => .card (found.map cardView)
      | .userByRegistration _ | .userByCode _ => .user (found.map userView)
      | .recentGrant .. => .recent found.isSome
      | .append _ => .appended

example : userByCode.text =
    "SELECT id, registration, name, active, valid_from AS \"validFrom\", " ++
    "valid_until AS \"validUntil\",\n  allow_card AS \"allowCard\", " ++
    "allow_biometric AS \"allowBiometric\", allow_keypad AS \"allowKeypad\", code " ++
    "FROM users WHERE code = $1 LIMIT 1" := by decide +kernel

end Gatehouse.Register.Sql
