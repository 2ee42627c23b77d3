import Gatehouse.Database
import Gatehouse.Register.Document
import Gatehouse.Settings.Document

/-!
# The database in documents

How statements and what is asked of the database server are written as documents, and how rows are
read from them.
-/

namespace Gatehouse

namespace Register.Sql

def timeColumns : List String := ["validFrom", "validUntil", "timestamp"]

def Row.ofDocument (document : Json) : Row :=
  match document with
  | .object members =>
      .object (members.map fun (name, value) =>
        match timeColumns.contains name, Time.Instant.ofDocument? value with
        | true, some instant => (name, time instant)
        | _, _ => (name, value))
  | other => other

def Statement.document (statement : Statement) : Json :=
  .object [
    ("text", .text (Text.squeeze statement.text)),
    ("params", .array statement.parameters)]

end Register.Sql

def DatabaseCall.document : DatabaseCall → Json
  | .connect pool target => .object [("pool", .count pool), ("connect", target.document)]
  | .query pool text parameters =>
      .object [
        ("pool", .count pool),
        ("text", .text (Text.squeeze text)),
        ("params", .ofOption Json.array parameters)]
  | .finish pool => .object [("pool", .count pool), ("end", .truth true)]

end Gatehouse
