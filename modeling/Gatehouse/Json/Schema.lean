import Gatehouse.Fault
import Gatehouse.Json.Value

/-!
# Checking documents

Readers that turn parts of a document into values and name everything that is wrong with it, with
the path to the place. `join` keeps the issues of both sides, so that all parts of a document are
looked at.
-/

namespace Gatehouse.Json

def kind : Json → String
  | .null => "null"
  | .truth _ => "boolean"
  | .number .nan => "nan"
  | .number _ => "number"
  | .text _ => "string"
  | .array _ => "array"
  | .object _ => "object"

namespace Schema

abbrev Checked (α : Type) := Except (List Issue) α

def issue {α : Type} (path : List String) (message : String) : Checked α :=
  .error [{ path := path, message := message }]

def mismatch {α : Type} (path : List String) (expected : String) (found : Json) : Checked α :=
  issue path ("Expected " ++ expected ++ ", received " ++ found.kind)

def join {α β : Type} (function : Checked (α → β)) (value : Checked α) : Checked β :=
  match function, value with
  | .ok function, .ok value => .ok (function value)
  | .ok _, .error issues => .error issues
  | .error issues, .ok _ => .error issues
  | .error issues, .error more => .error (issues ++ more)

def filledText (path : List String) : Option Json → Checked String
  | none => issue path "Required"
  | some (.text value) =>
      if value.isEmpty then issue path "String must contain at least 1 character(s)" else .ok value
  | some other => mismatch path "string" other

def textOr (fallback : String) (path : List String) : Option Json → Checked String
  | none => .ok fallback
  | some (.text value) => .ok value
  | some other => mismatch path "string" other

def truthOr (fallback : Bool) (path : List String) : Option Json → Checked Bool
  | none => .ok fallback
  | some (.truth value) => .ok value
  | some other => mismatch path "boolean" other

def optionalFilledText (path : List String) : Option Json → Checked (Option String)
  | none | some .null => .ok none
  | some other => (filledText path (some other)).map some

def elements {α : Type} (read : List String → Json → Checked α) (path : List String) :
    Option Json → Checked (List α)
  | none => .ok []
  | some (.array values) =>
      values.zipIdx.foldr
        (fun (value, index) rest =>
          join ((read (path ++ [toString index]) value).map List.cons) rest)
        (.ok [])
  | some other => mismatch path "array" other

end Schema

end Gatehouse.Json
