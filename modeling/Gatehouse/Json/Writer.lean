import Gatehouse.Json.Value
import Gatehouse.Number.Text

/-!
# Writing documents

The compact text of a document. A number that is no finite value is written as null.
-/

namespace Gatehouse.Json

def shortEscapes : List (Nat × Char) :=
  [(0x08, 'b'), (0x09, 't'), (0x0a, 'n'), (0x0c, 'f'), (0x0d, 'r')]

/-- A character within a string. Only quotes, the mark of an escape and control characters are
escaped, and those with a letter of their own take it. -/
def escapeChar (character : Char) : List Char :=
  if character = '"' then ['\\', '"']
  else if character = '\\' then ['\\', '\\']
  else if character.toNat < 0x20 then
    match shortEscapes.lookup character.toNat with
    | some letter => ['\\', letter]
    | none =>
        ['\\', 'u', '0', '0', Nat.digitChar (character.toNat / 16),
          Nat.digitChar (character.toNat % 16)]
  else [character]

def writeString (text : String) : String :=
  "\"" ++ String.ofList (text.toList.flatMap escapeChar) ++ "\""

mutual

def write : Json → String
  | .null => "null"
  | .truth true => "true"
  | .truth false => "false"
  | .number (.finite value) => Number.rationalText value
  | .number _ => "null"
  | .text value => writeString value
  | .array elements => "[" ++ writeElements elements ++ "]"
  | .object members => "\x7b" ++ writeMembers members ++ "\x7d"

def writeElements : List Json → String
  | [] => ""
  | [value] => write value
  | value :: rest => write value ++ "," ++ writeElements rest

def writeMembers : List (String × Json) → String
  | [] => ""
  | [(name, value)] => writeString name ++ ":" ++ write value
  | (name, value) :: rest => writeString name ++ ":" ++ write value ++ "," ++ writeMembers rest

end

example : write (.object [("a", .array [.text "\"\n\x1f", .null])]) =
    "\x7b\"a\":[\"\\\"\\n\\u001f\",null]\x7d" := by decide +kernel

end Gatehouse.Json
