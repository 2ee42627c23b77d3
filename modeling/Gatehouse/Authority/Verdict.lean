import Gatehouse.Json.Value
import Gatehouse.Text.Blank
import Gatehouse.Text.UpperCase

/-!
# Verdicts

What a remote authority says about a request. Authorities answer in several shapes: a truth value,
a word under one of a few names, or only a sentence. `interpret` reads them; whatever it cannot
read is a denial.
-/

namespace Gatehouse.Authority

structure Verdict where
  granted : Bool
  display : Option String
  reason : Option String
  deriving DecidableEq

namespace Verdict

def grantWords : List String := ["ACCEPTED", "GRANTED", "ALLOW", "ALLOWED"]

def denialWords : List String := ["REJECTED", "DENIED", "BLOCKED", "FORBIDDEN"]

def grantPhrase : String := "ACESSO LIBERADO"

/-- The phrase that denies wherever it stands, unless the text grants. -/
def denialPhrase : String := "ACESSO NEGADO"

def holdsPhrase (phrase : List Char) : List Char → Bool
  | [] => phrase.isEmpty
  | first :: rest => phrase.isPrefixOf (first :: rest) || holdsPhrase phrase rest

def normalize (text : String) : String :=
  Text.upper (Text.trim text)

def ofWord? (text : String) : Option Bool :=
  let normal := normalize text
  if grantWords.contains normal || holdsPhrase grantPhrase.toList normal.toList then some true
  else if denialWords.contains normal || holdsPhrase denialPhrase.toList normal.toList then
    some false
  else none

def textMember? (reply : Json) (name : String) : Option String :=
  (reply.member? name).bind Json.text?

def wordMembers : List String := ["status", "result", "decision", "message", "details"]

def flag? (reply : Json) : Option Bool :=
  ((reply.member? "granted").bind Json.truth?).orElse fun _ =>
    (reply.member? "accepted").bind Json.truth?

def word? (reply : Json) : Option Bool :=
  (wordMembers.filterMap (textMember? reply)).findSome? ofWord?

def unreadable : String := "UNREADABLE_RESPONSE"

def interpret (reply : Option Json) : Verdict :=
  match reply with
  | some (.object members) =>
      let reply : Json := .object members
      let display :=
        (textMember? reply "displayMessage").orElse fun _ => textMember? reply "message"
      let reason := textMember? reply "reason"
      match (flag? reply).orElse fun _ => word? reply with
      | some granted => { granted := granted, display := display, reason := reason }
      | none =>
          { granted := false, display := display
            reason := some (reason.getD unreadable) }
  | _ => { granted := false, display := none, reason := some unreadable }

end Verdict

end Gatehouse.Authority
