import Gatehouse.Access.Basic
import Gatehouse.Authority.Verdict
import Gatehouse.Fault
import Gatehouse.Json.Reader
import Gatehouse.Time.Iso
import Gatehouse.Time.Stamp

/-!
# Asking an authority

An authority is asked over HTTP or in the same process. What the other side does is a script: one
act for each question, the last one for all further questions. A question over HTTP carries the
request as a document; a request whose timestamp is no valid instant has no such document and fails
before anything is sent.
-/

namespace Gatehouse.Authority

inductive Coming where
  | atOnce
  | later (delay : Nat)
  | never
  deriving DecidableEq

/-- What comes: a verdict, a verdict that cannot be shown with the complaint about it, the body of a
reply, or a failure. -/
inductive Word where
  | verdict (verdict : Verdict)
  | unshowable (complaint : String)
  | body (text : String)
  | failure (text : String)
  deriving DecidableEq

structure Act where
  word : Word
  coming : Coming
  deriving DecidableEq

/-- How the other side is reached. An empty key counts as none. -/
inductive Channel where
  | direct
  | http (url : String) (apiKey : Option String)
  deriving DecidableEq

structure Remote where
  channel : Channel
  acts : List Act
  deriving DecidableEq

def requestBody (request : Access.Request) (timestamp : String) : Json :=
  .object [
    ("credential", .text request.credential),
    ("timestamp", .text timestamp),
    ("deviceTimestamp", .text (Time.Stamp.write request.timestamp)),
    ("direction", .text request.direction.name),
    ("readerType", .text request.reader.name)]

structure Posted where
  url : String
  authorization : Option String
  body : Json

structure Asked where
  time : Rat
  posted : Option Posted
  aborted : Bool

structure Answer where
  asked : Option (Option Posted)
  result : Except Fault Verdict
  coming : Coming

def Remote.act (remote : Remote) (question : Nat) : Act :=
  (remote.acts[question]?.orElse fun _ => remote.acts.getLast?).getD
    { word := .failure "", coming := .never }

/-- What a word amounts to. The body of a reply is a document if it can be read as one, and else a
text, which decides nothing. -/
def Word.result (channel : Channel) : Word → Except Fault Verdict
  | .verdict given => .ok given
  | .unshowable complaint => .error (.mistyped complaint)
  | .body content => .ok (Verdict.interpret (Json.read content))
  | .failure text =>
      match channel with
      | .direct => .error (.reported text)
      | .http .. => .error (.exchange text)

/-- Whether a character may stand in the value of a header: a tab, and what is printable in one
byte. -/
def isHeaderCharacter (character : Char) : Bool :=
  character == '\t' || (' ' ≤ character && character ≤ '~') ||
    ('\u0080' ≤ character && character ≤ '\u00ff')

/-- The value of a header: what may not stand in it is left out, and so are the spaces and tabs at
its end. -/
def headerValue (text : String) : String :=
  let kept := text.toList.filter isHeaderCharacter
  let isBlank (character : Char) : Bool := character == ' ' || character == '\t'
  String.ofList (kept.reverse.dropWhile isBlank).reverse

def authorization (apiKey : Option String) : Option String :=
  (apiKey.filter fun key => !key.isEmpty).map fun key => headerValue ("Bearer " ++ key)

example : authorization (some "a\r\nb \t") = some "Bearer ab" := by decide +kernel
example : authorization (some " ") = some "Bearer" := by decide +kernel

/-- Asks a question; the number of questions asked before says which act answers it. -/
def Remote.ask (remote : Remote) (request : Access.Request) (question : Nat) : Answer :=
  let act := remote.act question
  match remote.channel with
  | .direct => { asked := some none, result := act.word.result .direct, coming := act.coming }
  | .http url apiKey =>
      match Time.Iso.write? request.timestamp with
      | none => { asked := none, result := .error .noTimeText, coming := .atOnce }
      | some timestamp =>
          let posted : Posted :=
            { url := url
              authorization := authorization apiKey
              body := requestBody request timestamp }
          { asked := some (some posted), result := act.word.result remote.channel
            coming := act.coming }

end Gatehouse.Authority
