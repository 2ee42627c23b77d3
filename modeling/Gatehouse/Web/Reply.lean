import Gatehouse.Coordinator
import Gatehouse.Turnstile.Document
import Gatehouse.Web.Tag

/-!
# Answers of the web interface

What the web interface answers: a status, and a document for most of them. How an answer is sent
depends on the way of asking: only its head may be asked for, and a document that is still known is
not sent again.
-/

namespace Gatehouse.Web

structure Reply where
  status : Nat
  document : Option Json
  deriving DecidableEq

namespace Reply

def ok (document : Json) : Reply := { status := 200, document := some document }

def bare (status : Nat) : Reply := { status := status, document := none }

def health : Reply := ok (.object [("status", .text "ok")])

def notFound : Reply := bare 404

def badAddress : Reply := bare 400

def broken : Reply := bare 500

def unchanged : Reply := bare 304

def unauthenticated : Reply :=
  { status := 401, document := some (.object [("error", .text "UNAUTHENTICATED")]) }

def invalid (issues : List Issue) : Reply :=
  { status := 400
    document := some (.object [
      ("error", .text "INVALID_REQUEST"),
      ("details", .array (issues.map fun issue => .text issue.message))]) }

def refused (fault : Fault) : Reply :=
  { status := 400
    document := some (.object [
      ("error", .text (fault.code?.getD "")),
      ("message", .text fault.text)]) }

def failed : Reply :=
  { status := 500, document := some (.object [("error", .text "SIMULATION_FAILED")]) }

def outcome (outcome : Outcome) : Reply :=
  ok outcome.document

def turnstiles (ledger : Turnstile.Ledger) : Reply :=
  ok (.object [("turnstiles", ledger.document)])

def history (events : List Json) : Reply :=
  ok (.object [("events", .array events)])

def isGood (reply : Reply) : Bool :=
  200 ≤ reply.status && reply.status < 300

def isKnown (request : Request) (reply : Reply) : Bool :=
  reply.isGood && (request.spelled = .get || request.spelled = .head) &&
    reply.document.any (Tag.isFresh request.headers)

def sentTo (request : Request) (reply : Reply) : Reply :=
  if reply.isKnown request then unchanged
  else if request.spelled = .head then { reply with document := none }
  else reply

end Reply

end Gatehouse.Web
