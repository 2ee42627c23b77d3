import Gatehouse.Check
import Gatehouse.Coordinator

/-!
# Happenings

What can be seen of the gateway from outside, in the order in which it happens.
-/

namespace Gatehouse

abbrev SessionId := Nat

/-- What is done to a connection from this side: bytes are written, it is ended or destroyed, or it
is to be watched for a time of silence in milliseconds. -/
inductive SocketAct where
  | write (bytes : Bytes)
  | finish
  | destroy
  | watch (silence : Number)
  deriving DecidableEq

/-- What can be seen from outside: a notice, an announced decision, bytes written by a session, a
session that closes itself, something done to a connection, and the result of a request that came
from the web interface. -/
inductive Happening where
  | noted (notice : Notice)
  | announced (event : DecisionEvent)
  | wrote (session : SessionId) (bytes : Bytes)
  | closing (session : SessionId) (reason : String)
  | socket (name : String) (act : SocketAct)
  | answered (request : RequestId) (result : Except Fault Outcome)

namespace Happening

def notice? : Happening → Option Notice
  | .noted notice => some notice
  | _ => none

def event? : Happening → Option DecisionEvent
  | .announced event => some event
  | _ => none

def act? : Happening → Option (String × SocketAct)
  | .socket name act => some (name, act)
  | _ => none

def answer? : Happening → Option (RequestId × Except Fault Outcome)
  | .answered request result => some (request, result)
  | _ => none

end Happening

end Gatehouse
