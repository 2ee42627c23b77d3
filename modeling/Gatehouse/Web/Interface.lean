import Gatehouse.Settings
import Gatehouse.Web.Content
import Gatehouse.Web.Mount
import Gatehouse.Web.Reply
import Gatehouse.Web.Simulation

/-!
# The web interface

What the web interface makes of a request. `route` looks at the request alone and says what is to
be done: it may be answered at once, it may ask to see the turnstiles or the history, or it may
simulate the request of a reader. Only what passes the guard of the interface can ask for more than
an answer at once.

A check of the gateway's health is served outside the mount. Below the mount the content is read
before the guard looks at the request, so unreadable content is refused even without the key.

Paths are compared without regard to letter case or to one slash at the end. What stands below a
path goes on with a slash.
-/

namespace Gatehouse.Web.Path

def fold (path : List Char) : List Char :=
  path.map Char.toLower

def isRoute (route : String) (path : List Char) : Bool :=
  fold path == fold route.toList || fold path == fold (route.toList ++ ['/'])

def isBoundary : List Char → Bool
  | [] => true
  | first :: _ => first == '/'

def isAtOrBelow (route : String) (path : List Char) : Bool :=
  let size := route.toList.length
  fold (path.take size) == fold route.toList && isBoundary (path.drop size)

example : isAtOrBelow "/api" "/API/x".toList = true := by decide +kernel
example : isAtOrBelow "/api" "/apix".toList = false := by decide +kernel
example : isRoute "/health" "/Health/".toList = true := by decide +kernel

end Gatehouse.Web.Path

namespace Gatehouse.Web

inductive Action where
  | reply (reply : Reply)
  | turnstiles
  | history
  | simulate (device : Device) (request : Access.Request)
  deriving DecidableEq

/-- Whether a request may pass the guard: the interface has no key, or the request carries it. -/
def Request.mayPass (request : Request) (settings : Settings.Web) : Bool :=
  match settings.apiKey with
  | none => true
  | some key => key.isEmpty || request.headers.find? "authorization" == some ("Bearer " ++ key)

def healthPath : String := "/health"

def guardedPath : String := "/api"

def turnstilesPath : String := "/api/turnstiles"

def historyPath : String := "/api/history"

def simulatePath : String := "/api/simulate"

def simulate (now : Time.Instant) (document : Json) : Action :=
  match Simulation.ofJson document with
  | .error issues => .reply (.invalid issues)
  | .ok simulation =>
      match simulation.request now with
      | .error fault => .reply (.refused fault)
      | .ok (device, request) => .simulate device request

def isServed (path : List Char) : Bool :=
  [turnstilesPath, historyPath, simulatePath].any fun route => Path.isRoute route path

def serve (now : Time.Instant) (method : Method) (path : List Char) (document : Json) : Action :=
  match method with
  | .get | .head =>
      if Path.isRoute turnstilesPath path then .turnstiles
      else if Path.isRoute historyPath path then .history
      else .reply .notFound
  | .post =>
      if Path.isRoute simulatePath path then simulate now document else .reply .notFound
  | .options | .other => .reply .notFound

def routeBelow (settings : Settings.Web) (now : Time.Instant) (request : Request)
    (path : List Char) : Action :=
  match request.document with
  | .error flaw => .reply (.bare flaw.status)
  | .ok document =>
      if Path.isAtOrBelow guardedPath path && !request.mayPass settings then
        .reply .unauthenticated
      else if request.spelled = .options && isServed path then .reply (.bare 200)
      else serve now request.asked path document

def routeMounted (mount : Mount) (settings : Settings.Web) (now : Time.Instant)
    (request : Request) (path : List Char) : Action :=
  match mount.take path with
  | .missed => .reply .notFound
  | .unreadable => .reply .badAddress
  | .nameless => .reply .broken
  | .units count =>
      let address := request.address.toList
      match Address.path? (if count = 0 then address else Address.below count address) with
      | none => .reply .notFound
      | some path => routeBelow settings now request path

def route (mount : Mount) (settings : Settings.Web) (now : Time.Instant) (request : Request) :
    Action :=
  match Address.path? request.address.toList with
  | none => .reply .notFound
  | some path =>
      let healthy := Path.isRoute healthPath path
      if healthy && (request.asked = .get || request.asked = .head) then .reply .health
      else
        match routeMounted mount settings now request path with
        | .reply reply =>
            .reply (if healthy && request.spelled = .options && reply.status = 404 then .bare 200
              else reply)
        | action => action

end Gatehouse.Web
