import Gatehouse.Binding
import Gatehouse.Settings
import Gatehouse.Traffic

/-!
# The listener

Readers connect over sockets. The listener accepts a bounded number of connections and gives each a
session of its own; what the session writes goes to the connection, and a session that closes
itself ends the connection. Connections are known by names from outside; a name may come back with
a new connection.
-/

namespace Gatehouse

/-- The listener: how it is set up, whether it holds an endpoint, whether failures of its own are
reported, the calls so far, the latest first, each with its session if it was accepted, and the
sessions of the open connections. -/
structure Listener where
  settings : Settings.Server
  codec : Frame.Codec
  binding : Binding
  listening : Bool
  reporting : Bool
  calls : List (String × Option SessionId)
  connected : List SessionId

namespace Listener

def start (settings : Settings.Server) (codec : Frame.Codec) (binding : Binding) : Listener :=
  { settings := settings, codec := codec, binding := binding, listening := false
    reporting := false, calls := [], connected := [] }

def alreadyListening : String := "Turnstile server is already listening"

def unexpectedAddress : Bound → String
  | .named text => "Unexpected listen address " ++ text
  | .asked | .unknown => "Unexpected listen address null"

def asked (listener : Listener) : Endpoint :=
  { host := listener.settings.host, port := listener.settings.port }

/-- Begins to listen. A listener whose binding fails counts as listening until it is closed. -/
def listen (listener : Listener) (traffic : Traffic) :
    Listener × Traffic × Except Fault Endpoint :=
  if listener.listening then (listener, traffic, .error (.reported alreadyListening))
  else
    match listener.binding.refusal with
    | some text =>
        ({ listener with listening := true, reporting := false }, traffic, .error (.reported text))
    | none =>
        let opened := { listener with listening := true, reporting := true }
        match listener.binding.endpoint? listener.asked with
        | some endpoint => (opened, traffic.note [.listening], .ok endpoint)
        | none =>
            (opened, traffic, .error (.reported (unexpectedAddress listener.binding.bound)))

def name? (listener : Listener) (session : SessionId) : Option String :=
  (listener.calls.find? fun (_, found) => found == some session).map Prod.fst

def session? (listener : Listener) (name : String) : Option SessionId :=
  (listener.calls.lookup name).bind id

def touch (listener : Listener) (session : SessionId) (act : SocketAct) : List Happening :=
  ((listener.name? session).map fun name => Happening.socket name act).toList

def close (listener : Listener) (traffic : Traffic) : Listener × Traffic × Except Fault Unit :=
  if listener.listening then
    let closed := listener.connected.foldl Traffic.closeSession traffic
    ({ listener with listening := false, connected := [] },
      closed.reveal (listener.connected.flatMap fun session => listener.touch session .destroy),
      match listener.binding.stuck with
      | some text => .error (.reported text)
      | none => .ok ())
  else (listener, traffic, .ok ())

def isFull (listener : Listener) : Bool :=
  listener.settings.maxConnections.le (.ofNat listener.connected.length)

def greeting (listener : Listener) (name : String) : List Happening :=
  if (Number.finite 0).lt listener.settings.idleTimeout then
    [.socket name (.watch listener.settings.idleTimeout)]
  else []

def connect (listener : Listener) (traffic : Traffic) (name : String) : Listener × Traffic :=
  if listener.isFull then
    ({ listener with calls := (name, none) :: listener.calls },
      traffic.reveal [.noted .connectionRefused, .socket name .destroy])
  else
    let (opened, session) :=
      traffic.openSession (.start listener.codec listener.settings.maxErrors [])
    ({ listener with
        calls := (name, some session) :: listener.calls
        connected := listener.connected ++ [session] },
      opened.reveal (.noted .readerConnected :: listener.greeting name))

def receive (listener : Listener) (traffic : Traffic) (name : String) (chunk : Bytes) :
    Traffic × Agenda.Line TrafficJob :=
  match listener.session? name with
  | some session => traffic.receive session chunk
  | none => (traffic, [])

def idle (listener : Listener) (traffic : Traffic) (name : String) : Traffic :=
  match listener.session? name with
  | some _ =>
      if (Number.finite 0).lt listener.settings.idleTimeout then
        traffic.reveal [.noted .readerIdle, .socket name .finish]
      else traffic
  | none => traffic

/-- A connection fails. Nobody listens to a connection that was turned away, so its failure comes
back. -/
def fail (listener : Listener) (traffic : Traffic) (name : String) (failure : Fault) :
    Traffic × Except Fault Unit :=
  match listener.calls.lookup name with
  | some (some _) => (traffic.note [.readerFailed], .ok ())
  | some none => (traffic, .error failure)
  | none => (traffic, .ok ())

def disconnect (listener : Listener) (traffic : Traffic) (name : String) : Listener × Traffic :=
  match listener.session? name with
  | some session =>
      ({ listener with connected := listener.connected.filter fun other => other != session },
        (traffic.closeSession session).note [.readerDisconnected])
  | none => (listener, traffic)

def failSelf (listener : Listener) (traffic : Traffic) : Traffic :=
  if listener.reporting then traffic.note [.listenerFailed] else traffic

def relay (listener : Listener) : Happening → List Happening
  | .wrote session bytes => listener.touch session (.write bytes)
  | .closing session _ => .noted .connectionClosing :: listener.touch session .finish
  | other => [other]

end Listener

end Gatehouse
