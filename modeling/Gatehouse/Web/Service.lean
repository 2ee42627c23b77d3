import Gatehouse.Station
import Gatehouse.Web.Interface

/-!
# The web interface at work

The web interface before a station: what it makes of a request is carried out. Simulated requests
go the way of all requests, unless something stands in their way; time passes until they are
answered.
-/

namespace Gatehouse.Web

/-- The web interface with its station, and where it stands. An outage lets every simulation fail.
-/
structure Service where
  mount : Mount
  settings : Settings.Web
  outage : Option Fault
  station : Station

namespace Service

def history (service : Service) : History Json :=
  service.station.traffic.announcer.history

def withStation (service : Service) (station : Station) : Service :=
  { service with station := station }

def record (service : Service) (event : Json) : Service × Except Fault Unit :=
  let station := service.station
  let traffic := station.traffic
  let announcer := traffic.announcer
  let entered :=
    { traffic with announcer := { announcer with history := announcer.history.record event } }
  (service.withStation { station with run := station.run.withState entered },
    match announcer.history.obstacle with
    | some fault => .error fault
    | none => .ok ())

def simulate (service : Service) (device : Device) (request : Access.Request) :
    Service × Reply :=
  match service.outage with
  | some _ => (service, .failed)
  | none =>
      let (station, result) :=
        service.station.ask { device := device, request := request, origin := .web }
      match result with
      | some (.ok outcome) => (service.withStation station, .outcome outcome)
      | _ => (service.withStation station, .failed)

def carryOut (service : Service) : Action → Service × Reply
  | .reply reply => (service, reply)
  | .turnstiles => (service, .turnstiles service.station.traffic.coordinator.turnstiles.ledger)
  | .history => (service, .history service.history.events)
  | .simulate device request => service.simulate device request

def answer (service : Service) (request : Request) : Service × Reply :=
  let now := service.station.run.clock.instant
  let (after, reply) := service.carryOut (route service.mount service.settings now request)
  (after, reply.sentTo request)

def advance (service : Service) (span : Number) : Service :=
  service.withStation (service.station.advance span)

end Service

def anyHost : String := "0.0.0.0"

/-- The web interface begins to listen; the port that it got, or the one it asked for where none is
known. -/
def listen (settings : Settings.Web) (binding : Binding) : Except Fault Number :=
  match binding.refusal with
  | some text => .error (.reported text)
  | none =>
      let got := binding.endpoint? { host := anyHost, port := settings.port }
      .ok ((got.map Endpoint.port).getD settings.port)

/-- The web interface is opened, unless the settings do not want it: its base path is read, and it
begins to listen. -/
def start (settings : Settings.Web) (binding : Binding) : Except Fault (Option Number) :=
  if settings.enabled then do
    let _ ← Mount.ofBasePath settings.basePath
    return some (← listen settings binding)
  else .ok none

def close (binding : Binding) : Except Fault Unit :=
  match binding.stuck with
  | some text => .error (.reported text)
  | none => .ok ()

end Gatehouse.Web
