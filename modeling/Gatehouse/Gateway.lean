import Gatehouse.Database
import Gatehouse.Register.Seed
import Gatehouse.Settings
import Gatehouse.Validation.Desk
import Gatehouse.Web.Service

/-!
# The gateway

The whole gateway, from its start to its end. It opens the register, then the web interface if the
settings ask for it, then the listener for readers; if one of these fails it gives up. A signal
closes all of them again, and the gateway ends when they are closed, whether that went well or not.
-/

namespace Gatehouse.Validation

/-!
## The desk of the settings

The desk that settings describe. A gateway that decides offline asks no authority; one that decides
online asks the authority first and keeps the register for the time when it does not answer.
-/

open Gatehouse.Authority

def remoteOf (settings : Settings.Authority) (acts : List Act) : Remote :=
  { channel := .http settings.url settings.apiKey, acts := acts }

def onlineOf (settings : Settings.Authority) : Online.Settings :=
  .ofNumbers settings.timeout settings.retries settings.pause

def offlineOf (settings : Settings.Validation) : Offline.Settings :=
  { window := settings.window, logDenials := settings.logDenials, ahead := .finite 0 }

def Desk.ofSettings (settings : Settings.Validation) (remote : Remote) (store : Store) : Desk :=
  let asked :=
    match settings.mode with
    | .online => some (remote, onlineOf settings.authority)
    | .offline => none
  .start asked .register (offlineOf settings) store

end Gatehouse.Validation

namespace Gatehouse

/-! ## From start to end -/

open Register

inductive ServerKind where
  | readers
  | web
  deriving DecidableEq

inductive ServerAct where
  | listen (server : ServerKind) (endpoint : Endpoint)
  | close (server : ServerKind)
  deriving DecidableEq

/-- What surrounds a gateway: the text of the seed file if there is one, how its servers bind, what
the database answers, and what the authority does. -/
structure Surroundings where
  seedText : Option String
  readers : Binding
  web : Binding
  database : Answerer
  authority : List Authority.Act

/-- A gateway: its servers and its database, whether it takes signals, over which pool the register
is asked, how many statements of the register were shown, and what was done since the last look. A
gateway whose register could not be opened has no service. -/
structure Gateway where
  settings : Settings
  surroundings : Surroundings
  service : Option Web.Service
  webOpen : Bool
  running : Bool
  database : Database
  pool : Nat
  shown : Nat
  servers : List ServerAct
  calls : List DatabaseCall
  exits : List Nat

namespace Gateway

def failureCode : Nat := 1

def closedCode : Nat := 0

def idle (settings : Settings) (surroundings : Surroundings) : Gateway :=
  { settings := settings, surroundings := surroundings, service := none, webOpen := false
    running := false, database := .closed, pool := 0, shown := 0, servers := [], calls := []
    exits := [] }

def giveUp (gateway : Gateway) : Gateway :=
  { gateway with exits := gateway.exits ++ [failureCode] }

def openStore (gateway : Gateway) : Gateway × Option Validation.Store :=
  match gateway.settings.store.kind with
  | .memory =>
      match gateway.settings.store.seedFile with
      | none => (gateway, some (.memory .empty []))
      | some file =>
          match Seed.registerOfFile file gateway.surroundings.seedText with
          | .ok memory => (gateway, some (.memory memory []))
          | .error _ => (gateway, none)
  | .postgres =>
      let asked :=
        gateway.database.init gateway.surroundings.database gateway.settings.database
      let opened :=
        { gateway with database := asked.database, calls := gateway.calls ++ asked.calls }
      match asked.result with
      | .ok pool => ({ opened with pool := pool }, some (.database gateway.surroundings.database))
      | .error _ => (opened, none)

def stationOf (settings : Settings) (surroundings : Surroundings) (store : Validation.Store)
    (now : Rat) : Station :=
  let remote := Validation.remoteOf settings.validation.authority surroundings.authority
  let desk := Validation.Desk.ofSettings settings.validation remote store
  let turnstiles :=
    Turnstile.Controller.start settings.turnstiles.rotationTimeout settings.turnstiles.historyLimit
  let coordinator := Coordinator.start turnstiles settings.protocol.seconds
  let announcer := Announcer.start true [] settings.web.historySize
  .start now (.start settings.server settings.protocol.codec surroundings.readers)
    (.start desk coordinator announcer)

def withService (gateway : Gateway) (service : Web.Service) : Gateway :=
  { gateway with service := some service }

def act (gateway : Gateway) (act : ServerAct) : Gateway :=
  { gateway with servers := gateway.servers ++ [act] }

def openReaders (gateway : Gateway) (service : Web.Service) : Gateway :=
  let (station, result) := service.station.listen
  let opened :=
    (gateway.act (.listen .readers service.station.listener.asked)).withService
      (service.withStation station)
  match result with
  | .ok _ => { opened with running := true }
  | .error _ => opened.giveUp

def openServers (gateway : Gateway) (service : Web.Service) : Gateway :=
  let web := gateway.settings.web
  if web.enabled then
    match Web.Mount.ofBasePath web.basePath with
    | .error _ => (gateway.withService service).giveUp
    | .ok mount =>
        let opened := gateway.act (.listen .web { host := Web.anyHost, port := web.port })
        match Web.listen web gateway.surroundings.web with
        | .ok _ => { opened with webOpen := true }.openReaders { service with mount := mount }
        | .error _ => (opened.withService service).giveUp
  else gateway.openReaders service

def start (settings : Settings) (surroundings : Surroundings) (now : Rat) : Gateway :=
  match (idle settings surroundings).openStore with
  | (gateway, none) => gateway.giveUp
  | (gateway, some store) =>
      gateway.openServers
        { mount := .nowhere, settings := settings.web, outage := none
          station := stationOf settings surroundings store now }

def onStation (gateway : Gateway) (event : Station → Station) : Gateway :=
  match gateway.service with
  | some service => gateway.withService (service.withStation (event service.station))
  | none => gateway

def connect (gateway : Gateway) (name : String) : Gateway :=
  gateway.onStation fun station => station.connect name

def receive (gateway : Gateway) (name : String) (chunk : Bytes) : Gateway :=
  gateway.onStation fun station => station.receive name chunk

def disconnect (gateway : Gateway) (name : String) : Gateway :=
  gateway.onStation fun station => station.disconnect name

def advance (gateway : Gateway) (span : Number) : Gateway :=
  gateway.onStation fun station => station.advance span

def answer (gateway : Gateway) (request : Web.Request) : Gateway × Option Web.Reply :=
  match gateway.service with
  | some service =>
      if gateway.webOpen then
        let (service, reply) := service.answer request
        (gateway.withService service, some reply)
      else (gateway, none)
  | none => (gateway, none)

def stopTurnstiles (station : Station) : Station :=
  let traffic := station.traffic
  let coordinator := traffic.coordinator
  { station with
    run := station.run.withState { traffic with
      coordinator := { coordinator with turnstiles := coordinator.turnstiles.close } } }

def closeReaders (gateway : Gateway) (service : Web.Service) : Gateway :=
  let stopped := stopTurnstiles service.station
  let noted := if stopped.listener.listening then gateway.act (.close .readers) else gateway
  noted.withService (service.withStation stopped.close.1)

def closeDatabase (gateway : Gateway) : Gateway :=
  let (database, calls) := gateway.database.close
  { gateway with database := database, calls := gateway.calls ++ calls }

/-- A signal asks the gateway to end. One that is not running takes no signals. -/
def signal (gateway : Gateway) : Gateway :=
  match gateway.service with
  | some service =>
      if gateway.running then
        let closed := (gateway.closeReaders service).closeDatabase
        let done := if gateway.webOpen then closed.act (.close .web) else closed
        { done with exits := done.exits ++ [closedCode] }
      else gateway
  | none => gateway

/-- What has been done since the last look: to servers, to connections and to the database, how
often the authority has been asked so far, and the codes with which the gateway wanted to end. -/
structure View where
  servers : List ServerAct
  sockets : List (String × SocketAct)
  calls : List DatabaseCall
  questions : Nat
  exits : List Nat

def statements (gateway : Gateway) : List Sql.Statement :=
  (gateway.service.map fun service => service.station.traffic.desk.statements).getD []

def look (gateway : Gateway) : Gateway × View :=
  let fresh := gateway.statements.drop gateway.shown
  let asked := fresh.map fun statement =>
    DatabaseCall.query gateway.pool statement.text (some statement.parameters)
  let (service, sockets, questions) :=
    match gateway.service with
    | some service =>
        let (station, seen) := service.station.look
        (some (service.withStation station), seen.filterMap Happening.act?,
          station.traffic.desk.questions.length)
    | none => (none, [], 0)
  ({ gateway with
      service := service, shown := gateway.statements.length, servers := [], calls := [],
      exits := [] },
    { servers := gateway.servers, sockets := sockets, calls := gateway.calls ++ asked
      questions := questions, exits := gateway.exits })

end Gateway

end Gatehouse
