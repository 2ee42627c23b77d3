import Gatehouse.Proofs.Station.Moves

/-!
# Gateways drive their stations

A gateway that was started, and what happens to it from outside, does nothing to its station but
moves (`Gateway.IsDriven.undergoAll`). So whatever holds of a station in any order of moves holds of
the station of a gateway.
-/

namespace Gatehouse

inductive GatewayEvent where
  | connect (name : String)
  | receive (name : String) (chunk : Bytes)
  | disconnect (name : String)
  | answer (request : Web.Request)
  | advance (span : Number)
  | signal
  | look

namespace Web.Service

theorem leads_simulate (service : Service) (device : Device) (request : Access.Request) :
    service.station.Leads (service.simulate device request).1.station := by
  unfold simulate
  split
  · exact .refl _
  · dsimp only
    split <;> exact Station.leads_ask ..

theorem leads_answer (service : Service) (request : Request) :
    service.station.Leads (service.answer request).1.station := by
  unfold answer
  dsimp only
  cases route service.mount service.settings service.station.run.clock.instant request with
  | reply reply => exact .refl _
  | turnstiles => exact .refl _
  | history => exact .refl _
  | simulate device request => exact service.leads_simulate device request

end Web.Service

namespace Gateway

def undergo (gateway : Gateway) : GatewayEvent → Gateway
  | .connect name => gateway.connect name
  | .receive name chunk => gateway.receive name chunk
  | .disconnect name => gateway.disconnect name
  | .answer request => (gateway.answer request).1
  | .advance span => gateway.advance span
  | .signal => gateway.signal
  | .look => gateway.look.1

def IsTimely (gateway : Gateway) : GatewayEvent → Prop
  | .advance span => ∀ service, gateway.service = some service →
      ∀ timer ∈ (service.station.advance span).traffic.next?,
        (service.station.advance span).now ≤ timer.due
  | _ => True

/-- What events do one after another. -/
def undergoAll (gateway : Gateway) (events : List GatewayEvent) : Gateway :=
  events.foldl undergo gateway

def AreTimely : Gateway → List GatewayEvent → Prop
  | _, [] => True
  | gateway, event :: later => gateway.IsTimely event ∧ (gateway.undergo event).AreTimely later

/-- The station of a gateway, if there is one, has come by moves from where a gateway with its
settings begins. -/
def IsDriven (settings : Settings) (surroundings : Surroundings) (start : Rat)
    (gateway : Gateway) : Prop :=
  ∀ service, gateway.service = some service →
    ∃ store, (stationOf settings surroundings store start).Leads service.station

variable {settings : Settings} {surroundings : Surroundings} {now : Rat} {gateway after : Gateway}

theorem isDriven_of_none (none : gateway.service = none) :
    gateway.IsDriven settings surroundings now := by
  intro service found
  cases none.symm.trans found

theorem IsDriven.leads (driven : gateway.IsDriven settings surroundings now)
    {service later : Web.Service} (before : gateway.service = some service)
    (moved : after.service = some later) (leads : service.station.Leads later.station) :
    after.IsDriven settings surroundings now := by
  intro other found
  obtain rfl := Option.some.inj (moved.symm.trans found)
  obtain ⟨store, reached⟩ := driven service before
  exact ⟨store, reached.trans leads⟩

theorem service_openReaders (gateway : Gateway) (service : Web.Service) :
    (gateway.openReaders service).service =
      some (service.withStation service.station.listen.1) := by
  unfold openReaders
  dsimp only
  split <;> rfl

theorem leads_openServers (gateway : Gateway) (service : Web.Service) :
    ∃ later, (gateway.openServers service).service = some later ∧
      service.station.Leads later.station := by
  unfold openServers
  dsimp only
  split
  · split
    · exact ⟨service, rfl, .refl _⟩
    · split
      · exact ⟨_, service_openReaders .., service.station.leads_listen⟩
      · exact ⟨service, rfl, .refl _⟩
  · exact ⟨_, service_openReaders .., service.station.leads_listen⟩

theorem service_openStore (gateway : Gateway) :
    gateway.openStore.1.service = gateway.service := by
  unfold openStore
  split
  · split
    · rfl
    · split <;> rfl
  · dsimp only
    split <;> rfl

theorem isDriven_start (settings : Settings) (surroundings : Surroundings) (now : Rat) :
    (start settings surroundings now).IsDriven settings surroundings now := by
  have unopened := (idle settings surroundings).service_openStore
  unfold start
  generalize (idle settings surroundings).openStore = opened at unopened
  rcases opened with ⟨gateway, _ | store⟩
  · exact isDriven_of_none unopened
  · obtain ⟨later, found, leads⟩ := gateway.leads_openServers
      { mount := .nowhere, settings := settings.web, outage := none
        station := stationOf settings surroundings store now }
    intro service known
    obtain rfl := Option.some.inj (found.symm.trans known)
    exact ⟨store, leads⟩

theorem IsDriven.onStation (driven : gateway.IsDriven settings surroundings now)
    {event : Station → Station}
    (leads : ∀ service, gateway.service = some service →
      service.station.Leads (event service.station)) :
    (gateway.onStation event).IsDriven settings surroundings now := by
  unfold Gateway.onStation
  cases found : gateway.service with
  | none => exact isDriven_of_none found
  | some service => exact driven.leads found rfl (leads service found)

theorem IsDriven.signal (driven : gateway.IsDriven settings surroundings now) :
    gateway.signal.IsDriven settings surroundings now := by
  unfold Gateway.signal
  cases found : gateway.service with
  | none => exact isDriven_of_none found
  | some service =>
      dsimp only
      split
      · have stopped : service.station.Leads (stopTurnstiles service.station).close.1 :=
          (service.station.leads_play .stop).trans (Station.leads_close _)
        split <;> exact driven.leads found rfl stopped
      · exact driven

theorem IsDriven.look (driven : gateway.IsDriven settings surroundings now) :
    gateway.look.1.IsDriven settings surroundings now := by
  unfold Gateway.look
  cases found : gateway.service with
  | none => exact isDriven_of_none rfl
  | some service => exact driven.leads found rfl (service.station.leads_play .look)

theorem IsDriven.answer (driven : gateway.IsDriven settings surroundings now)
    (request : Web.Request) :
    (gateway.answer request).1.IsDriven settings surroundings now := by
  unfold Gateway.answer
  cases found : gateway.service with
  | none => exact isDriven_of_none found
  | some service =>
      dsimp only
      split
      · exact driven.leads found rfl (service.leads_answer request)
      · exact driven

theorem IsDriven.undergo (driven : gateway.IsDriven settings surroundings now)
    (event : GatewayEvent) (timely : gateway.IsTimely event) :
    (gateway.undergo event).IsDriven settings surroundings now := by
  cases event with
  | connect name => exact driven.onStation fun service _ => service.station.leads_connect name
  | receive name chunk =>
      exact driven.onStation fun service _ => service.station.leads_receive name chunk
  | disconnect name =>
      exact driven.onStation fun service _ => service.station.leads_disconnect name
  | answer request => exact driven.answer request
  | advance span =>
      exact driven.onStation fun service found =>
        Station.leads_advance span (timely service found)
  | signal => exact driven.signal
  | look => exact driven.look

theorem IsDriven.undergoAll (driven : gateway.IsDriven settings surroundings now)
    (events : List GatewayEvent) (timely : gateway.AreTimely events) :
    (gateway.undergoAll events).IsDriven settings surroundings now := by
  induction events generalizing gateway with
  | nil => exact driven
  | cons event later induction => exact induction (driven.undergo event timely.1) timely.2

end Gateway

end Gatehouse
