import Gatehouse.Proofs.Station.Driven
import Gatehouse.Proofs.Web.Guard

/-!
# Strangers at the web interface

A stranger sends requests that do not bring the key of the web interface. Whatever happens to a
gateway, its service keeps its settings, and it stands where they say (`Gateway.Serves`). So a
stranger changes nothing in a gateway, and learns nothing of it: any two gateways with the same
settings send the same replies (`strangers_learn_nothing`).
-/

namespace Gatehouse

namespace Web

variable {request : Request} {key : String}

/-- Whether a request brings a key. -/
def Request.Brings (request : Request) (key : String) : Prop :=
  ∃ header ∈ request.headers,
    Text.lowerBasic header.1 = "authorization" ∧ header.2 = "Bearer " ++ key

instance : Decidable (request.Brings key) :=
  inferInstanceAs (Decidable (∃ header ∈ request.headers, _))

theorem Headers.mem_of_find? {headers : Headers} {name value : String}
    (single : singular.contains name = true) (found : headers.find? name = some value) :
    ∃ header ∈ headers, Text.lowerBasic header.1 = name ∧ header.2 = value := by
  unfold find? at found
  split at found
  · cases found
  · next first others first_of =>
      have member : first ∈ headers.filter fun header => Text.lowerBasic header.1 == name := by
        rw [first_of]
        exact List.mem_cons_self
      obtain ⟨listed, named⟩ := List.mem_filter.mp member
      rw [if_pos single] at found
      exact ⟨first, listed, by simpa using named, Option.some.inj found⟩

theorem mayPass_of_stranger {settings : Settings.Web} (set : settings.apiKey = some key)
    (filled : key ≠ "") (stranger : ¬request.Brings key) :
    request.mayPass settings = false := by
  have missing : request.headers.find? "authorization" ≠ some ("Bearer " ++ key) := by
    intro found
    exact stranger (Headers.mem_of_find? (by decide +kernel) found)
  simp [Request.mayPass, set, filled, missing]

namespace Service

/-- A service that answers a request that may not pass stays as it is, and its reply comes from the
mount and the request alone. -/
theorem exists_answer (mount : Mount) (request : Request) :
    ∃ reply, ∀ service : Service, service.mount = mount →
      request.mayPass service.settings = false → service.answer request = (service, reply) := by
  obtain ⟨reply, same⟩ := exists_reply mount request
  refine ⟨reply.sentTo request, ?_⟩
  rintro service rfl keptOut
  rw [answer, same service.settings _ keptOut]
  rfl

theorem place_answer (service : Service) (request : Request) :
    ((service.answer request).1.mount, (service.answer request).1.settings) =
      (service.mount, service.settings) := by
  unfold answer
  dsimp only
  cases route service.mount service.settings service.station.run.clock.instant request with
  | reply reply => rfl
  | turnstiles => rfl
  | history => rfl
  | simulate device request =>
      unfold carryOut simulate
      dsimp only
      split
      · rfl
      · split <;> rfl

end Service

end Web

namespace Gateway

variable {gateway after : Gateway} {settings : Settings}

/-- Answers requests one after another. -/
def answerAll (gateway : Gateway) : List Web.Request → Gateway × List (Option Web.Reply)
  | [] => (gateway, [])
  | request :: later =>
      let (answered, reply) := gateway.answer request
      let (last, replies) := answered.answerAll later
      (last, reply :: replies)

/-- Where a gateway serves, and with which settings. -/
def place (gateway : Gateway) : Option (Web.Mount × Settings.Web) :=
  gateway.service.map fun service => (service.mount, service.settings)

/-- Where the web interface of a gateway is open, it has its settings and stands at their base
path. -/
def Serves (settings : Settings.Web) (gateway : Gateway) : Prop :=
  gateway.webOpen = true → ∃ mount, Web.Mount.ofBasePath settings.basePath = .ok mount ∧
    gateway.place = some (mount, settings)

structure Stays (before after : Gateway) : Prop where
  webOpen : after.webOpen = before.webOpen
  place : after.place = before.place

theorem Stays.refl : gateway.Stays gateway :=
  ⟨rfl, rfl⟩

theorem Serves.stays {settings : Settings.Web} (serves : gateway.Serves settings)
    (stays : gateway.Stays after) : after.Serves settings := by
  rw [Serves, stays.webOpen, stays.place]
  exact serves

theorem serves_of_closed {settings : Settings.Web} (closed : gateway.webOpen = false) :
    gateway.Serves settings := by
  intro opened
  cases closed.symm.trans opened

theorem stays_onStation (event : Station → Station) : gateway.Stays (gateway.onStation event) := by
  unfold onStation
  cases found : gateway.service with
  | none => exact .refl
  | some service => exact ⟨rfl, by rw [place, place, found]; rfl⟩

theorem stays_answer (request : Web.Request) : gateway.Stays (gateway.answer request).1 := by
  unfold answer
  cases found : gateway.service with
  | none => exact .refl
  | some service =>
      dsimp only
      split
      · refine ⟨rfl, ?_⟩
        rw [place, place, found]
        exact congrArg some (service.place_answer request)
      · exact .refl

theorem stays_signal : gateway.Stays gateway.signal := by
  unfold signal closeReaders
  cases found : gateway.service with
  | none => exact .refl
  | some service =>
      dsimp only
      split
      · refine ⟨?_, ?_⟩
        · split <;> split <;> rfl
        · rw [place, place, found]
          split <;> rfl
      · exact .refl

theorem stays_look : gateway.Stays gateway.look.1 := by
  unfold look
  cases found : gateway.service with
  | none => exact ⟨rfl, by rw [place, place, found]⟩
  | some service => exact ⟨rfl, by rw [place, place, found]; rfl⟩

theorem stays_undergo (event : GatewayEvent) : gateway.Stays (gateway.undergo event) := by
  cases event with
  | connect name => exact stays_onStation fun station => station.connect name
  | receive name chunk => exact stays_onStation fun station => station.receive name chunk
  | disconnect name => exact stays_onStation fun station => station.disconnect name
  | answer request => exact stays_answer request
  | advance span => exact stays_onStation fun station => station.advance span
  | signal => exact stays_signal
  | look => exact stays_look

theorem Serves.undergoAll {settings : Settings.Web} (serves : gateway.Serves settings)
    (events : List GatewayEvent) : (gateway.undergoAll events).Serves settings := by
  induction events generalizing gateway with
  | nil => exact serves
  | cons event later induction => exact induction (serves.stays (stays_undergo event))

theorem webOpen_openReaders (gateway : Gateway) (service : Web.Service) :
    (gateway.openReaders service).webOpen = gateway.webOpen := by
  unfold openReaders
  dsimp only
  split <;> rfl

theorem serves_openServers {service : Web.Service}
    (same : service.settings = gateway.settings.web) (closed : gateway.webOpen = false) :
    (gateway.openServers service).Serves gateway.settings.web := by
  unfold openServers
  dsimp only
  split
  · split
    · exact serves_of_closed closed
    · next mount read =>
        split
        · refine fun _ => ⟨mount, read, ?_⟩
          rw [place, service_openReaders, ← same]
          rfl
        · exact serves_of_closed closed
  · exact serves_of_closed ((gateway.webOpen_openReaders service).trans closed)

theorem openStore_keeps (gateway : Gateway) :
    gateway.openStore.1.settings = gateway.settings ∧
      gateway.openStore.1.webOpen = gateway.webOpen := by
  unfold openStore
  split
  · split
    · exact ⟨rfl, rfl⟩
    · split <;> exact ⟨rfl, rfl⟩
  · dsimp only
    split <;> exact ⟨rfl, rfl⟩

theorem serves_start (settings : Settings) (surroundings : Surroundings) (now : Rat) :
    (start settings surroundings now).Serves settings.web := by
  obtain ⟨same, closed⟩ := (idle settings surroundings).openStore_keeps
  unfold start
  generalize (idle settings surroundings).openStore = opened at same closed
  rcases opened with ⟨gateway, _ | store⟩
  · exact serves_of_closed closed
  · have web : settings.web = gateway.settings.web := congrArg Settings.web same.symm
    simp only [web]
    exact serves_openServers rfl closed

/-- A gateway that was started with some settings, whatever has happened to it since. -/
def IsOf (settings : Settings) (gateway : Gateway) : Prop :=
  ∃ surroundings now events, gateway = (start settings surroundings now).undergoAll events

theorem IsOf.serves (isOf : gateway.IsOf settings) : gateway.Serves settings.web := by
  obtain ⟨surroundings, now, events, rfl⟩ := isOf
  exact (serves_start settings surroundings now).undergoAll events

theorem answer_of_closed (closed : gateway.webOpen = false) (request : Web.Request) :
    gateway.answer request = (gateway, none) := by
  unfold answer
  split
  · simp [closed]
  · rfl

/-- A request that may not pass changes nothing in a gateway, and its reply comes from the settings
of the web interface and from whether it is open. -/
theorem exists_answer (settings : Settings.Web) (webOpen : Bool) {request : Web.Request}
    (keptOut : request.mayPass settings = false) :
    ∃ reply, ∀ gateway : Gateway, gateway.Serves settings → gateway.webOpen = webOpen →
      gateway.answer request = (gateway, reply) := by
  cases webOpen with
  | false => exact ⟨none, fun _ _ closed => answer_of_closed closed request⟩
  | true =>
      cases read : Web.Mount.ofBasePath settings.basePath with
      | error fault =>
          refine ⟨none, fun gateway serves opened => ?_⟩
          obtain ⟨mount, other, -⟩ := serves opened
          cases read.symm.trans other
      | ok mount =>
          obtain ⟨reply, same⟩ := Web.Service.exists_answer mount request
          refine ⟨some reply, fun gateway serves opened => ?_⟩
          obtain ⟨other, found, stands⟩ := serves opened
          obtain rfl := Except.ok.inj (read.symm.trans found)
          obtain ⟨service, known, spot⟩ := Option.map_eq_some_iff.mp stands
          obtain ⟨rfl, rfl⟩ := Prod.mk.inj spot
          have unchanged : gateway.withService service = gateway := by
            rw [withService, ← known]
          rw [answer, known]
          simp only [opened, if_true, same service rfl keptOut, unchanged]

theorem exists_answerAll (settings : Settings.Web) (webOpen : Bool) {requests : List Web.Request}
    (keptOut : ∀ request ∈ requests, request.mayPass settings = false) :
    ∃ replies, ∀ gateway : Gateway, gateway.Serves settings → gateway.webOpen = webOpen →
      gateway.answerAll requests = (gateway, replies) := by
  induction requests with
  | nil => exact ⟨[], fun _ _ _ => rfl⟩
  | cons request later induction =>
      obtain ⟨keptOut, others⟩ := List.forall_mem_cons.mp keptOut
      obtain ⟨reply, first⟩ := exists_answer settings webOpen keptOut
      obtain ⟨replies, rest⟩ := induction others
      refine ⟨reply :: replies, fun gateway serves same => ?_⟩
      rw [answerAll, first gateway serves same]
      simp only [rest gateway serves same]

/-- Where a key is set, requests that do not bring it change nothing in a gateway, and each is
answered at once, without a look at the turnstiles or the history and without a simulation. The
replies are those of any other gateway with these settings, whatever has happened to either. -/
theorem strangers_learn_nothing {settings : Settings} {key : String}
    (set : settings.web.apiKey = some key) (filled : key ≠ "") {requests : List Web.Request}
    (strangers : ∀ request ∈ requests, ¬request.Brings key) {gateway : Gateway}
    (isOf : gateway.IsOf settings) :
    (gateway.answerAll requests).1 = gateway ∧
      (∀ service, gateway.service = some service → gateway.webOpen = true →
        ∀ request ∈ requests, ∀ now, ∃ reply,
          Web.route service.mount service.settings now request = .reply reply) ∧
      ∀ other : Gateway, other.IsOf settings → other.webOpen = gateway.webOpen →
        (other.answerAll requests).2 = (gateway.answerAll requests).2 := by
  have keptOut (request : Web.Request) (member : request ∈ requests) :
      request.mayPass settings.web = false :=
    Web.mayPass_of_stranger set filled (strangers request member)
  obtain ⟨replies, same⟩ := exists_answerAll settings.web gateway.webOpen keptOut
  have answered := same gateway isOf.serves rfl
  refine ⟨by rw [answered], fun service known opened request member now => ?_,
    fun other otherIsOf together => ?_⟩
  · obtain ⟨mount, -, stands⟩ := isOf.serves opened
    obtain ⟨reply, atOnce⟩ := Web.exists_reply service.mount request
    refine ⟨reply, atOnce _ _ ?_⟩
    rw [place, known] at stands
    obtain ⟨-, web⟩ := Prod.mk.inj (Option.some.inj stands)
    rw [web]
    exact keptOut request member
  · rw [same other otherIsOf.serves together, answered]

/-- An environment with a web interface that has a key. -/
def keyed : Environment := fun name =>
  List.lookup name [("ACCESS_STORE", "memory"), ("WEB_ENABLED", "true"), ("WEB_API_KEY", "secret"),
    ("BASE_PATH", "/gateway")]

/-- Surroundings in which all goes well. -/
def untroubled : Surroundings :=
  { seedText := none, readers := .free, web := .free, database := fun _ => .ok [], authority := [] }

def simulation (headers : Web.Headers) (content : String) : Web.Request :=
  Web.Request.described
    { method := "POST", address := "/gateway/api/simulate", headers := headers
      content := some (.ofText content) }

/-- A simulation by someone who has the key. -/
def keyedSimulation : Web.Request :=
  simulation [("Authorization", "Bearer secret")]
    "\x7b\"deviceId\": 1, \"credential\": \"ABC123\"\x7d"

/-- The history without the key, a simulation with another key, and content that cannot be read. -/
def strangeRequests : List Web.Request := [
  { method := "GET", address := "/gateway/API/History/", headers := [], content := none },
  simulation [("Authorization", "Bearer other")] "\x7b\"deviceId\": 1\x7d",
  simulation [] "\x7b"]

/-- A gateway with a history answers strangers as a gateway without one does. -/
theorem strangers_learn_nothing_of_history :
    ∃ settings, Settings.ofEnvironment keyed = .ok settings ∧
      let fresh := start settings untroubled 0
      let used := fresh.undergoAll [.answer keyedSimulation]
      settings.web.apiKey = some "secret" ∧ "secret" ≠ "" ∧
        (∀ request ∈ strangeRequests, ¬request.Brings "secret") ∧
        used.webOpen = fresh.webOpen ∧
        fresh.service.map (fun service => service.history.events.length) = some 0 ∧
        used.service.map (fun service => service.history.events.length) = some 1 ∧
        (fresh.answerAll strangeRequests).2.map (Option.map Web.Reply.status) =
          [some 401, some 401, some 400] ∧
        (fresh.answerAll strangeRequests).1 = fresh ∧
        (used.answerAll strangeRequests).2 = (fresh.answerAll strangeRequests).2 := by
  have ran : (Settings.ofEnvironment keyed).toOption.map (fun settings =>
      let fresh := start settings untroubled 0
      let used := fresh.undergoAll [.answer keyedSimulation]
      (settings.web.apiKey, used.webOpen == fresh.webOpen,
        fresh.service.map (fun service => service.history.events.length),
        used.service.map (fun service => service.history.events.length),
        (fresh.answerAll strangeRequests).2.map (Option.map Web.Reply.status) ==
          [some 401, some 401, some 400])) =
      some (some "secret", true, some 0, some 1, true) := by
    decide +kernel
  cases loaded : Settings.ofEnvironment keyed with
  | error fault => simp [loaded, Except.toOption] at ran
  | ok settings =>
      simp only [loaded, Except.toOption, Option.map_some, Option.some.injEq, Prod.mk.injEq,
        beq_iff_eq] at ran
      obtain ⟨set, together, empty, entered, replies⟩ := ran
      have filled : "secret" ≠ "" := by decide
      have strangers : ∀ request ∈ strangeRequests, ¬request.Brings "secret" := by
        decide +kernel
      have begun : (start settings untroubled 0).IsOf settings := ⟨untroubled, 0, [], rfl⟩
      obtain ⟨unchanged, -, alike⟩ := strangers_learn_nothing set filled strangers begun
      exact ⟨settings, rfl, set, filled, strangers, together, empty, entered, replies, unchanged,
        alike _ ⟨untroubled, 0, [.answer keyedSimulation], rfl⟩ together⟩

end Gateway

end Gatehouse
