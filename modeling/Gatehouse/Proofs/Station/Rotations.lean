import Gatehouse.Proofs.Settings.Bounds
import Gatehouse.Proofs.Station.Moves

/-!
# Rotations that time out in time

In a station every alarm belongs to an open cycle and is still to come, whatever moves are made
(`Station.IsPunctual`). A cycle that was opened keeps its one alarm until it ends, so its turnstile
reports, its device asks again, or the alarm goes off at its time (`rotation_timeout`). That time is
the timeout of the settings after the grant, unless timers cannot wait so long: those count a single
millisecond then (`Settings.hasDelay`).
-/

namespace Gatehouse

open Turnstile

namespace Settings

/-- What timers make of the timeout in some settings: they keep it as far as they can wait that
long, and otherwise wait for one millisecond. -/
inductive Turnstiles.HasDelay (turnstiles : Turnstiles) : Nat → Prop
  | kept {delay : Nat} : turnstiles.rotationTimeout = .ofNat delay →
      1 ≤ delay ∧ delay ≤ Agenda.maxDelay → HasDelay turnstiles delay
  | lost : Number.lt (.ofNat Agenda.maxDelay) turnstiles.rotationTimeout = true →
      HasDelay turnstiles 1

theorem Turnstiles.HasDelay.eq_of_kept {turnstiles : Turnstiles} {delay timeout : Nat}
    (hasDelay : turnstiles.HasDelay delay) (same : turnstiles.rotationTimeout = .ofNat timeout)
    (inRange : timeout ≤ Agenda.maxDelay) : delay = timeout := by
  cases hasDelay with
  | kept kept => exact Number.ofNat_inj.mp (kept.symm.trans same)
  | lost long =>
      rw [same, Number.lt_ofNat, decide_eq_true_eq] at long
      exact absurd inRange (not_le.mpr long)

theorem turnstiles_ofEnvironment {named : Environment} {settings : Settings}
    (loaded : Settings.ofEnvironment named = .ok settings) :
    settings.turnstiles = .ofEnvironment named := by
  rcases eq_of_loaded loaded with ⟨_, -, rfl⟩
  rfl

theorem hasDelay {named : Environment} {settings : Settings}
    (loaded : Settings.ofEnvironment named = .ok settings) :
    settings.turnstiles.HasDelay (Agenda.delay settings.turnstiles.rotationTimeout) := by
  rw [turnstiles_ofEnvironment loaded]
  have usual : Controller.defaultTimeout.IsCount := .count 10000
  have read : (Turnstiles.ofEnvironment named).rotationTimeout =
      Number.max (.ofNat 1) (count Controller.defaultTimeout (named "ROTATION_TIMEOUT_MS")) := rfl
  rcases (isCount_count usual (named "ROTATION_TIMEOUT_MS")).max 1 with
    unbounded | ⟨count, least, raised⟩
  · rw [unbounded] at read
    rw [read]
    exact .lost (by rw [read]; rfl)
  · rw [raised] at read
    rw [read]
    by_cases inRange : count ≤ Agenda.maxDelay
    · rw [Agenda.delay_ofNat ⟨least, inRange⟩]
      exact .kept read ⟨least, inRange⟩
    · rw [Agenda.delay_of_long (not_le.mp inRange)]
      exact .lost (by rw [read, Number.lt_ofNat]; simpa using inRange)

end Settings

namespace Station

variable {station after : Station} {delay : Nat} {device : Device} {due : Rat} {move : StationMove}

def state (station : Station) (device : Device) : State :=
  station.turnstiles.state device

def history (station : Station) (device : Device) : List Transition :=
  station.turnstiles.ledger.history device

def keep (station : Station) (transitions : List Transition) : List Transition :=
  station.turnstiles.ledger.capacity.keepLast transitions

def instant (station : Station) : Time.Instant :=
  station.run.clock.instant

/-- Every alarm is still to come and belongs to an open cycle, which has no other. -/
def IsPunctual (delay : Nat) (station : Station) : Prop :=
  station.turnstiles.IsPunctual delay station.now

theorem IsPunctual.turns (punctual : station.IsPunctual delay)
    (turns : station.Turns move after) : after.IsPunctual delay := by
  unfold IsPunctual at punctual ⊢
  cases turns with
  | still turnstiles now =>
      rw [turnstiles, now]
      exact punctual
  | passed turnstiles next =>
      rw [turnstiles]
      refine punctual.pass fun alarm member => ?_
      cases first : station.turnstiles.alarms.timers.next? with
      | none =>
          rw [List.head?_eq_none_iff.mp first] at member
          cases member
      | some timer => exact (next timer first).trans (punctual.next_le first alarm member)
  | stopped turnstiles now =>
      rw [turnstiles, now]
      exact punctual.close
  | worked taken turns now =>
      rw [now]
      exact punctual.change turns.change
  | @rang alarm after next turnstiles now =>
      rw [turnstiles, now]
      -- The clock goes to the time of the alarm first, and no other alarm is due before.
      let clock : Agenda.Clock := { station.run.clock with now := alarm.due }
      have still : station.turnstiles.IsPunctual delay clock.now :=
        punctual.pass (punctual.next_le next)
      exact still.change (punctual.change_ring next clock)

theorem IsPunctual.playAll (punctual : station.IsPunctual delay) (moves : List StationMove) :
    (station.playAll moves).IsPunctual delay := by
  induction moves generalizing station with
  | nil => exact punctual
  | cons move later induction => exact induction (punctual.turns (station.turns_play move))

theorem Leads.punctual (leads : station.Leads after) (punctual : station.IsPunctual delay) :
    after.IsPunctual delay := by
  obtain ⟨moves, rfl⟩ := leads
  exact punctual.playAll moves

inductive Ends (station : Station) (device : Device) : StationMove → Prop
  | worked {place rounds : Nat} {job : TrafficJob} :
      station.run.line[place]? = some (rounds, job) → station.traffic.Ends device job →
      Ends station device (.work place)

structure TimedOut (station : Station) (device : Device) (due : Rat) (after : Station) : Prop where
  now : after.now = due
  idle : after.state device = .idle
  history : after.history device = station.keep (station.history device ++
    [⟨.waitingRotation, .rotationTimeout, .timeout, after.instant⟩,
      ⟨.rotationTimeout, .idle, .reset, after.instant⟩])

/-- An open cycle is timed out at some moment, unless it ends before. -/
structure Awaits (station : Station) (device : Device) (due : Rat) : Prop where
  ahead : station.now ≤ due
  alarm : ∃ stamp, station.turnstiles.alarms.of device = [⟨due, stamp, device⟩]
  fires : ∀ stamp, station.traffic.next? = some ⟨due, stamp, .rotation device⟩ →
    station.TimedOut device due (station.play .fire)
  ends : ∀ move, (station.play move).state device ≠ .waitingRotation →
    station.Ends device move ∨ move = .fire ∧ station.TimedOut device due (station.play move)

theorem IsPunctual.timedOut (punctual : station.IsPunctual delay)
    (isDue : station.turnstiles.IsDue device due) {alarm : Agenda.Pending Device}
    (next : station.turnstiles.alarms.timers.next? = some alarm) (own : alarm.item = device)
    (turnstiles : after.turnstiles =
      (station.turnstiles.ring { station.run.clock with now := alarm.due } alarm.item).1)
    (now : after.now = alarm.due) : station.TimedOut device due after := by
  subst own
  have due_eq : alarm.due = due := by
    obtain ⟨-, stamp, single⟩ := punctual.of_isDue isDue
    have member : alarm ∈ station.turnstiles.alarms.of alarm.item :=
      List.mem_filter.mpr ⟨List.mem_of_head? next, by simp⟩
    rw [single] at member
    exact congrArg Agenda.Pending.due (List.mem_singleton.mp member)
  have instant : after.instant =
      ({ station.run.clock with now := alarm.due } : Agenda.Clock).instant :=
    congrArg (fun moment => Time.Instant.ofMillis (Number.truncate moment)) now
  refine ⟨now.trans due_eq, ?_, ?_⟩
  · unfold state
    rw [turnstiles, punctual.state_ring next, if_pos rfl]
  · unfold history keep
    rw [turnstiles, instant]
    exact punctual.history_ring next _

theorem IsPunctual.awaits (punctual : station.IsPunctual delay)
    (isDue : station.turnstiles.IsDue device due) : station.Awaits device due := by
  obtain ⟨ahead, alarm⟩ := punctual.of_isDue isDue
  refine ⟨ahead, alarm, fun stamp next => ?_, fun move ended => ?_⟩
  · rcases Traffic.next?_cases next with ⟨timer, first, same⟩ | ⟨⟨_, other⟩, -⟩
    · cases same
      refine punctual.timedOut isDue first rfl ?_ ?_
      all_goals rw [play, fire, next]; rfl
    · cases other
  · -- The end of a cycle shows in the turnstiles, so only a job or an alarm can have brought it.
    cases station.turns_play move with
    | still turnstiles => exact absurd isDue.waiting (turnstiles ▸ ended)
    | passed turnstiles => exact absurd isDue.waiting (turnstiles ▸ ended)
    | stopped => exact absurd isDue.waiting ended
    | worked taken turns => exact .inl (.worked taken (turns.ends isDue.waiting ended))
    | @rang timer _ next turnstiles now =>
        by_cases own : timer.item = device
        · exact .inr ⟨rfl, punctual.timedOut isDue next own turnstiles now⟩
        · unfold state at ended
          rw [turnstiles, punctual.state_ring next, if_neg fun same => own same.symm] at ended
          exact absurd isDue.waiting ended

/-- A turnstile stays open through some moves, none of which stops all turnstiles. -/
def StaysOpen (device : Device) : Station → List StationMove → Prop
  | station, [] => station.state device = .waitingRotation
  | station, move :: later =>
      station.state device = .waitingRotation ∧ move ≠ .stop ∧
        (station.play move).StaysOpen device later

instance decidableStaysOpen (device : Device) : (station : Station) → (moves : List StationMove) →
    Decidable (station.StaysOpen device moves)
  | station, [] => inferInstanceAs (Decidable (station.state device = .waitingRotation))
  | station, move :: later =>
      have := decidableStaysOpen device (station.play move) later
      inferInstanceAs (Decidable (station.state device = .waitingRotation ∧ move ≠ .stop ∧
        (station.play move).StaysOpen device later))

theorem StaysOpen.waiting {moves : List StationMove} (stays : station.StaysOpen device moves) :
    station.state device = .waitingRotation := by
  cases moves with
  | nil => exact stays
  | cons move later => exact stays.1

theorem IsPunctual.isDue_turns (punctual : station.IsPunctual delay)
    (isDue : station.turnstiles.IsDue device due) (turns : station.Turns move after)
    (running : move ≠ .stop) (waiting : after.state device = .waitingRotation) :
    after.turnstiles.IsDue device due := by
  cases turns with
  | still turnstiles => exact turnstiles ▸ isDue
  | passed turnstiles => exact turnstiles ▸ isDue
  | stopped => exact absurd rfl running
  | worked taken turns => exact isDue.change turns.change waiting
  | rang next turnstiles =>
      unfold state at waiting
      rw [turnstiles] at waiting ⊢
      exact isDue.change (punctual.change_ring next _) waiting

theorem IsPunctual.isDue_playAll (punctual : station.IsPunctual delay)
    (isDue : station.turnstiles.IsDue device due) {moves : List StationMove}
    (stays : station.StaysOpen device moves) :
    (station.playAll moves).turnstiles.IsDue device due := by
  induction moves generalizing station with
  | nil => exact isDue
  | cons move later induction =>
      obtain ⟨-, running, rest⟩ := stays
      have turns := station.turns_play move
      exact induction (punctual.turns turns)
        (punctual.isDue_turns isDue turns running rest.waiting) rest

/-- Only a job opens a turnstile: its grant is in the history, and its alarm is set. -/
theorem IsPunctual.opens (punctual : station.IsPunctual delay) (turns : station.Turns move after)
    (closed : station.state device ≠ .waitingRotation)
    (waiting : after.state device = .waitingRotation) :
    after.turnstiles.IsDue device (station.now + delay) ∧
      after.history device = station.keep (station.history device ++
        [⟨.idle, .waitingRotation, .grant, station.instant⟩]) := by
  have unmoved {turnstiles : Controller} (same : after.turnstiles = turnstiles)
      (closed : turnstiles.state device ≠ .waitingRotation) : False :=
    closed (same ▸ waiting)
  cases turns with
  | still turnstiles => exact (unmoved turnstiles closed).elim
  | passed turnstiles => exact (unmoved turnstiles closed).elim
  | stopped turnstiles => exact (unmoved turnstiles closed).elim
  | worked taken turns =>
      rw [← punctual.delay]
      exact Controller.IsDue.of_opened turns.change closed waiting
  | @rang alarm _ next turnstiles =>
      unfold state at waiting
      rw [turnstiles, punctual.state_ring next] at waiting
      split at waiting
      · cases waiting
      · exact absurd waiting closed

/-- In a gateway with settings from an environment, a turnstile that is opened at some time, and
stays open, waits for its alarm: it goes off when the delay of the settings is over, and until then
only a request of the device or a report of it ends the cycle. -/
theorem rotation_timeout {named : Environment} {settings : Settings}
    (loaded : Settings.ofEnvironment named = .ok settings) (surroundings : Surroundings)
    (store : Validation.Store) (start : Rat) {before : Station}
    (reached : (Gateway.stationOf settings surroundings store start).Leads before)
    (opening : StationMove) (later : List StationMove) (device : Device)
    (closed : before.state device ≠ .waitingRotation)
    (stays : (before.play opening).StaysOpen device later) :
    ∃ delay, settings.turnstiles.HasDelay delay ∧
      (before.play opening).history device = before.keep (before.history device ++
        [⟨.idle, .waitingRotation, .grant, before.instant⟩]) ∧
      ((before.play opening).playAll later).Awaits device (before.now + delay) := by
  have begun : (Gateway.stationOf settings surroundings store start).IsPunctual
      (Agenda.delay settings.turnstiles.rotationTimeout) := Controller.IsPunctual.start ..
  have punctual := reached.punctual begun
  have turns := before.turns_play opening
  obtain ⟨isDue, granted⟩ := punctual.opens turns closed stays.waiting
  have opened := punctual.turns turns
  refine ⟨_, Settings.hasDelay loaded, granted, ?_⟩
  exact (opened.playAll later).awaits (opened.isDue_playAll isDue stays)

/-- An environment with an authority to ask and a timeout. -/
def onlineWithin (timeout : String) : Environment := fun name =>
  List.lookup name [("ACCESS_STORE", "memory"), ("VALIDATION_MODE", "online"),
    ("REMOTE_AUTH_URL", "http://authority.test/validate"), ("ROTATION_TIMEOUT_MS", timeout)]

/-- Surroundings in which all goes well, with an authority that grants every request. -/
def granting : Surroundings :=
  { seedText := none, readers := .free, web := .free, database := fun _ => .ok []
    authority := [⟨.body "\x7b\"granted\": true\x7d", .atOnce⟩] }

/-- A request of the first device. -/
def knock : Bytes :=
  (Frame.Codec.mk .xor8 Frame.defaultMaxSize).wrap
    (Frame.textBytes "01+REON+000+0]ABC123]10/05/2025 12:46:06]1]1]")

/-- A station that has asked the authority about a request, and is about to grant it. -/
def aboutToGrant (settings : Settings) : Station :=
  (Gateway.stationOf settings granting (.memory .empty []) 0).playAll
    ([.listen, .connect "reader", .receive "reader" knock] ++ List.replicate 4 (.work 0))

/-- With a timeout of one second, a turnstile that is opened at the time zero is due at 1000, also
when its reader has been answered. -/
theorem rotation_timeout_second :
    ∃ settings, Settings.ofEnvironment (onlineWithin "1000") = .ok settings ∧
      (aboutToGrant settings).state ⟨1, by decide⟩ ≠ .waitingRotation ∧
      ((aboutToGrant settings).play (.work 0)).StaysOpen ⟨1, by decide⟩
        (List.replicate 4 (.work 0)) ∧
      (((aboutToGrant settings).play (.work 0)).playAll (List.replicate 4 (.work 0))).Awaits
        ⟨1, by decide⟩ 1000 := by
  have ran : (Settings.ofEnvironment (onlineWithin "1000")).toOption.map (fun settings =>
      (settings.turnstiles.rotationTimeout, (aboutToGrant settings).now,
        decide ((aboutToGrant settings).state ⟨1, by decide⟩ ≠ .waitingRotation ∧
          ((aboutToGrant settings).play (.work 0)).StaysOpen ⟨1, by decide⟩
            (List.replicate 4 (.work 0))))) = some (.ofNat 1000, 0, true) := by
    decide +kernel
  cases loaded : Settings.ofEnvironment (onlineWithin "1000") with
  | error fault => simp [loaded, Except.toOption] at ran
  | ok settings =>
      simp only [loaded, Except.toOption, Option.map_some, Option.some.injEq, Prod.mk.injEq,
        decide_eq_true_eq] at ran
      obtain ⟨timeout, now, closed, stays⟩ := ran
      obtain ⟨delay, hasDelay, -, awaits⟩ := rotation_timeout loaded granting
        (.memory .empty []) 0 ⟨_, rfl⟩ (.work 0) (List.replicate 4 (.work 0)) ⟨1, by decide⟩
        closed stays
      have kept : delay = 1000 := hasDelay.eq_of_kept timeout (by decide)
      rw [show (Gateway.stationOf settings granting (.memory .empty []) 0).playAll _ =
        aboutToGrant settings from rfl, now, kept] at awaits
      exact ⟨settings, rfl, closed, stays, by simpa using awaits⟩

/-- A timeout that is longer than timers can wait is taken for a millisecond. -/
theorem long_timeout_lost :
    ∃ settings, Settings.ofEnvironment (onlineWithin "2147483648") = .ok settings ∧
      settings.turnstiles.rotationTimeout = .ofNat 2147483648 ∧
      ((((Gateway.start settings granting 0).connect "reader").receive "reader" knock).advance
        (.ofNat 1)).service.map (fun service => service.station.history ⟨1, by decide⟩) =
          some [⟨.idle, .waitingRotation, .grant, .moment 0⟩,
            ⟨.waitingRotation, .rotationTimeout, .timeout, .moment 1⟩,
            ⟨.rotationTimeout, .idle, .reset, .moment 1⟩] := by
  have ran : (Settings.ofEnvironment (onlineWithin "2147483648")).toOption.map (fun settings =>
      (settings.turnstiles.rotationTimeout,
        ((((Gateway.start settings granting 0).connect "reader").receive "reader" knock).advance
          (.ofNat 1)).service.map fun service => service.station.history ⟨1, by decide⟩)) =
      some (.ofNat 2147483648, some [⟨.idle, .waitingRotation, .grant, .moment 0⟩,
        ⟨.waitingRotation, .rotationTimeout, .timeout, .moment 1⟩,
        ⟨.rotationTimeout, .idle, .reset, .moment 1⟩]) := by
    decide +kernel
  cases loaded : Settings.ofEnvironment (onlineWithin "2147483648") with
  | error fault => simp [loaded, Except.toOption] at ran
  | ok settings =>
      simp only [loaded, Except.toOption, Option.map_some, Option.some.injEq,
        Prod.mk.injEq] at ran
      exact ⟨settings, rfl, ran⟩

end Station

end Gatehouse
