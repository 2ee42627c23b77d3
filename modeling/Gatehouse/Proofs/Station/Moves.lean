import Gatehouse.Gateway
import Gatehouse.Proofs.Traffic.Turning

/-!
# A station in any order

At a station the listener and its connections are used, visitors come, jobs that are ready are
performed, timers fire when they are due, and the clock goes on as far as the next timer lets it.
`Station.playAll` plays such moves in any order; what a station does by itself, which runs all that
is ready after each event, is one of these orders (`Station.Leads`).

No move touches the turnstiles but a job, a timer that fires, and the stop of all of them
(`Station.Turns`).
-/

namespace Gatehouse

open Turnstile

/-- What happens at a station. -/
inductive StationMove where
  | listen
  | close
  | connect (name : String)
  | receive (name : String) (chunk : Bytes)
  | idle (name : String)
  | fail (name : String) (failure : Fault)
  | disconnect (name : String)
  | failSelf
  | visit (visit : Visit)
  | look
  | stop
  | wait
  | work (place : Nat)
  | fire
  | pass (moment : Rat)
  deriving DecidableEq

namespace Traffic

/-- The timer that fires next is an alarm, or it is due no later than all alarms. -/
theorem next?_cases {traffic : Traffic} {timer : Agenda.Pending TrafficAlarm}
    (next : traffic.next? = some timer) :
    (∃ alarm, traffic.turnstiles.alarms.timers.next? = some alarm ∧
        timer = ⟨alarm.due, alarm.stamp, .rotation alarm.item⟩) ∨
      (∃ alarm, timer.item = .validation alarm) ∧
        ∀ alarm ∈ traffic.turnstiles.alarms.timers.next?, timer.due ≤ alarm.due := by
  unfold Traffic.next? at next
  split at next
  · cases next
  · next none_set =>
      cases next
      refine .inr ⟨⟨_, rfl⟩, fun alarm found => ?_⟩
      cases none_set.symm.trans found
  · next alarm _ first =>
      cases next
      exact .inl ⟨alarm, first, rfl⟩
  · next ofDesk alarm _ first =>
      split at next
      · next before =>
          cases next
          refine .inr ⟨⟨_, rfl⟩, fun other found => ?_⟩
          obtain rfl := Option.some.inj (first.symm.trans found)
          simp only [Agenda.Pending.before, Bool.or_eq_true, Bool.and_eq_true,
            decide_eq_true_eq, beq_iff_eq] at before
          exact before.elim le_of_lt fun both => both.1.le
      · cases next
        exact .inl ⟨alarm, first, rfl⟩

theorem next?_ne_none {traffic : Traffic} {alarm : Agenda.Pending Device}
    (first : alarm ∈ traffic.turnstiles.alarms.timers.next?) : traffic.next? ≠ none := by
  unfold Traffic.next?
  split
  · next none_set => cases none_set.symm.trans first
  all_goals exact Option.some_ne_none _

end Traffic

namespace Listener

variable (listener : Listener) (traffic : Traffic) (name : String)

theorem turnstiles_listen : (listener.listen traffic).2.1.turnstiles = traffic.turnstiles := by
  unfold listen
  split
  · rfl
  · split
    · rfl
    · dsimp only
      split <;> rfl

theorem turnstiles_close : (listener.close traffic).2.1.turnstiles = traffic.turnstiles := by
  have closed (sessions : List SessionId) :
      (sessions.foldl Traffic.closeSession traffic).turnstiles = traffic.turnstiles := by
    induction sessions generalizing traffic with
    | nil => rfl
    | cons session rest induction =>
        exact (induction _).trans (traffic.turned_close session).turnstiles
  unfold close
  split
  · exact closed listener.connected
  · rfl

theorem turnstiles_connect : (listener.connect traffic name).2.turnstiles = traffic.turnstiles := by
  unfold connect
  split <;> rfl

theorem turnstiles_receive (chunk : Bytes) :
    (listener.receive traffic name chunk).1.turnstiles = traffic.turnstiles := by
  unfold receive
  split
  · exact (traffic.turned_receive _ chunk).1.turnstiles
  · rfl

theorem turnstiles_idle : (listener.idle traffic name).turnstiles = traffic.turnstiles := by
  unfold idle
  split
  · split <;> rfl
  · rfl

theorem turnstiles_fail (failure : Fault) :
    (listener.fail traffic name failure).1.turnstiles = traffic.turnstiles := by
  unfold fail
  split <;> rfl

theorem turnstiles_disconnect :
    (listener.disconnect traffic name).2.turnstiles = traffic.turnstiles := by
  unfold disconnect
  split
  · exact (traffic.turned_close _).turnstiles
  · rfl

theorem turnstiles_failSelf : (listener.failSelf traffic).turnstiles = traffic.turnstiles := by
  unfold failSelf
  split <;> rfl

end Listener

namespace Station

/-- The turnstiles. -/
def turnstiles (station : Station) : Controller :=
  station.traffic.turnstiles

def now (station : Station) : Rat :=
  station.run.clock.now

/-- Puts the outcome of an event into place, and leaves what becomes ready to later moves. -/
def put (station : Station) (listener : Listener) (outcome : Traffic × Agenda.Line TrafficJob) :
    Station :=
  { listener := listener, run := station.run.after outcome }

def wait (station : Station) : Station :=
  match station.run.line with
  | [] => station
  | (rounds, job) :: rest =>
      { station with run := { station.run with line := rest ++ [(rounds - 1, job)] } }

/-- Performs the job at a place, whatever rounds it still waits. -/
def work (station : Station) (place : Nat) : Station :=
  match station.run.line[place]? with
  | some (_, job) =>
      let left := { station.run with line := station.run.line.eraseIdx place }
      { station with run := left.after (station.traffic.perform station.run.clock job) }
  | none => station

def fire (station : Station) : Station :=
  match station.traffic.next? with
  | some timer =>
      let now : Agenda.Clock := { station.run.clock with now := timer.due }
      let run := { station.run with clock := now }
      { station with run := run.after (station.traffic.ring now timer.item) }
  | none => station

def pass (station : Station) (moment : Rat) : Station :=
  if ∀ timer ∈ station.traffic.next?, moment ≤ timer.due then
    { station with run := { station.run with clock := { station.run.clock with now := moment } } }
  else station

/-- What a move does. -/
def play (station : Station) : StationMove → Station
  | .listen =>
      let (listener, traffic, _) := station.listener.listen station.traffic
      station.put listener (traffic, [])
  | .close =>
      let (listener, traffic, _) := station.listener.close station.traffic
      station.put listener (traffic, [])
  | .connect name =>
      let (listener, traffic) := station.listener.connect station.traffic name
      station.put listener (traffic, [])
  | .receive name chunk =>
      station.put station.listener (station.listener.receive station.traffic name chunk)
  | .idle name => station.put station.listener (station.listener.idle station.traffic name, [])
  | .fail name failure =>
      station.put station.listener ((station.listener.fail station.traffic name failure).1, [])
  | .disconnect name =>
      let (listener, traffic) := station.listener.disconnect station.traffic name
      station.put listener (traffic, [])
  | .failSelf => station.put station.listener (station.listener.failSelf station.traffic, [])
  | .visit visit =>
      let (traffic, _, jobs) := station.traffic.submit visit
      station.put station.listener (traffic, jobs)
  | .look => station.look.1
  | .stop => Gateway.stopTurnstiles station
  | .wait => station.wait
  | .work place => station.work place
  | .fire => station.fire
  | .pass moment => station.pass moment

/-- What moves do one after another. -/
def playAll (station : Station) (moves : List StationMove) : Station :=
  moves.foldl play station

/-- A station becomes another one by moves. -/
def Leads (before after : Station) : Prop :=
  ∃ moves, before.playAll moves = after

variable {before middle after station : Station}

theorem Leads.refl (station : Station) : station.Leads station :=
  ⟨[], rfl⟩

theorem Leads.trans (first : before.Leads middle) (second : middle.Leads after) :
    before.Leads after := by
  obtain ⟨front, rfl⟩ := first
  obtain ⟨back, rfl⟩ := second
  exact ⟨front ++ back, List.foldl_append⟩

theorem leads_play (station : Station) (move : StationMove) : station.Leads (station.play move) :=
  ⟨[move], rfl⟩

theorem leads_turn (station : Station) :
    station.Leads { station with run := Traffic.machine.turn station.run } := by
  rcases station with ⟨listener, clock, line, traffic⟩
  rcases line with _ | ⟨⟨_ | rounds, job⟩, rest⟩
  · exact .refl _
  · exact leads_play _ (.work 0)
  · exact leads_play _ .wait

theorem leads_turns (budget : Nat) (station : Station) :
    station.Leads { station with run := Traffic.machine.turns budget station.run } := by
  induction budget generalizing station with
  | zero => exact .refl _
  | succ budget induction =>
      unfold Agenda.Machine.turns
      split
      · exact .refl _
      · exact (leads_turn station).trans (induction _)

theorem leads_after (move : StationMove) {listener : Listener}
    {outcome : Traffic × Agenda.Line TrafficJob}
    (same : station.play move = station.put listener outcome) :
    station.Leads (station.after listener outcome) := by
  have played := station.leads_play move
  rw [same] at played
  exact played.trans (leads_turns _ (station.put listener outcome))

theorem leads_listen (station : Station) : station.Leads station.listen.1 :=
  leads_after .listen rfl

theorem leads_close (station : Station) : station.Leads station.close.1 :=
  leads_after .close rfl

theorem leads_connect (station : Station) (name : String) : station.Leads (station.connect name) :=
  leads_after (.connect name) rfl

theorem leads_receive (station : Station) (name : String) (chunk : Bytes) :
    station.Leads (station.receive name chunk) :=
  leads_after (.receive name chunk) rfl

theorem leads_disconnect (station : Station) (name : String) :
    station.Leads (station.disconnect name) :=
  leads_after (.disconnect name) rfl

theorem leads_fire {timer : Agenda.Pending TrafficAlarm}
    (next : station.traffic.next? = some timer) :
    station.Leads { station with run := Traffic.machine.fire station.run timer } := by
  have fired := station.leads_play .fire
  rw [play, fire, next] at fired
  exact fired.trans (leads_turns _ _)

theorem leads_fireUpTo (target : Rat) (budget : Nat) (station : Station) :
    station.Leads
      { station with run := Traffic.machine.fireUpTo target budget station.run } := by
  induction budget generalizing station with
  | zero => exact .refl _
  | succ budget induction =>
      unfold Agenda.Machine.fireUpTo
      cases next : Traffic.machine.next? station.run.state with
      | none => exact .refl _
      | some timer =>
          dsimp only
          split
          · exact (leads_fire next).trans (induction _)
          · exact .refl _

theorem leads_fireUntil (done : Traffic → Bool) (budget : Nat) (station : Station) :
    station.Leads
      { station with run := Traffic.machine.fireUntil done budget station.run } := by
  induction budget generalizing station with
  | zero => exact .refl _
  | succ budget induction =>
      unfold Agenda.Machine.fireUntil
      split
      · exact .refl _
      · cases next : Traffic.machine.next? station.run.state with
        | none => exact .refl _
        | some timer => exact (leads_fire next).trans (induction _)

theorem leads_ask (station : Station) (visit : Visit) : station.Leads (station.ask visit).1 :=
  ((station.leads_play (.visit visit)).trans (leads_turns _ _)).trans (leads_fireUntil _ _ _)

theorem leads_advance (span : Number)
    (fired : ∀ timer ∈ (station.advance span).traffic.next?,
      (station.advance span).now ≤ timer.due) :
    station.Leads (station.advance span) := by
  let settled : Station := { station with run := Traffic.machine.settle station.run }
  let target := Agenda.Clock.shift settled.now span
  let budget := Traffic.machine.patience settled.traffic + 1
  have quiet : station.Leads settled := leads_turns _ station
  refine (quiet.trans (leads_fireUpTo target budget settled)).trans ⟨[.pass target], ?_⟩
  exact if_pos fired

inductive Turns (station : Station) : StationMove → Station → Prop
  | still {move : StationMove} {after : Station} :
      after.turnstiles = station.turnstiles → after.now = station.now → Turns station move after
  | passed {move : StationMove} {after : Station} :
      after.turnstiles = station.turnstiles →
      (∀ alarm ∈ station.turnstiles.alarms.timers.next?, after.now ≤ alarm.due) →
      Turns station move after
  | stopped {after : Station} : after.turnstiles = station.turnstiles.close →
      after.now = station.now → Turns station .stop after
  | worked {place rounds : Nat} {job : TrafficJob} {after : Station} :
      station.run.line[place]? = some (rounds, job) →
      station.traffic.Turns station.run.clock job after.turnstiles → after.now = station.now →
      Turns station (.work place) after
  | rang {alarm : Agenda.Pending Device} {after : Station} :
      station.turnstiles.alarms.timers.next? = some alarm →
      after.turnstiles =
        (station.turnstiles.ring { station.run.clock with now := alarm.due } alarm.item).1 →
      after.now = alarm.due → Turns station .fire after

theorem turns_put {move : StationMove} {listener : Listener}
    {outcome : Traffic × Agenda.Line TrafficJob}
    (same : outcome.1.turnstiles = station.turnstiles) :
    station.Turns move (station.put listener outcome) :=
  .still same rfl

theorem turns_work (place : Nat) : station.Turns (.work place) (station.work place) := by
  unfold work
  split
  · next taken => exact .worked taken (Traffic.turns_perform ..) rfl
  · exact .still rfl rfl

theorem turns_fire : station.Turns .fire station.fire := by
  unfold fire
  cases next : station.traffic.next? with
  | none => exact .still rfl rfl
  | some timer =>
      rcases Traffic.next?_cases next with ⟨alarm, first, rfl⟩ | ⟨⟨alarm, other⟩, before⟩
      · exact .rang first rfl rfl
      · refine .passed ?_ before
        dsimp only
        rw [other]
        rfl

theorem turns_pass (moment : Rat) : station.Turns (.pass moment) (station.pass moment) := by
  unfold pass
  split
  · next still =>
      refine .passed rfl fun alarm first => ?_
      cases next : station.traffic.next? with
      | none => exact absurd next (Traffic.next?_ne_none first)
      | some timer =>
          refine (still timer next).trans ?_
          rcases Traffic.next?_cases next with ⟨other, same, rfl⟩ | ⟨-, before⟩
          · obtain rfl := Option.some.inj (same.symm.trans first)
            exact le_rfl
          · exact before alarm first
  · exact .still rfl rfl

theorem turns_play (station : Station) (move : StationMove) :
    station.Turns move (station.play move) := by
  cases move with
  | listen => exact turns_put (Listener.turnstiles_listen ..)
  | close => exact turns_put (Listener.turnstiles_close ..)
  | connect name => exact turns_put (Listener.turnstiles_connect ..)
  | receive name chunk => exact turns_put (Listener.turnstiles_receive ..)
  | idle name => exact turns_put (Listener.turnstiles_idle ..)
  | fail name failure => exact turns_put (Listener.turnstiles_fail ..)
  | disconnect name => exact turns_put (Listener.turnstiles_disconnect ..)
  | failSelf => exact turns_put (Listener.turnstiles_failSelf ..)
  | visit visit => exact turns_put rfl
  | look => exact .still rfl rfl
  | stop => exact .stopped rfl rfl
  | wait =>
      show station.Turns .wait station.wait
      unfold wait
      split <;> exact .still rfl rfl
  | work place => exact turns_work place
  | fire => exact turns_fire
  | pass moment => exact turns_pass moment

end Station

end Gatehouse
