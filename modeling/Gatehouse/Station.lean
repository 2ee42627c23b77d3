import Gatehouse.Listener

/-!
# The station

A listener with the traffic behind it, at work. After each event from outside the traffic is run
until it is quiet.
-/

namespace Gatehouse

structure Station where
  listener : Listener
  run : Agenda.Run Traffic TrafficJob

namespace Station

def start (now : Rat) (listener : Listener) (traffic : Traffic) : Station :=
  { listener := listener, run := .start now traffic }

def traffic (station : Station) : Traffic :=
  station.run.state

/-- Puts the outcome of an event into place and runs the traffic until it is quiet. -/
def after (station : Station) (listener : Listener)
    (outcome : Traffic × Agenda.Line TrafficJob) : Station :=
  { listener := listener, run := Traffic.machine.settle (station.run.after outcome) }

def listen (station : Station) : Station × Except Fault Endpoint :=
  let (listener, traffic, result) := station.listener.listen station.traffic
  (station.after listener (traffic, []), result)

def close (station : Station) : Station × Except Fault Unit :=
  let (listener, traffic, result) := station.listener.close station.traffic
  (station.after listener (traffic, []), result)

def connect (station : Station) (name : String) : Station :=
  let (listener, traffic) := station.listener.connect station.traffic name
  station.after listener (traffic, [])

def receive (station : Station) (name : String) (chunk : Bytes) : Station :=
  station.after station.listener (station.listener.receive station.traffic name chunk)

def idle (station : Station) (name : String) : Station :=
  station.after station.listener (station.listener.idle station.traffic name, [])

def fail (station : Station) (name : String) (failure : Fault) : Station × Except Fault Unit :=
  let (traffic, result) := station.listener.fail station.traffic name failure
  (station.after station.listener (traffic, []), result)

def disconnect (station : Station) (name : String) : Station :=
  let (listener, traffic) := station.listener.disconnect station.traffic name
  station.after listener (traffic, [])

def failSelf (station : Station) : Station :=
  station.after station.listener (station.listener.failSelf station.traffic, [])

def advance (station : Station) (span : Number) : Station :=
  { station with run := Traffic.machine.advance span station.run }

/-- Puts a request from the web interface, and lets time pass until it is answered. -/
def ask (station : Station) (visit : Visit) : Station × Option (Except Fault Outcome) :=
  let (traffic, id, jobs) := station.traffic.submit visit
  let answers (traffic : Traffic) := traffic.happenings.filterMap Happening.answer?
  let run :=
    Traffic.machine.settleUntil (fun traffic => ((answers traffic).lookup id).isSome)
      (station.run.after (traffic, jobs))
  ({ station with run := run }, (answers run.state).lookup id)

/-- What has happened since the last look, and the station after the look. -/
def look (station : Station) : Station × List Happening :=
  let seen := station.traffic.happenings.flatMap station.listener.relay
  ({ station with run := station.run.withState { station.traffic with happenings := [] } }, seen)

end Station

end Gatehouse
