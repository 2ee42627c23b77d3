import Gatehouse.Agenda.Machine
import Gatehouse.Lock
import Gatehouse.Register.Sql
import Gatehouse.Validation.Offline
import Gatehouse.Validation.Online

/-!
# The validation desk

The desk decides requests, many at a time. It keeps the register, the locks of the users, the
remote authority if there is one, and for each call how far its decision has come. A call asks the
authority first, when there is one, and the register else.

Every step of a call is a job of the desk; an answer, the outcome of a lock, or the end of a pause
is what makes the next job ready. The outcome of a call is a job as well, so that whoever runs the
desk can take it from there.
-/

namespace Gatehouse.Validation

open Gatehouse.Access Gatehouse.Authority Gatehouse.Register

abbrev CallId := Nat

/-- Where the register is kept. Questions to the one in memory may fail by name. -/
inductive Store where
  | memory (memory : Memory) (outages : List (String × String))
  | database (answer : Sql.Statement → Except Fault (List Sql.Row))

inductive Local where
  | register
  | fixed (outcome : Except Fault Decision)

/-- A call: the request, when its decision from the register began, how far the inquiry at the
authority and the walk through the register have come, and whose lock it has asked for. -/
structure Call where
  request : Request
  started : Time.Instant
  inquiry : Option Online.Stage
  walk : Option Offline.Stage
  locked : Reference

inductive Job where
  | replied (call : CallId) (reply : Reply)
  | check (call : CallId)
  | enter (call : CallId)
  | leave (call : CallId) (outcome : Except Fault Decision)
  | ask (call : CallId) (attempt : Nat)
  | answered (call : CallId) (attempt : Nat) (result : Except Fault Verdict)
  | recover (call : CallId) (attempt : Nat) (fault : Fault)
  | resume (call : CallId) (attempt : Nat)
  | outcome (call : CallId) (outcome : Except Fault Decision)

inductive Alarm where
  | attempt (call : CallId) (attempt : Nat)
  | pause (call : CallId) (attempt : Nat)
  | answer (call : CallId) (attempt : Nat) (result : Except Fault Verdict)

def Alarm.isAttempt (call : CallId) (attempt : Nat) : Alarm → Bool
  | .attempt other number => other == call && number == attempt
  | _ => false

structure Question where
  call : CallId
  attempt : Nat
  asked : Asked

structure Desk where
  remote : Option (Remote × Online.Settings)
  fallback : Local
  offline : Offline.Settings
  store : Store
  locks : Lock Reference CallId
  calls : List (CallId × Call)
  timers : Agenda.Timers Alarm
  questions : List Question
  statements : List Sql.Statement
  fallbacks : Nat
  outcomes : List (CallId × Except Fault Decision × Option Online.Report)

namespace Desk

def start (remote : Option (Remote × Online.Settings)) (fallback : Local)
    (offline : Offline.Settings) (store : Store) : Desk :=
  { remote := remote, fallback := fallback, offline := offline, store := store, locks := .free
    calls := [], timers := .none, questions := [], statements := [], fallbacks := 0
    outcomes := [] }

def memory? (desk : Desk) : Option Memory :=
  match desk.store with
  | .memory memory _ => some memory
  | .database _ => none

def now (desk : Desk) (clock : Agenda.Clock) : Time.Instant :=
  Agenda.Clock.instant (clock.later desk.offline.ahead)

def call? (desk : Desk) (id : CallId) : Option Call :=
  desk.calls.lookup id

def setCall (desk : Desk) (id : CallId) (call : Call) : Desk :=
  { desk with calls := (desk.calls.filter fun (other, _) => other != id) ++ [(id, call)] }

/-- Puts a question to the register. A database takes two rounds longer than memory. -/
def query (desk : Desk) (query : Query) : Desk × Reply × Nat :=
  match desk.store with
  | .memory memory outages =>
      let (memory, reply) := memory.answerUnless outages query
      ({ desk with store := .memory memory outages }, reply, 0)
  | .database answer =>
      let statement := Sql.statement query
      ({ desk with statements := desk.statements ++ [statement] },
        Sql.reply query (Sql.result query (answer statement)), 2)

/-- The rounds that an outcome from the register travels further when the authority was asked
first. -/
def roundsOfInquiry (call : Call) : Nat :=
  if call.inquiry.isSome then 2 else 0

def stepOffline (desk : Desk) (id : CallId) (call : Call) (next : Offline.Next) :
    Desk × Agenda.Line Job :=
  match next with
  | .ask query stage =>
      let (desk, reply, rounds) := desk.query query
      (desk.setCall id { call with walk := some stage }, [(rounds, .replied id reply)])
  | .rest stage => (desk.setCall id { call with walk := some stage }, [(0, .check id)])
  | .acquire user stage =>
      let (locks, free) := desk.locks.acquire user id
      ({ desk with locks := locks }.setCall id { call with walk := some stage, locked := user },
        if free then [(0, .enter id)] else [])
  | .finish outcome rounds => (desk, [(rounds + roundsOfInquiry call, .outcome id outcome)])
  | .leave outcome rounds => (desk, [(rounds, .leave id outcome)])

def decideLocally (desk : Desk) (clock : Agenda.Clock) (id : CallId) (call : Call) :
    Desk × Agenda.Line Job :=
  match desk.fallback with
  | .fixed outcome =>
      (desk.setCall id call, [(roundsOfInquiry call, .outcome id outcome)])
  | .register =>
      desk.stepOffline id { call with started := desk.now clock } (Offline.start call.request)

def stepOnline (desk : Desk) (clock : Agenda.Clock) (settings : Online.Settings) (id : CallId)
    (call : Call) (next : Online.Next) : Desk × Agenda.Line Job :=
  match next with
  | .attempt number =>
      let timers :=
        desk.timers.set clock (Agenda.delay settings.timeout) (.attempt id number)
      ({ desk with timers := timers }.setCall id { call with inquiry := some (.asking number) },
        [(0, .ask id number)])
  | .pause attempt =>
      let timers := desk.timers.set clock (Agenda.delay settings.pause) (.pause id attempt)
      ({ desk with timers := timers }.setCall id
        { call with inquiry := some (.pausing attempt) }, [])
  | .recover attempt fault =>
      (desk.setCall id { call with inquiry := some (.failing attempt) },
        [(0, .recover id attempt fault)])
  | .fallBack attempts fault =>
      { desk with fallbacks := desk.fallbacks + 1 }.decideLocally clock id
        { call with inquiry := some (.fallback attempts fault) }
  | .decide attempts decision =>
      (desk.setCall id { call with inquiry := some (.decided attempts decision) },
        [(2, .outcome id (.ok decision))])
  | .nothing => (desk, [])

def begin (desk : Desk) (clock : Agenda.Clock) (id : CallId) (request : Request) :
    Desk × Agenda.Line Job :=
  let call : Call :=
    { request := request, started := desk.now clock, inquiry := none, walk := none
      locked := .null }
  match desk.remote with
  | some (_, settings) => desk.stepOnline clock settings id call Online.start
  | none => desk.decideLocally clock id call

def ask (desk : Desk) (clock : Agenda.Clock) (remote : Remote) (id : CallId) (call : Call)
    (attempt : Nat) : Desk × Agenda.Line Job :=
  let answer := remote.ask call.request desk.questions.length
  let asked : List Question :=
    match answer.asked with
    | some posted => [⟨id, attempt, ⟨clock.now, posted, false⟩⟩]
    | none => []
  let desk := { desk with questions := desk.questions ++ asked }
  match answer.coming with
  | .atOnce => (desk, [(2, .answered id attempt answer.result)])
  | .later delay =>
      ({ desk with timers := desk.timers.set clock delay (.answer id attempt answer.result) }, [])
  | .never => (desk, [])

/-- Deals with an answer of the authority. An answer to a call that has ended changes nothing. -/
def hear (desk : Desk) (clock : Agenda.Clock) (id : CallId) (attempt : Nat)
    (result : Except Fault Verdict) : Desk × Agenda.Line Job :=
  match desk.call? id, desk.remote with
  | some call, some (_, settings) =>
      match call.inquiry with
      | some stage =>
          let next := Online.answered call.request stage attempt result
          let timers :=
            match next with
            | .nothing => desk.timers
            | _ => desk.timers.cancel (Alarm.isAttempt id attempt)
          { desk with timers := timers }.stepOnline clock settings id call next
      | none => (desk, [])
  | _, _ => (desk, [])

def giveUp (desk : Desk) (id : CallId) (attempt : Nat) : Desk :=
  { desk with questions := desk.questions.map fun question =>
      if question.call == id && question.attempt == attempt then
        { question with asked := { question.asked with aborted := true } }
      else question }

def close (desk : Desk) (id : CallId) (outcome : Except Fault Decision) : Desk :=
  let report := (desk.call? id).bind fun call => call.inquiry.bind Online.Stage.report?
  { desk with
    calls := desk.calls.filter fun (other, _) => other != id
    outcomes := desk.outcomes ++ [(id, outcome, report)] }

def perform (clock : Agenda.Clock) (job : Job) (desk : Desk) : Desk × Agenda.Line Job :=
  match job with
  | .replied id reply =>
      match desk.call? id with
      | some call =>
          match call.walk with
          | some stage =>
              desk.stepOffline id call
                (Offline.resume desk.offline (desk.now clock) call.started call.request stage reply)
          | none => (desk, [])
      | none => (desk, [])
  | .check id =>
      match desk.call? id with
      | some call =>
          match call.walk with
          | some (.checks subject user) =>
              desk.stepOffline id call
                (Offline.check desk.offline (desk.now clock) call.started call.request subject user)
          | _ => (desk, [])
      | none => (desk, [])
  | .enter id =>
      match desk.call? id with
      | some call =>
          match call.walk with
          | some (.queued subject) =>
              desk.stepOffline id call
                (Offline.enter desk.offline (desk.now clock) call.request subject)
          | _ => (desk, [])
      | none => (desk, [])
  | .leave id outcome =>
      match desk.call? id with
      | some call =>
          let (locks, next) := desk.locks.release call.locked
          let follow : Agenda.Line Job :=
            match next with
            | some other => [(1, .enter other)]
            | none => []
          ({ desk with locks := locks },
            follow ++ [(1 + roundsOfInquiry call, .outcome id outcome)])
      | none => (desk, [])
  | .ask id attempt =>
      match desk.call? id, desk.remote with
      | some call, some (remote, _) => desk.ask clock remote id call attempt
      | _, _ => (desk, [])
  | .answered id attempt result => desk.hear clock id attempt result
  | .recover id attempt fault =>
      match desk.call? id, desk.remote with
      | some call, some (_, settings) =>
          desk.stepOnline clock settings id call (Online.caught settings attempt fault)
      | _, _ => (desk, [])
  | .resume id attempt =>
      match desk.call? id, desk.remote with
      | some call, some (_, settings) =>
          desk.stepOnline clock settings id call (Online.resumed attempt)
      | _, _ => (desk, [])
  | .outcome id outcome => (desk.close id outcome, [])

def ring (clock : Agenda.Clock) (alarm : Alarm) (desk : Desk) : Desk × Agenda.Line Job :=
  let desk := { desk with timers := desk.timers.rest }
  match alarm with
  | .attempt id attempt =>
      match desk.call? id, desk.remote with
      | some call, some (_, settings) =>
          match call.inquiry with
          | some stage =>
              (desk.giveUp id attempt).stepOnline clock settings id call
                (Online.timedOut settings stage attempt)
          | none => (desk, [])
      | _, _ => (desk, [])
  | .pause id attempt => (desk, [(0, .resume id attempt)])
  | .answer id attempt result => desk.hear clock id attempt result

def effort (desk : Desk) : Nat :=
  let attempts :=
    match desk.remote with
    | some (_, settings) =>
        match settings.retries with
        | .finite retries => retries.floor.toNat + 1
        | _ => 0
    | none => 0
  60 * (attempts + 2)

def patience (desk : Desk) : Nat :=
  desk.effort * (desk.calls.length + desk.timers.pending.length + 1)

def machine : Agenda.Machine Desk Job Alarm where
  perform := perform
  next? desk := desk.timers.next?
  ring := ring
  patience := patience

end Desk

end Gatehouse.Validation
