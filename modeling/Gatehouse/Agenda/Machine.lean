import Gatehouse.Agenda.Timers

/-!
# Running a machine

A machine has jobs that are ready and timers that are due later. Ready jobs stand in one line and
are taken from its front. A job may have rounds to wait: it then goes back to the end of the line
with one round less, so that activities which started together stay in step. A turn takes one job
off the line. When the line is empty the machine is quiet, and time can move on to the next timer.

Each turn either shortens a wait or performs a job, and a machine says how many turns it can still
take; `settle` runs for that many turns, which is until the line is empty.
-/

namespace Gatehouse.Agenda

-- The zero that sums start from is that of the core library, whatever else is imported.
attribute [local instance (2000)] Zero.ofOfNat0

abbrev Line (Job : Type) := List (Nat × Job)

/-- What a machine does in a state: how a job is performed, which timer fires next, what its firing
does, and how many turns the state can still give rise to before the machine is quiet. -/
structure Machine (State Job Alarm : Type) where
  perform : Clock → Job → State → State × Line Job
  next? : State → Option (Pending Alarm)
  ring : Clock → Alarm → State → State × Line Job
  patience : State → Nat

structure Run (State Job : Type) where
  clock : Clock
  line : Line Job
  state : State

variable {State Job Alarm : Type}

namespace Run

def start (now : Rat) (state : State) : Run State Job :=
  { clock := ⟨now, 0⟩, line := [], state := state }

def after (run : Run State Job) (outcome : State × Line Job) : Run State Job :=
  { clock := run.clock.tick, line := run.line ++ outcome.2, state := outcome.1 }

def withState (run : Run State Job) (state : State) : Run State Job :=
  { run with state := state }

end Run

namespace Machine

def turn (machine : Machine State Job Alarm) (run : Run State Job) : Run State Job :=
  match run.line with
  | [] => run
  | (rounds + 1, job) :: rest => { run with line := rest ++ [(rounds, job)] }
  | (0, job) :: rest =>
      { run with line := rest }.after (machine.perform run.clock job run.state)

def patienceOf (machine : Machine State Job Alarm) (run : Run State Job) : Nat :=
  machine.patience run.state + (run.line.map fun (rounds, _) => rounds + 1).sum

def turns (machine : Machine State Job Alarm) : Nat → Run State Job → Run State Job
  | 0, run => run
  | budget + 1, run =>
      if run.line.isEmpty then run else machine.turns budget (machine.turn run)

def settle (machine : Machine State Job Alarm) (run : Run State Job) : Run State Job :=
  machine.turns (machine.patienceOf run) run

/-- Lets a timer fire at its due time, and takes turns until the machine is quiet. -/
def fire (machine : Machine State Job Alarm) (run : Run State Job) (timer : Pending Alarm) :
    Run State Job :=
  let now : Clock := { run.clock with now := timer.due }
  machine.settle ({ run with clock := now }.after (machine.ring now timer.item run.state))

/-- Lets timers fire in order while one is due up to a time, at most a number of them. -/
def fireUpTo (machine : Machine State Job Alarm) (target : Rat) :
    Nat → Run State Job → Run State Job
  | 0, run => run
  | budget + 1, run =>
      match machine.next? run.state with
      | some timer =>
          if timer.due ≤ target then machine.fireUpTo target budget (machine.fire run timer)
          else run
      | none => run

/-- Lets a span of time pass: every timer that is due fires at its time. A negative span sets the
clock back. -/
def advance (machine : Machine State Job Alarm) (span : Number) (run : Run State Job) :
    Run State Job :=
  let settled := machine.settle run
  let target := Clock.shift settled.clock.now span
  let fired := machine.fireUpTo target (machine.patience settled.state + 1) settled
  { fired with clock := { fired.clock with now := target } }

/-- Lets timers fire one after another until something holds, at most a number of them. -/
def fireUntil (machine : Machine State Job Alarm) (done : State → Bool) :
    Nat → Run State Job → Run State Job
  | 0, run => run
  | budget + 1, run =>
      if done run.state then run
      else
        match machine.next? run.state with
        | some timer => machine.fireUntil done budget (machine.fire run timer)
        | none => run

/-- Takes turns, and lets timers fire, until something holds or nothing is left to happen. -/
def settleUntil (machine : Machine State Job Alarm) (done : State → Bool) (run : Run State Job) :
    Run State Job :=
  let settled := machine.settle run
  machine.fireUntil done (machine.patience settled.state + 1) settled

def exhaust (machine : Machine State Job Alarm) (run : Run State Job) : Run State Job :=
  machine.settleUntil (fun _ => false) run

end Machine

end Gatehouse.Agenda
