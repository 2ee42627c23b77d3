import Gatehouse.Lock.Mutex

/-!
# Tasks under a mutex

Tasks that run one at a time per key. A running task waits for its gate to be opened, unless it has
none, then ends with a value or a failure, which its submitter learns before the next task of the
key starts. A gate may be opened before its task runs. Gates go by the names of tasks: of tasks
with one name, the gate of the latest is meant.
-/

namespace Gatehouse.Lock

structure Task (Key : Type) where
  name : String
  key : Key
  gateless : Bool
  fails : Bool
  deriving DecidableEq

def Task.result {Key : Type} (task : Task Key) : Except (Task Key) (Task Key) :=
  if task.fails then .error task else .ok task

inductive Progress where
  | started (name : String)
  | ended (name : String) (failed : Bool)
  deriving DecidableEq

def Progress.line : Progress → String
  | .started name => "start " ++ name
  | .ended name false => "done " ++ name
  | .ended name true => "failed " ++ name

def Progress.ofResult {Key : Type} : Except (Task Key) (Task Key) → Progress
  | .ok task => .ended task.name false
  | .error task => .ended task.name true

/-- The tasks of all keys: those handed in so far in order, the mutex, whose gates were opened, and
the progress so far. -/
structure Tasks (Key : Type) where
  tasks : List (Task Key)
  lock : Mutex Key
  opened : List Ticket
  progress : List Progress

/-- What happens next: a call of the mutex goes on, or a submitter learns how a task has ended. -/
inductive TaskJob (Key : Type) where
  | call (job : CallJob (Task Key) (Task Key))
  | report (result : Except (Task Key) (Task Key))

namespace Tasks

variable {Key : Type} [DecidableEq Key]

def none : Tasks Key :=
  { tasks := [], lock := .free, opened := [], progress := [] }

def note (tasks : Tasks Key) (progress : Progress) : Tasks Key :=
  { tasks with progress := tasks.progress ++ [progress] }

def roundsFromGate : Nat := 1

def goOn (tasks : Tasks Key) (outcome : Mutex Key × Agenda.Line (CallJob (Task Key) (Task Key))) :
    Tasks Key × Agenda.Line (TaskJob Key) :=
  ({ tasks with lock := outcome.1 }, outcome.2.map fun (rounds, job) => (rounds, .call job))

def submit (tasks : Tasks Key) (task : Task Key) : Tasks Key × Agenda.Line (TaskJob Key) :=
  { tasks with tasks := tasks.tasks ++ [task] }.goOn (tasks.lock.submit task.key)

def latest? (tasks : Tasks Key) (name : String) : Option (Ticket × Task Key) :=
  (tasks.tasks.zipIdx.reverse.find? fun (task, _) => task.name == name).map fun (task, ticket) =>
    (ticket, task)

/-- Opens the gate of a task, which ends if it runs; a name that no task has means no gate. -/
def openGate (tasks : Tasks Key) (name : String) : Tasks Key × Agenda.Line (TaskJob Key) :=
  match tasks.latest? name with
  | some (ticket, task) =>
      { tasks with opened := ticket :: tasks.opened }.goOn
        (tasks.lock.complete roundsFromGate ticket task.result)
  | Option.none => (tasks, [])

/-- A task has started. It ends at once if it has no gate, and soon if its gate was opened. -/
def begin (tasks : Tasks Key) (ticket : Ticket) (task : Task Key) :
    Tasks Key × Agenda.Line (TaskJob Key) :=
  let started := tasks.note (.started task.name)
  if task.gateless then started.goOn (started.lock.complete 0 ticket task.result)
  else if tasks.opened.contains ticket then
    started.goOn (started.lock.complete roundsFromGate ticket task.result)
  else (started, [])

def perform (clock : Agenda.Clock) (job : TaskJob Key) (tasks : Tasks Key) :
    Tasks Key × Agenda.Line (TaskJob Key) :=
  match job with
  | .call job =>
      let (next, jobs) := tasks.goOn (Mutex.perform clock job tasks.lock)
      match job with
      | .start ticket =>
          match tasks.tasks[ticket]? with
          | some task => next.begin ticket task
          | Option.none => (next, jobs)
      | .leave _ result => (next, jobs ++ [(0, .report result)])
  | .report result => (tasks.note (.ofResult result), [])

/-- Tasks at work; they set no timers. A call takes at most eight turns. -/
def machine : Agenda.Machine (Tasks Key) (TaskJob Key) Empty where
  perform := perform
  next? _ := Option.none
  ring _ alarm _ := nomatch alarm
  patience tasks := 8 * tasks.lock.calls.countP fun call => call.stage ≠ .gone

end Tasks

end Gatehouse.Lock
