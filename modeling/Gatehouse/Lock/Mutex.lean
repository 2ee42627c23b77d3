import Gatehouse.Agenda.Machine

/-!
# Chained calls

Work that is handed in for a key runs by itself, in the order in which it came. No lines are kept
for this. For each key only the call that came last is remembered, and each call remembers the one
whose place it took. A call awaits the tail of that one, which resolves when that one has let go,
and then runs its work. When the work has ended, as a value or as a failure, the call lets go: its
tail resolves, and the key is forgotten if no other call has taken its place meanwhile. With that
the call itself ends as its work did.
-/

namespace Gatehouse.Lock

/-- The number of a call, counted in the order in which calls are made. -/
abbrev Ticket := Nat

/-- How far a call has come: it awaits the tail before it, its work runs, its work has ended, it has
let go. -/
inductive Stage where
  | waiting
  | running
  | ending
  | gone
  deriving DecidableEq

structure Call (Key : Type) where
  key : Key
  previous : Option Ticket
  stage : Stage
  deriving DecidableEq

structure Mutex (Key : Type) where
  calls : List (Call Key)
  tails : List (Key × Ticket)
  deriving DecidableEq

inductive CallJob (Failure Value : Type) where
  | start (ticket : Ticket)
  | leave (ticket : Ticket) (result : Except Failure Value)

namespace Mutex

variable {Key Failure Value : Type} [DecidableEq Key]

def free : Mutex Key :=
  { calls := [], tails := [] }

def size (mutex : Mutex Key) : Nat :=
  mutex.tails.length

def stage? (mutex : Mutex Key) (ticket : Ticket) : Option Stage :=
  mutex.calls[ticket]?.map Call.stage

def setStage (mutex : Mutex Key) (ticket : Ticket) (stage : Stage) : Mutex Key :=
  { mutex with calls := mutex.calls.modify ticket fun call => { call with stage := stage } }

/-- Whether the tail of a call has resolved. It is the tail before it and then the call's own end;
since a call awaits the tail before it, only its end is still to come. -/
def isResolved (mutex : Mutex Key) (ticket : Ticket) : Bool :=
  mutex.stage? ticket = some .gone

def roundsToStart : Nat := 1

def join (mutex : Mutex Key) (key : Key) : Mutex Key :=
  { calls :=
      mutex.calls ++
        [{ key := key, previous := mutex.tails.lookup key, stage := .waiting }]
    tails :=
      (mutex.tails.filter fun (known, _) => known != key) ++ [(key, mutex.calls.length)] }

/-- A call is made. Its work runs next if there is no tail to await, or one that has resolved. -/
def submit (mutex : Mutex Key) (key : Key) : Mutex Key × Agenda.Line (CallJob Failure Value) :=
  (mutex.join key,
    if (mutex.tails.lookup key).all mutex.isResolved then [(0, .start mutex.calls.length)] else [])

/-- The work of a call ends. Only work that runs can end, and only once. -/
def complete (mutex : Mutex Key) (rounds : Nat) (ticket : Ticket) (result : Except Failure Value) :
    Mutex Key × Agenda.Line (CallJob Failure Value) :=
  if mutex.stage? ticket = some .running then
    (mutex.setStage ticket .ending, [(rounds, .leave ticket result)])
  else (mutex, [])

def followers (mutex : Mutex Key) (ticket : Ticket) : List Ticket :=
  (List.range mutex.calls.length).filter fun other =>
    mutex.calls[other]?.any fun call => call.previous = some ticket && call.stage = .waiting

/-- Forgets the key of a call, unless another call has taken its place. -/
def forget (mutex : Mutex Key) (ticket : Ticket) : Mutex Key :=
  match mutex.calls[ticket]? with
  | some call =>
      if mutex.tails.lookup call.key = some ticket then
        { mutex with tails := mutex.tails.filter fun (known, _) => known != call.key }
      else mutex
  | none => mutex

def letGo (mutex : Mutex Key) (ticket : Ticket) : Mutex Key :=
  (mutex.setStage ticket .gone).forget ticket

def perform (_ : Agenda.Clock) (job : CallJob Failure Value) (mutex : Mutex Key) :
    Mutex Key × Agenda.Line (CallJob Failure Value) :=
  match job with
  | .start ticket => (mutex.setStage ticket .running, [])
  | .leave ticket _ =>
      (mutex.letGo ticket,
        (mutex.followers ticket).map fun next => (roundsToStart, .start next))

end Mutex

end Gatehouse.Lock
