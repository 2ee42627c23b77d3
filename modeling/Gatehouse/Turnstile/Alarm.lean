import Gatehouse.Agenda.Timers
import Gatehouse.Device

/-!
# Rotation alarms

One alarm per turnstile that waits for a rotation. Arming an alarm replaces the earlier one of the
same turnstile, so a turnstile never has two.

Alarms are kept in two ways. `Alarms` is a table by turnstiles. An `AlarmBook` keeps each alarm as a
timer with a number, and says which number the alarm of a turnstile has.
-/

namespace Gatehouse.Turnstile

structure Alarms where
  delay : Nat
  timers : Agenda.Timers Device
  deriving DecidableEq

namespace Alarms

def ofTimeout (timeout : Number) : Alarms :=
  { delay := Agenda.delay timeout, timers := .none }

def isArmed (alarms : Alarms) (device : Device) : Bool :=
  alarms.timers.any (· == device)

def disarm (alarms : Alarms) (device : Device) : Bool × Alarms :=
  (alarms.isArmed device, { alarms with timers := alarms.timers.cancel (· == device) })

def arm (alarms : Alarms) (clock : Agenda.Clock) (device : Device) : Alarms :=
  let cleared := (alarms.disarm device).2
  { cleared with timers := cleared.timers.set clock alarms.delay device }

def disarmAll (alarms : Alarms) : Alarms :=
  { alarms with timers := .none }

def armed (alarms : Alarms) : List Device :=
  (alarms.timers.pending.map Agenda.Pending.item).mergeSort
    fun left right => left.number ≤ right.number

def goOff (alarms : Alarms) (target : Rat) : List (Agenda.Pending Device) × Alarms :=
  (alarms.timers.pending.takeWhile fun timer => timer.due ≤ target,
    { alarms with
      timers := ⟨alarms.timers.pending.dropWhile fun timer => timer.due ≤ target⟩ })

def ring (alarms : Alarms) : Alarms :=
  { alarms with timers := alarms.timers.rest }

end Alarms

/-!
## The book of alarms

A timer is taken off by its number alone. Arming takes the earlier alarm off and enters the new
one. An alarm that goes off strikes out the entry of its turnstile, whatever number stands there.
-/

structure Numbered where
  number : Nat
  device : Device
  deriving DecidableEq

/-- The alarms that are set, how many were set so far, and the number of the alarm of each
turnstile that has one. -/
structure AlarmBook where
  delay : Nat
  made : Nat
  numbers : List (Device × Nat)
  timers : Agenda.Timers Numbered
  deriving DecidableEq

namespace AlarmBook

def ofTimeout (timeout : Number) : AlarmBook :=
  { delay := Agenda.delay timeout, made := 0, numbers := [], timers := .none }

def isArmed (book : AlarmBook) (device : Device) : Bool :=
  (book.numbers.lookup device).isSome

def strike (book : AlarmBook) (device : Device) : AlarmBook :=
  { book with numbers := book.numbers.filter fun (known, _) => known != device }

def clear (book : AlarmBook) (number : Nat) : AlarmBook :=
  { book with timers := book.timers.cancel fun alarm => alarm.number == number }

def disarm (book : AlarmBook) (device : Device) : Bool × AlarmBook :=
  match book.numbers.lookup device with
  | none => (false, book)
  | some number => (true, (book.clear number).strike device)

def enter (book : AlarmBook) (clock : Agenda.Clock) (device : Device) : AlarmBook :=
  { book.strike device with
    made := book.made + 1
    numbers := (book.strike device).numbers ++ [(device, book.made)]
    timers := book.timers.set clock book.delay ⟨book.made, device⟩ }

def arm (book : AlarmBook) (clock : Agenda.Clock) (device : Device) : AlarmBook :=
  (book.disarm device).2.enter clock device

def disarmAll (book : AlarmBook) : AlarmBook :=
  { (book.numbers.map Prod.snd).foldl clear book with numbers := [] }

def armed (book : AlarmBook) : List Device :=
  (book.numbers.map Prod.fst).mergeSort fun left right => left.number ≤ right.number

def ring (book : AlarmBook) (alarm : Numbered) : AlarmBook :=
  { book with timers := book.timers.rest }.strike alarm.device

/-- Lets timers go off in order while one is due up to a time, at most a number of them. -/
def ringUpTo (target : Rat) : Nat → AlarmBook → List (Agenda.Pending Device) × AlarmBook
  | 0, book => ([], book)
  | budget + 1, book =>
      match book.timers.next? with
      | some timer =>
          if timer.due ≤ target then
            let (later, last) := ringUpTo target budget (book.ring timer.item)
            (⟨timer.due, timer.stamp, timer.item.device⟩ :: later, last)
          else ([], book)
      | none => ([], book)

def goOff (book : AlarmBook) (target : Rat) : List (Agenda.Pending Device) × AlarmBook :=
  ringUpTo target book.timers.pending.length book

end AlarmBook

end Gatehouse.Turnstile
