import Gatehouse.Fault

/-!
# Histories

A history shows the latest events first and keeps at most a number of them. A limit that is no
count cannot be kept: an event that would exceed it is entered all the same, and the entry is
reported as a failure.
-/

namespace Gatehouse

structure History (Event : Type) where
  limit : Number
  events : List Event

namespace History

variable {Event : Type}

def empty (limit : Number) : History Event :=
  { limit := limit, events := [] }

def countOf (limit : Number) : Option Nat :=
  limit.toInt?.bind fun whole => if whole < 0 then none else some whole.toNat

def isFull (history : History Event) : Bool :=
  history.limit.lt (.ofNat (history.events.length + 1))

def obstacle (history : History Event) : Option Fault :=
  if history.isFull && (countOf history.limit).isNone then some .badLength else none

def record (history : History Event) (event : Event) : History Event :=
  let events := event :: history.events
  { history with
    events :=
      if history.isFull then
        match countOf history.limit with
        | some count => events.take count
        | none => events
      else events }

end History

end Gatehouse
