import Gatehouse.Time.Instant
import Gatehouse.Time.Token

/-!
# Reading instants

An instant is read from the international form `yyyy-mm-ddThh:mm:ss.mmm` with a zone, of which the
end may be missing, or else from any text that names a day and perhaps a time of day and a zone.
Without a zone a text means universal time.

Both forms fill a `Draft`. The international form is tried first; what it has taken in stays when
the rest has to be read freely, except that behind the mark `T` nothing else is possible. A day of
the month is any from 1 to 31: days that the month does not have run on into the next.
-/

namespace Gatehouse.Time

-- Powers of natural numbers are those of the core library, whatever else is imported.
attribute [local instance (2000)] instPowNat

/-- What is known of an instant so far: the numbers of its day in order, a month given by name, the
numbers of its time of day in order, the half of the day, and its zone. `international` says that
the numbers of the day are year, month and day, `counted` that a number was seen, and `joint` that
a dash would only join two numbers. -/
structure Draft where
  day : List Int
  month : Option Nat
  time : List Nat
  half : Option Nat
  plus : Option Bool
  hours : Option Nat
  minutes : Option Nat
  international : Bool
  counted : Bool
  joint : Bool
  deriving DecidableEq

namespace Draft

def empty : Draft :=
  { day := [], month := none, time := [], half := none, plus := none, hours := none
    minutes := none, international := false, counted := false, joint := false }

def addDay (draft : Draft) (number : Int) : Option Draft :=
  if draft.day.length < 3 then some { draft with day := draft.day ++ [number] } else none

def addTime (draft : Draft) (number : Nat) : Option Draft :=
  if draft.time.length < 4 then some { draft with time := draft.time ++ [number] } else none

def endTime (draft : Draft) (number : Nat) : Draft :=
  { draft with time := (draft.time ++ [number] ++ [0, 0, 0]).take 4 }

def expectsTime (draft : Draft) (number : Nat) : Bool :=
  match draft.time.length with
  | 1 | 2 => number < 60
  | 3 => number < 1000
  | _ => false

def expectsMinutes (draft : Draft) (number : Nat) : Bool :=
  draft.hours.isSome && draft.minutes.isNone && number < 60

def isUniversal (draft : Draft) : Bool :=
  draft.hours == some 0 && draft.minutes == some 0

def setZone (draft : Draft) (hours : Int) : Draft :=
  { draft with plus := some (0 ≤ hours), hours := some hours.natAbs, minutes := some 0 }

/-- The numbers of year, month and day; a year of two digits is one between 1950 and 2049. -/
def date? (draft : Draft) : Option Date :=
  let isDay (number : Int) : Bool := 1 ≤ number && number ≤ 31
  let parts : Option (Int × Int × Int) :=
    match draft.day ++ List.replicate (3 - draft.day.length) 1, draft.month with
    | [], _ => none
    | first :: second :: third :: _, none =>
        if draft.international || !isDay first then some (first, second, third)
        else some (third, first, second)
    | first :: second :: _, some month =>
        if isDay first then some (second, month, first) else some (first, month, second)
    | _, _ => none
  match parts with
  | some (year, month, day) =>
      if draft.day.isEmpty || month < 1 || 12 < month || !isDay day then none
      else
        let full :=
          if draft.international || year < 0 || 99 < year then year
          else if year ≤ 49 then year + 2000
          else year + 1900
        some ⟨full, month.toNat, day.toNat⟩
  | none => none

/-- The milliseconds since midnight; midnight at the end of the day is hour 24. -/
def clock? (draft : Draft) : Option Int :=
  match draft.time ++ List.replicate (4 - draft.time.length) 0 with
  | [hour, minute, second, milli] =>
      let hour? : Option Nat :=
        match draft.half with
        | some half => if 12 < hour then none else some (hour % 12 + half)
        | none => some hour
      match hour? with
      | some hour =>
          let inDay := hour < 24 && minute < 60 && second < 60 && milli < 1000
          let atEnd := hour == 24 && minute == 0 && second == 0 && milli == 0
          if inDay || atEnd then
            some ((((hour * 60 + minute) * 60 + second) * 1000 + milli : Nat) : Int)
          else none
      | none => none
  | _ => none

/-- How far the zone's clock is ahead, in milliseconds. The seconds are counted in a word of
thirty-two bits, and what does not fit a signed one is no zone. -/
def shift? (draft : Draft) : Option Int :=
  match draft.plus with
  | none => some 0
  | some plus =>
      let seconds : Nat := (draft.hours.getD 0 * 3600 + draft.minutes.getD 0 * 60) % 2 ^ (32 : Nat)
      if 2 ^ (31 : Nat) ≤ seconds then none
      else some (if plus then (seconds * 1000 : Nat) else -((seconds * 1000 : Nat) : Int))

def instant (draft : Draft) : Instant :=
  match draft.date?, draft.clock?, draft.shift? with
  | some date, some millis, some shift => .ofMillis (date.toDays * dayMillis + millis - shift)
  | _, _, _ => .invalid

end Draft

namespace Reading

def fraction (value length : Nat) : Nat :=
  match length with
  | 1 => value * 100
  | 2 => value * 10
  | _ => value / 10 ^ (min length Token.significantDigits - 3)

def maySeparate : List Token → Bool
  | [] | .blank :: _ | .sign _ :: _ | .word (.zone _) 1 :: _ => true
  | _ => false

/-- Takes in a word. A word without meaning is possible in front of the first number, if it does
not touch it. -/
def takeWord (draft : Draft) (rest : List Token) (word : Word) : Option Draft :=
  let ignored : Option Draft :=
    match rest with
    | .number .. :: _ => none
    | _ => if draft.counted then none else some draft
  match word with
  | .half hours => if draft.time.isEmpty then ignored else some { draft with half := some hours }
  | .month number => some { draft with month := some number, joint := true }
  | .zone hours => if draft.counted then some (draft.setZone hours) else ignored
  | .timeMark | .other => ignored

/-- Takes in an offset of a zone: hours, with the minutes to come behind a colon, or hours and
minutes in one number. -/
def takeOffset (draft : Draft) (plus : Bool) (value length : Nat) (pending : Bool) : Option Draft :=
  let signed := { draft with plus := some plus, counted := true }
  if pending then some { signed with hours := some value, minutes := none }
  else
    match length with
    | 1 | 2 => some { signed with hours := some value, minutes := some 0 }
    | 3 | 4 => some { signed with hours := some (value / 100), minutes := some (value % 100) }
    | _ => none

def takeNumber (draft : Draft) (value : Nat) (rest : List Token) : Option Draft :=
  if draft.expectsMinutes value then some { draft with minutes := some value }
  else if draft.expectsTime value then
    if maySeparate rest then some (draft.endTime value) else none
  else (draft.addDay value).map fun added => { added with joint := true }

def free (draft : Draft) (tokens : List Token) : Option Draft :=
  let loose := { draft with joint := false }
  let seen := { loose with counted := true }
  match tokens with
  | [] => some draft
  | .number value _ :: .colon :: .colon :: rest =>
      if draft.time.isEmpty then free { seen with time := [value, 0] } rest else none
  | .number value _ :: .colon :: .point :: rest => (seen.addTime value).bind (free · rest)
  | .number value _ :: .colon :: rest => (seen.addTime value).bind (free · rest)
  | .number value _ :: .point :: rest =>
      if seen.expectsTime value then
        match rest with
        | .number digits length :: rest =>
            (seen.addTime value).bind fun added =>
              free (added.endTime (fraction digits length)) rest
        | _ => none
      else (takeNumber seen value rest).bind (free · rest)
  | .number value _ :: rest => (takeNumber seen value rest).bind (free · rest)
  | .word word _ :: rest => (takeWord loose rest word).bind (free · rest)
  | .sign plus :: rest =>
      if draft.joint && !plus then free loose rest
      else if draft.isUniversal || !draft.time.isEmpty then
        match rest with
        | .number value _ :: .colon :: rest =>
            (takeOffset loose plus value 0 true).bind (free · rest)
        | .number value length :: rest =>
            (takeOffset loose plus value length false).bind (free · rest)
        | .colon :: rest => (takeOffset loose plus 0 0 true).bind (free · rest)
        | _ => none
      else if draft.counted then none
      else free loose rest
  | .close :: rest => if draft.counted then none else free loose rest
  | .colon :: rest | .point :: rest | .blank :: rest | .other :: rest => free loose rest

def zone? (draft : Draft) : List Token → Option Draft
  | [] => some draft
  | [.word (.zone hours) 1] => some (draft.setZone hours)
  | [.sign plus, .number value 4] =>
      if value / 100 < 24 && value % 100 < 60 then
        some { draft with
          plus := some plus, hours := some (value / 100), minutes := some (value % 100) }
      else none
  | [.sign plus, .number hours 2, .colon, .number minutes 2] =>
      if hours < 24 && minutes < 60 then
        some { draft with plus := some plus, hours := some hours, minutes := some minutes }
      else none
  | _ => none

def isTime (hour : Nat) (others : List Nat) : Bool :=
  others.all (· < 60) && (hour < 24 || (hour == 24 && others.all (· == 0)))

def timed? (draft : Draft) : List Token → Option Draft
  | .number hour 2 :: .colon :: .number minute 2 :: .colon :: .number second 2 :: .point ::
      .number digits length :: rest =>
      if isTime hour [minute, second] && (hour < 24 || digits == 0) then
        zone? { draft with time := [hour, minute, second, fraction digits length] } rest
      else none
  | .number _ 2 :: .colon :: .number _ 2 :: .colon :: .number _ 2 :: .point :: _ => none
  | .number hour 2 :: .colon :: .number minute 2 :: .colon :: .number second 2 :: rest =>
      if isTime hour [minute, second] then zone? { draft with time := [hour, minute, second] } rest
      else none
  | .number _ 2 :: .colon :: .number _ 2 :: .colon :: _ => none
  | .number hour 2 :: .colon :: .number minute 2 :: rest =>
      if isTime hour [minute] then zone? { draft with time := [hour, minute] } rest else none
  | _ => none

def afterDate (draft : Draft) (tokens : List Token) : Option Draft :=
  match tokens with
  | [] => some { draft with international := true }
  | .word .timeMark _ :: rest => timed? { draft with international := true } rest
  | _ => free { draft with counted := true } tokens

def afterYear (year : Int) (tokens : List Token) : Option Draft :=
  let draft := { Draft.empty with day := [year] }
  match tokens with
  | .sign false :: .number month 2 :: rest =>
      if month < 1 || 12 < month then free { draft with counted := true } (.number month 2 :: rest)
      else
        let draft := { draft with day := [year, month] }
        match rest with
        | .sign false :: .number day 2 :: rest =>
            if day < 1 || 31 < day then free { draft with counted := true } (.number day 2 :: rest)
            else afterDate { draft with day := [year, month, day] } rest
        | .sign false :: rest => free { draft with counted := true } rest
        | _ => afterDate draft rest
  | .sign false :: rest => free { draft with counted := true } rest
  | _ => afterDate draft tokens

def draft? (tokens : List Token) : Option Draft :=
  match tokens with
  | .sign plus :: .number year 6 :: rest =>
      if plus || year != 0 then afterYear (if plus then year else -year) rest
      else free .empty (.sign plus :: rest)
  | .number year 4 :: rest => afterYear year rest
  | _ => free .empty tokens

end Reading

def Instant.read (text : String) : Instant :=
  match Reading.draft? (Token.ofText text) with
  | some draft => draft.instant
  | none => .invalid

example : Instant.read "2025-05-10T12:00:00.1239-03:00" = .moment 1746889200123 := by
  decide +kernel
example : Instant.read "-000001-06-15T00:00:00Z" = .moment (-62184499200000) := by decide +kernel
example : Instant.read "2025-02-30" = .moment 1740873600000 := by decide +kernel
example : Instant.read "2025-05-10T24:00" = Instant.read "2025-05-11" := by decide +kernel
example : Instant.read "10 May 2025 2:00 pm GMT+2" = Instant.read "2025-05-10T12:00Z" := by
  decide +kernel
example : Instant.read "2025-05-10T12:00:00+99:99" = .invalid := by decide +kernel

end Gatehouse.Time
