import Gatehouse.Number.Basic

/-!
# Instants

A point in time is a count of milliseconds since the start of 1970, universal time, within a
hundred million days on either side. A computation that leaves that range, or a text that names no
date, gives the invalid instant, which compares with nothing: every comparison with it is false.
-/

namespace Gatehouse.Time

/-!
## The calendar

Days are counted from the first of January 1970 in the Gregorian calendar, continued backwards
without a break. `Date.toDays` and `Date.ofDays` turn a date into its day count and back. Years of
the computation start in March, so that the leap day is the last day of a year.
-/

structure Date where
  year : Int
  month : Nat
  day : Nat
  deriving DecidableEq

namespace Date

def isLeap (year : Int) : Bool :=
  year % 4 == 0 && (year % 100 != 0 || year % 400 == 0)

def daysInMonth (year : Int) (month : Nat) : Nat :=
  match month with
  | 2 => if isLeap year then 29 else 28
  | 4 | 6 | 9 | 11 => 30
  | _ => 31

def isReal (date : Date) : Bool :=
  1 ≤ date.month && date.month ≤ 12 && 1 ≤ date.day &&
    date.day ≤ daysInMonth date.year date.month

def toDays (date : Date) : Int :=
  let year := if date.month ≤ 2 then date.year - 1 else date.year
  let era := year / 400
  let yearOfEra := year - era * 400
  let monthFromMarch : Int := ((date.month : Int) + 9) % 12
  let dayOfYear := (153 * monthFromMarch + 2) / 5 + date.day - 1
  let dayOfEra := yearOfEra * 365 + yearOfEra / 4 - yearOfEra / 100 + dayOfYear
  era * 146097 + dayOfEra - 719468

def ofDays (days : Int) : Date :=
  let shifted := days + 719468
  let era := shifted / 146097
  let dayOfEra := shifted - era * 146097
  let yearOfEra := (dayOfEra - dayOfEra / 1460 + dayOfEra / 36524 - dayOfEra / 146096) / 365
  let dayOfYear := dayOfEra - (365 * yearOfEra + yearOfEra / 4 - yearOfEra / 100)
  let monthFromMarch := (5 * dayOfYear + 2) / 153
  let day := dayOfYear - (153 * monthFromMarch + 2) / 5 + 1
  let month := (monthFromMarch + 2) % 12 + 1
  let year := yearOfEra + era * 400 + (if month ≤ 2 then 1 else 0)
  { year := year, month := month.toNat, day := day.toNat }

example : toDays ⟨1970, 1, 1⟩ = 0 := by decide
example : ofDays 20218 = ⟨2025, 5, 10⟩ := by decide
example : ofDays (toDays ⟨2000, 2, 29⟩) = ⟨2000, 2, 29⟩ := by decide
example : ofDays (toDays ⟨-1, 12, 31⟩) = ⟨-1, 12, 31⟩ := by decide

end Date

/-! ## Points in time -/

inductive Instant where
  | moment (millis : Int)
  | invalid
  deriving DecidableEq

structure Civil where
  date : Date
  hour : Nat
  minute : Nat
  second : Nat
  milli : Nat
  deriving DecidableEq

def dayMillis : Int := 86400000

namespace Civil

def isReal (civil : Civil) : Bool :=
  civil.date.isReal && civil.hour < 24 && civil.minute < 60 && civil.second < 60 &&
    civil.milli < 1000

def toMillis (civil : Civil) : Int :=
  civil.date.toDays * dayMillis + civil.hour * 3600000 + civil.minute * 60000 +
    civil.second * 1000 + civil.milli

def ofMillis (millis : Int) : Civil :=
  let ofDay := (millis % dayMillis).toNat
  { date := Date.ofDays (millis / dayMillis)
    hour := ofDay / 3600000
    minute := ofDay / 60000 % 60
    second := ofDay / 1000 % 60
    milli := ofDay % 1000 }

end Civil

namespace Instant

def farthest : Int := 8640000000000000

def ofMillis (millis : Int) : Instant :=
  if -farthest ≤ millis ∧ millis ≤ farthest then .moment millis else .invalid

def ofCivil (civil : Civil) : Instant :=
  ofMillis civil.toMillis

def isValid : Instant → Bool
  | .moment _ => true
  | .invalid => false

def before : Instant → Instant → Bool
  | .moment left, .moment right => left < right
  | _, _ => false

def since : Instant → Instant → Bool
  | .moment left, .moment right => right ≤ left
  | _, _ => false

/-- The instant a span of milliseconds earlier; fractions of a millisecond in the result are
dropped. -/
def back (instant : Instant) (span : Number) : Instant :=
  match instant, span with
  | .moment millis, .finite value =>
      match Number.nearest (millis - value) with
      | .finite earlier => ofMillis (Number.truncate earlier)
      | _ => .invalid
  | _, _ => .invalid

theorem ofMillis_of_range {millis : Int} (above : -farthest ≤ millis) (below : millis ≤ farthest) :
    ofMillis millis = .moment millis :=
  if_pos ⟨above, below⟩

end Instant

end Gatehouse.Time
