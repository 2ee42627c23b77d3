import Gatehouse.Text.Blank
import Gatehouse.Time.Digits
import Gatehouse.Time.Instant

/-!
# Reader timestamps

Readers write the time of a passage as `dd/mm/yyyy hh:mm:ss`, without a fraction and without a
zone; it is universal time. Writing takes any instant. Reading accepts, within blanks, exactly the
texts of that shape whose date the calendar has and whose year is at least 100.
-/

namespace Gatehouse.Time.Stamp

/-- The year with zeros in front of its text up to four characters, a sign counting as one. -/
def yearText (year : Int) : List Char :=
  let text := if year < 0 then '-' :: Nat.toDigits 10 year.natAbs else Nat.toDigits 10 year.natAbs
  List.replicate (4 - text.length) '0' ++ text

def writeCivil (civil : Civil) : List Char :=
  padded 2 civil.date.day ++ '/' :: padded 2 civil.date.month ++ '/' :: yearText civil.date.year ++
    ' ' :: padded 2 civil.hour ++ ':' :: padded 2 civil.minute ++ ':' :: padded 2 civil.second

def write : Instant → String
  | .moment millis => String.ofList (writeCivil (Civil.ofMillis millis))
  | .invalid => "Invalid Date"

def readCivil (text : List Char) : Option Civil := do
  let (day, text) ← takeDigits 2 text
  let text ← takeMark '/' text
  let (month, text) ← takeDigits 2 text
  let text ← takeMark '/' text
  let (year, text) ← takeDigits 4 text
  let text ← takeMark ' ' text
  let (hour, text) ← takeDigits 2 text
  let text ← takeMark ':' text
  let (minute, text) ← takeDigits 2 text
  let text ← takeMark ':' text
  let (second, text) ← takeDigits 2 text
  if text.isEmpty then some ⟨⟨year, month, day⟩, hour, minute, second, 0⟩ else none

def read (text : String) : Option Instant :=
  match readCivil (Text.trimList text.toList) with
  | some civil =>
      if civil.isReal && decide (100 ≤ civil.date.year) then some (.ofCivil civil) else none
  | none => none

example : write (.moment 1746878400000) = "10/05/2025 12:00:00" := by decide +kernel
example : read " 10/05/2025 12:00:00" = some (.moment 1746878400000) := by decide +kernel
example : read "31/02/2025 12:00:00" = none := by decide +kernel
example : yearText (-1) = "00-1".toList := by decide

end Gatehouse.Time.Stamp
