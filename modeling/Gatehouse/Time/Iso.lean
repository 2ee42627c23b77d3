import Gatehouse.Json.Value
import Gatehouse.Time.Reading
import Gatehouse.Time.Stamp

/-!
# International date texts

Instants in documents are written `yyyy-mm-ddThh:mm:ss.mmmZ`; years outside 0 to 9999 take a sign
and six digits. `isDatetime` is the pattern that some documents must meet, which is narrower than
what can be read: it asks for a real day and for a zone, though not for a real offset.

An instant that is no point in time is left out of a document, or called invalid in a text.
-/

namespace Gatehouse.Time.Iso

def yearText (year : Int) : List Char :=
  if year < 0 then '-' :: padded 6 year.natAbs
  else if 9999 < year then '+' :: padded 6 year.natAbs
  else padded 4 year.natAbs

def writeCivil (civil : Civil) : List Char :=
  yearText civil.date.year ++ '-' :: padded 2 civil.date.month ++ '-' :: padded 2 civil.date.day ++
    'T' :: padded 2 civil.hour ++ ':' :: padded 2 civil.minute ++ ':' :: padded 2 civil.second ++
    '.' :: padded 3 civil.milli ++ ['Z']

def write? : Instant → Option String
  | .moment millis => some (String.ofList (writeCivil (Civil.ofMillis millis)))
  | .invalid => none

/-- The seconds of a pattern, if there are any, with the text behind them and their fraction. -/
def takeSeconds : List Char → Option (Nat × List Char)
  | ':' :: rest =>
      match takeDigits 2 rest with
      | some (second, '.' :: rest) =>
          let fraction := rest.takeWhile fun character => (digit? character).isSome
          if fraction.isEmpty then none else some (second, rest.drop fraction.length)
      | other => other
  | rest => some (0, rest)

def isZone (text : List Char) : Bool :=
  match text with
  | ['Z'] => true
  | sign :: rest =>
      let pairs := match rest with
        | first :: second :: ':' :: rest => first :: second :: rest
        | other => other
      (sign == '+' || sign == '-') && pairs.length == 4 &&
        pairs.all fun character => (digit? character).isSome
  | [] => false

def readCivil (text : List Char) : Option Civil := do
  let (year, text) ← takeDigits 4 text
  let text ← takeMark '-' text
  let (month, text) ← takeDigits 2 text
  let text ← takeMark '-' text
  let (day, text) ← takeDigits 2 text
  let text ← takeMark 'T' text
  let (hour, text) ← takeDigits 2 text
  let text ← takeMark ':' text
  let (minute, text) ← takeDigits 2 text
  let (second, text) ← takeSeconds text
  if isZone text then some ⟨⟨year, month, day⟩, hour, minute, second, 0⟩ else none

/-- The pattern for instants in documents: a year of four digits, a real date and time of day,
and any offset digits. -/
def isDatetime (text : String) : Bool :=
  (readCivil text.toList).any Civil.isReal

example : write? (.moment 1746878400000) = some "2025-05-10T12:00:00.000Z" := by decide +kernel
example : isDatetime "2025-05-10T12:00:00+99:99" = true := by decide +kernel
example : isDatetime "2025-02-30T12:00Z" = false := by decide +kernel

end Gatehouse.Time.Iso

namespace Gatehouse.Time.Instant

/-- The international text of an instant; one that is no point in time is called invalid. -/
def text (instant : Instant) : String :=
  (Iso.write? instant).getD (Stamp.write .invalid)

/-- An instant as a document; one that is no point in time is left out. -/
def document (instant : Instant) : Json :=
  match Iso.write? instant with
  | some text => .text text
  | none => .null

def ofDocument? (document : Json) : Option Instant :=
  document.text?.map read

end Gatehouse.Time.Instant
