import Gatehouse.Number.Basic

/-!
# The text of a number

A number is written with the fewest significant digits that read back as the same value, and of
those digits the ones nearest to it. Exponents from minus six to twenty are written positionally,
all others with a mark and a signed exponent.
-/

namespace Gatehouse.Number

-- Powers of natural numbers are those of the core library, whatever else is imported.
attribute [local instance (2000)] instPowNat

/-- Significant digits without trailing zeros, as a whole number, their count, and the place of
the point: the value is `0.digits` times ten to the `point`. -/
structure Significant where
  digits : Nat
  count : Nat
  point : Int

/-- The least exponent `point` with `value < 10 ^ point`, for a positive quotient, searched upward
from a first guess that is never too great. -/
def pointFrom (numerator denominator : Nat) (guess : Int) : Nat → Int
  | 0 => guess
  | fuel + 1 =>
      let reaches : Bool :=
        if guess < 0 then numerator * 10 ^ (-guess).toNat < denominator
        else numerator < denominator * 10 ^ guess.toNat
      if reaches then guess else pointFrom numerator denominator (guess + 1) fuel

/-- Ends of the interval of rationals that round to the value of significand and exponent, and
whether the ends belong to it. -/
def roundingInterval (significand : Nat) (exponent : Int) : Rat × Rat × Bool :=
  let below : Rat :=
    if significand = 2 ^ (52 : Nat) && decide (-1074 < exponent)
    then scaled (4 * significand - 1) (exponent - 2)
    else scaled (2 * significand - 1) (exponent - 1)
  (below, scaled (2 * significand + 1) (exponent - 1), significand % 2 == 0)

/-- The decimal with the given number of digits that lies nearest to the value inside the
interval, if there is one. -/
def onGrid (value below above : Rat) (closed : Bool) (point : Int) (count : Nat) : Option Nat :=
  let power : Int := point - count
  let unit : Rat :=
    if power < 0 then mkRat 1 (10 ^ (-power).toNat) else ((10 ^ power.toNat : Nat) : Rat)
  let lower := (value / unit).floor.toNat
  let inside (digits : Nat) : Bool :=
    let candidate := (digits : Rat) * unit
    if closed then decide (below ≤ candidate) && decide (candidate ≤ above)
    else decide (below < candidate) && decide (candidate < above)
  match inside lower, inside (lower + 1) with
  | true, true =>
      let nearLower := value - (lower : Rat) * unit
      let nearUpper := ((lower + 1 : Nat) : Rat) * unit - value
      if nearUpper < nearLower || (nearUpper == nearLower && lower % 2 == 1) then some (lower + 1)
      else some lower
  | true, false => some lower
  | false, true => some (lower + 1)
  | false, false => none

/-- The first grid, from the given number of digits on, that holds a decimal which reads back. -/
def firstGrid (value below above : Rat) (closed : Bool) (point : Int) : Nat → Nat → Nat × Nat
  | 0, count => ((value * ((10 ^ count : Nat) : Rat)).floor.toNat, count)
  | fuel + 1, count =>
      match onGrid value below above closed point count with
      | some digits => (digits, count)
      | none => firstGrid value below above closed point fuel (count + 1)

def dropZeros : Nat → Nat → Nat
  | 0, digits => digits
  | fuel + 1, digits => if digits % 10 = 0 then dropZeros fuel (digits / 10) else digits

def shortest (value : Rat) : Significant :=
  let numerator := value.num.natAbs
  let denominator := value.den
  let (significand, exponent) := nearestParts numerator denominator
  let (below, above, closed) := roundingInterval significand exponent
  let guess : Int := ((numerator.log2 : Int) - denominator.log2 - 1) * 30103 / 100000 - 1
  let point := pointFrom numerator denominator guess 8
  let (digits, count) := firstGrid value below above closed point 17 1
  let kept := dropZeros 20 digits
  let keptCount := (Nat.toDigits 10 kept).length
  { digits := kept, count := keptCount
    point := point + ((Nat.toDigits 10 digits).length : Int) - count }

def Significant.layout (significant : Significant) : String :=
  let digits := Nat.toDigits 10 significant.digits
  let point := significant.point
  let zeros (count : Int) : List Char := List.replicate count.toNat '0'
  String.ofList <|
    if significant.count ≤ point && point ≤ 21 then digits ++ zeros (point - significant.count)
    else if 0 < point && point ≤ 21 then
      digits.take point.toNat ++ '.' :: digits.drop point.toNat
    else if -6 < point && point ≤ 0 then '0' :: '.' :: zeros (-point) ++ digits
    else
      let exponent := point - 1
      let sign := if exponent < 0 then '-' else '+'
      let fraction := if digits.length ≤ 1 then [] else '.' :: digits.drop 1
      digits.take 1 ++ fraction ++ 'e' :: sign :: Nat.toDigits 10 exponent.natAbs

/-- The text of a rational that is a binary64 value. Whole numbers up to two to the fifty-third
are their own shortest digits. -/
def rationalText (value : Rat) : String :=
  if value.den = 1 && decide (value.num.natAbs ≤ 2 ^ (53 : Nat)) then toString value.num
  else if value < 0 then "-" ++ (shortest (-value)).layout
  else (shortest value).layout

def text : Number → String
  | .nan => "NaN"
  | .finite value => rationalText value
  | .infinite false => "Infinity"
  | .infinite true => "-Infinity"

@[simp] theorem text_ofNat_of_small {count : Nat} (small : count ≤ 2 ^ (53 : Nat)) :
    text (ofNat count) = toString (count : Int) := by
  have whole : ((count : Rat)).den = 1 := rfl
  have value : ((count : Rat)).num = (count : Int) := rfl
  have within : decide ((count : Int).natAbs ≤ 2 ^ (53 : Nat)) = true := decide_eq_true small
  simp only [text, ofNat, rationalText, whole, value, within]
  rfl

example : text (ofDecimal false 1 21) = "1e+21" := by decide +kernel
example : text (ofDecimal false 1 (-7)) = "1e-7" := by decide +kernel
example : text (ofDecimal true 25 (-2)) = "-0.25" := by decide +kernel
example : text (ofDecimal false 123456789 12) = "123456789000000000000" := by decide +kernel
example : text (ofDecimal false 3 (-1)) = "0.3" := by decide +kernel
example : text (ofDecimal false 5 (-324)) = "5e-324" := by decide +kernel
example : text (ofDecimal false 17976931348623157 292) = "1.7976931348623157e+308" := by
  decide +kernel

end Gatehouse.Number
