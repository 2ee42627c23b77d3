/-!
# Numbers from outside

Numbers that arrive in texts and documents are binary64 values: a rational, one of the two
infinities, or not a number at all. Zero has no sign here, because nothing this library prints
shows one.

`nearest` rounds a rational to the closest binary64 value, ties to the even significand. Counts of
the program's own making are exact (`ofNat`).
-/

namespace Gatehouse

-- Powers of natural numbers are those of the core library, whatever else is imported.
attribute [local instance (2000)] instPowNat

inductive Number where
  | nan
  | finite (value : Rat)
  | infinite (negative : Bool)
  deriving DecidableEq

namespace Number

def ofNat (count : Nat) : Number :=
  .finite count

def ofInt (whole : Int) : Number :=
  .finite whole

/-- The quotient rounded to the nearest natural number, a half to the even neighbour. -/
def roundQuotient (numerator denominator : Nat) : Nat :=
  let quotient := numerator / denominator
  let rest := 2 * (numerator % denominator)
  if rest < denominator || (rest == denominator && quotient % 2 == 0) then quotient
  else quotient + 1

/-- Significand and exponent of the binary64 value nearest to a positive quotient, before the
bound on the exponent is looked at. The significand of a normal value has 53 bits; below the least
exponent the significand is shorter. -/
def nearestParts (numerator denominator : Nat) : Nat × Int :=
  let guess : Int := (numerator.log2 : Int) - denominator.log2
  let reaches : Bool :=
    if guess < 0 then denominator ≤ numerator * 2 ^ (-guess).toNat
    else denominator * 2 ^ guess.toNat ≤ numerator
  let exponent : Int := max ((if reaches then guess else guess - 1) - 52) (-1074)
  let significand :=
    if exponent < 0 then roundQuotient (numerator * 2 ^ (-exponent).toNat) denominator
    else roundQuotient numerator (denominator * 2 ^ exponent.toNat)
  (significand, exponent)

def scaled (significand : Nat) (exponent : Int) : Rat :=
  if exponent < 0 then mkRat significand (2 ^ (-exponent).toNat)
  else ((significand * 2 ^ exponent.toNat : Nat) : Rat)

/-- The binary64 value nearest to a rational; values beyond the largest finite one are infinite. -/
def nearest (value : Rat) : Number :=
  if value.num = 0 then .finite 0
  else
    let (significand, exponent) := nearestParts value.num.natAbs value.den
    let magnitude := scaled significand exponent
    let negative := decide (value.num < 0)
    if ((2 ^ (1024 : Nat) : Nat) : Rat) ≤ magnitude then .infinite negative
    else .finite (if negative then -magnitude else magnitude)

/-- The binary64 value of a decimal: digits as a whole number times a power of ten. Exponents far
outside the range are answered without computing the power. -/
def ofDecimal (negative : Bool) (digits : Nat) (exponent : Int) : Number :=
  let size : Int := (Nat.toDigits 10 digits).length
  if digits = 0 || size + exponent < -400 then .finite 0
  else if 400 < size + exponent then .infinite negative
  else
    let magnitude : Rat :=
      if exponent < 0 then mkRat digits (10 ^ (-exponent).toNat)
      else ((digits * 10 ^ exponent.toNat : Nat) : Rat)
    nearest (if negative then -magnitude else magnitude)

/-- Strictly less; nothing is less or greater than what is not a number. -/
def lt : Number → Number → Bool
  | .finite left, .finite right => decide (left < right)
  | .finite _, .infinite negative => !negative
  | .infinite negative, .finite _ => negative
  | .infinite left, .infinite right => left && !right
  | .nan, _ => false
  | _, .nan => false

def le (left right : Number) : Bool :=
  match left, right with
  | .nan, _ => false
  | _, .nan => false
  | left, right => !lt right left

def max (left right : Number) : Number :=
  match left, right with
  | .nan, _ => .nan
  | _, .nan => .nan
  | left, right => if lt left right then right else left

def min (left right : Number) : Number :=
  match left, right with
  | .nan, _ => .nan
  | _, .nan => .nan
  | left, right => if lt right left then right else left

def toInt? : Number → Option Int
  | .finite value => if value.den = 1 then some value.num else none
  | _ => none

def floor : Number → Number
  | .finite value => .finite value.floor
  | other => other

def truncate (value : Rat) : Int :=
  value.num.tdiv value.den

@[simp] theorem lt_finite (left right : Rat) :
    lt (.finite left) (.finite right) = decide (left < right) := rfl

@[simp] theorem toInt?_ofInt (whole : Int) : toInt? (ofInt whole) = some whole := by
  simp [toInt?, ofInt]

@[simp] theorem toInt?_ofNat (count : Nat) : toInt? (ofNat count) = some (count : Int) := by
  simp [toInt?, ofNat]

example : ofDecimal false 1 (-1) = .finite (mkRat 3602879701896397 36028797018963968) := by
  decide +kernel
example : ofDecimal false 99999999999999999999 0 = .finite 100000000000000000000 := by
  decide +kernel
example : ofDecimal true 1 309 = .infinite true := by decide +kernel

end Number

end Gatehouse
