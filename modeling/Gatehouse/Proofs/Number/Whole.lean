import Gatehouse.Number.Basic
import Gatehouse.Number.Reading
import Mathlib.Algebra.Order.Field.Rat
import Mathlib.Tactic.Positivity

/-!
# Whole numbers and rounding

Rounding leaves a whole number whole: below two to the power of 53 it is a binary64 value and left
as it is (`nearest_of_small`), and above that the last digit of a significand counts for a whole
number. So what is read at the front of a text is a whole number or has no digits
(`isWhole_leadingInteger`).
-/

namespace Gatehouse.Number

theorem roundQuotient_one (numerator : Nat) : roundQuotient numerator 1 = numerator := by
  simp [roundQuotient, Nat.mod_one]

theorem nearestParts_one {whole : Nat} (positive : whole ≠ 0) :
    nearestParts whole 1 =
      let exponent : Int := Max.max ((whole.log2 : Int) - 52) (-1074)
      (if exponent < 0 then roundQuotient (whole * 2 ^ (-exponent).toNat) 1
        else roundQuotient whole (2 ^ exponent.toNat), exponent) := by
  have reaches : 2 ^ whole.log2 ≤ whole := Nat.log2_self_le positive
  have guess : (whole.log2 : Int) - (Nat.log2 1 : Nat) = whole.log2 := by
    have : Nat.log2 1 = 0 := by decide
    omega
  have nonnegative : ¬(whole.log2 : Int) < 0 := by omega
  simp only [nearestParts, guess, nonnegative, if_false, Int.toNat_natCast, one_mul, reaches,
    decide_true, if_true]

theorem nearestParts_of_small {whole : Nat} (positive : whole ≠ 0) (small : whole < 2 ^ 53) :
    ∃ shift : Nat, nearestParts whole 1 = (whole * 2 ^ shift, -(shift : Int)) := by
  have short : whole.log2 < 53 := (Nat.log2_lt positive).mpr small
  refine ⟨52 - whole.log2, ?_⟩
  have exponent :
      Max.max ((whole.log2 : Int) - 52) (-1074) = -((52 - whole.log2 : Nat) : Int) := by
    omega
  simp only [nearestParts_one positive, exponent, Prod.mk.injEq, and_true]
  split
  · rw [neg_neg, Int.toNat_natCast, roundQuotient_one]
  · next whole_exponent =>
      have none_left : 52 - whole.log2 = 0 := by omega
      simp [none_left, roundQuotient_one]

theorem scaled_shifted (whole shift : Nat) :
    scaled (whole * 2 ^ shift) (-(shift : Int)) = whole := by
  unfold scaled
  split
  · have nonzero : ((2 : Rat) ^ shift) ≠ 0 := by positivity
    rw [neg_neg, Int.toNat_natCast, Rat.mkRat_eq_div]
    push_cast
    exact mul_div_cancel_right₀ _ nonzero
  · next none_left =>
      have : shift = 0 := by omega
      simp [this]

theorem not_pow_le_of_small {whole limit : Nat} (small : whole < 2 ^ 53) (far : 53 ≤ limit) :
    ¬((2 ^ limit : Nat) : Rat) ≤ (whole : Rat) := by
  rw [Nat.cast_le, not_le]
  exact lt_of_lt_of_le small (Nat.pow_le_pow_right Nat.two_pos far)

theorem nearest_of_small {whole : Int} (small : whole.natAbs < 2 ^ 53) :
    nearest (whole : Rat) = .finite whole := by
  unfold nearest
  by_cases zero : whole = 0
  · simp [zero]
  · have positive : whole.natAbs ≠ 0 := Int.natAbs_ne_zero.mpr zero
    rcases nearestParts_of_small positive small with ⟨shift, parts⟩
    have bounded : ¬((2 ^ 1024 : Nat) : Rat) ≤ (whole.natAbs : Rat) :=
      not_pow_le_of_small small (by decide)
    simp only [Rat.num_intCast, Rat.den_intCast, zero, if_false, parts, scaled_shifted, bounded]
    by_cases negative : whole < 0
    · have magnitude : ((whole.natAbs : Int) : Rat) = ((-whole : Int) : Rat) := by
        rw [Int.ofNat_natAbs_of_nonpos negative.le]
      simp only [negative, decide_true, if_true]
      rw [← Int.cast_natCast, magnitude, Int.cast_neg, neg_neg]
    · have magnitude : ((whole.natAbs : Int) : Rat) = (whole : Rat) := by
        rw [Int.natAbs_of_nonneg (not_lt.mp negative)]
      simp only [negative, decide_false, Bool.false_eq_true, if_false]
      rw [← Int.cast_natCast, magnitude]

inductive IsWhole : Number → Prop
  | whole (value : Int) : IsWhole (.ofInt value)
  | infinite (negative : Bool) : IsWhole (.infinite negative)

theorem exponent_of_large {whole : Nat} (large : 2 ^ 53 ≤ whole) :
    0 ≤ (nearestParts whole 1).2 := by
  have positive : whole ≠ 0 := by omega
  have high : 53 ≤ whole.log2 := (Nat.le_log2 positive).mpr large
  rw [nearestParts_one positive]
  dsimp only
  omega

theorem scaled_nearestParts (whole : Nat) :
    ∃ magnitude : Nat,
      scaled (nearestParts whole 1).1 (nearestParts whole 1).2 = magnitude := by
  by_cases small : whole < 2 ^ 53
  · by_cases zero : whole = 0
    · exact ⟨0, by rw [zero]; decide +kernel⟩
    · rcases nearestParts_of_small zero small with ⟨shift, parts⟩
      exact ⟨whole, by rw [parts, scaled_shifted]⟩
  · have nonnegative := exponent_of_large (not_lt.mp small)
    rw [scaled, if_neg (not_lt.mpr nonnegative)]
    exact ⟨_, rfl⟩

theorem isWhole_nearest (value : Int) : IsWhole (nearest (value : Rat)) := by
  rcases scaled_nearestParts value.natAbs with ⟨magnitude, rounded⟩
  unfold nearest
  simp only [Rat.num_intCast, Rat.den_intCast, rounded]
  split
  · exact .whole 0
  · split
    · exact .infinite _
    · split
      · have negated : -(magnitude : Rat) = ((-(magnitude : Int) : Int) : Rat) := by
          rw [Int.cast_neg, Int.cast_natCast]
        rw [negated]
        exact .whole _
      · exact .whole magnitude

theorem isWhole_ofDecimal (negative : Bool) (digits : Nat) :
    IsWhole (ofDecimal negative digits 0) := by
  have exact_value : ((digits * 10 ^ (0 : Int).toNat : Nat) : Rat) = ((digits : Int) : Rat) := by
    simp
  simp only [ofDecimal, exact_value]
  split
  · exact .whole 0
  · split
    · exact .infinite negative
    · simp only [lt_irrefl, if_false]
      split
      · rw [← Int.cast_neg]
        exact isWhole_nearest _
      · exact isWhole_nearest _

theorem isWhole_leadingInteger (text : String) :
    leadingInteger text = .nan ∨ IsWhole (leadingInteger text) := by
  unfold leadingInteger
  generalize takeSign (Text.trimFront text.toList) = signed
  rcases signed with ⟨negative, rest⟩
  dsimp only
  split
  · exact .inl rfl
  · exact .inr (isWhole_ofDecimal negative _)

end Gatehouse.Number
