import Gatehouse.Proofs.Check.Replaced
import Mathlib.Algebra.Field.ZMod
import Mathlib.RingTheory.AdjoinRoot
import Mathlib.Tactic.ComputeDegree

/-!
# The check as a remainder

Bits spell a polynomial over the field of two elements, the first bit the coefficient of the highest
power; so does the register, of less than sixteen terms. A shift of the register multiplies its
polynomial by `X` in the ring modulo the generator (`residue_crcShift`). So the register after all
bytes of a payload is what a division by the generator leaves: `ofRegister_crcOf`.
-/

namespace Gatehouse.Check

open Polynomial

def coefficient (bit : Bool) : ZMod 2 :=
  if bit then 1 else 0

@[simp] theorem coefficient_false : coefficient false = 0 := rfl

@[simp] theorem coefficient_true : coefficient true = 1 := rfl

theorem coefficient_xor (left right : Bool) :
    coefficient (left ^^ right) = coefficient left + coefficient right := by
  cases left <;> cases right <;> decide

/-- The polynomial that bits spell, the first of them before the highest power. -/
noncomputable def ofBits : List Bool → (ZMod 2)[X]
  | [] => 0
  | bit :: rest => C (coefficient bit) * X ^ rest.length + ofBits rest

/-- The polynomial in a register, its lowest bit before the lowest power. -/
noncomputable def ofRegister (register : BitVec 16) : (ZMod 2)[X] :=
  ∑ power ∈ Finset.range 16, C (coefficient (register.getLsbD power)) * X ^ power

noncomputable def generator : (ZMod 2)[X] :=
  X ^ 16 + X ^ 12 + X ^ 5 + 1

def byteBits (byte : UInt8) : List Bool :=
  (List.range 8).map byte.toBitVec.getMsbD

/-- The bits of a payload in the order in which they are taken in. -/
def bits (payload : Bytes) : List Bool :=
  payload.flatMap byteBits

@[simp] theorem length_byteBits (byte : UInt8) : (byteBits byte).length = 8 := by
  simp [byteBits]

@[simp] theorem bits_cons (byte : UInt8) (rest : Bytes) :
    bits (byte :: rest) = byteBits byte ++ bits rest :=
  List.flatMap_cons

@[simp] theorem length_bits (payload : Bytes) : (bits payload).length = 8 * payload.length := by
  induction payload with
  | nil => rfl
  | cons byte rest induction =>
      rw [bits_cons, List.length_append, length_byteBits, induction, List.length_cons]
      omega

theorem ofBits_append (front back : List Bool) :
    ofBits (front ++ back) = ofBits front * X ^ back.length + ofBits back := by
  induction front with
  | nil => simp [ofBits]
  | cons bit rest induction =>
      rw [List.cons_append, ofBits, ofBits, induction, List.length_append, pow_add]
      ring

theorem degree_ofBits_lt (bits : List Bool) : (ofBits bits).degree < bits.length := by
  induction bits with
  | nil => simp [ofBits]
  | cons bit rest induction =>
      rw [ofBits, List.length_cons]
      refine (degree_add_le _ _).trans_lt (max_lt ?_ (induction.trans ?_))
      · exact (degree_C_mul_X_pow_le _ _).trans_lt (by exact_mod_cast Nat.lt_succ_self _)
      · exact_mod_cast Nat.lt_succ_self _

theorem coeff_ofRegister (register : BitVec 16) (power : Nat) :
    (ofRegister register).coeff power = coefficient (register.getLsbD power) := by
  simp only [ofRegister, finsetSum_coeff, coeff_C_mul, coeff_X_pow, mul_ite, mul_one, mul_zero,
    Finset.sum_ite_eq, Finset.mem_range]
  split
  · rfl
  · next high => rw [BitVec.getLsbD_of_ge _ _ (not_lt.mp high), coefficient_false]

theorem degree_ofRegister_lt (register : BitVec 16) : (ofRegister register).degree < 16 := by
  refine (degree_lt_iff_coeff_zero _ _).mpr fun power high => ?_
  rw [coeff_ofRegister, BitVec.getLsbD_of_ge _ _ high, coefficient_false]

theorem ofRegister_xor (left right : BitVec 16) :
    ofRegister (left ^^^ right) = ofRegister left + ofRegister right := by
  ext power
  rw [coeff_add, coeff_ofRegister, coeff_ofRegister, coeff_ofRegister, BitVec.getLsbD_xor,
    coefficient_xor]

theorem ofRegister_byte (byte : UInt8) :
    ofRegister (byte.toBitVec.setWidth 16 <<< 8) = ofBits (byteBits byte) * X ^ 8 := by
  simp [ofRegister, Finset.sum_range_succ, ofBits, byteBits, List.range_succ,
    BitVec.getMsbD_eq_getLsbD]
  ring

theorem degree_generator : generator.degree = 16 := by
  unfold generator
  compute_degree!

theorem monic_generator : generator.Monic := by
  unfold generator
  monicity!

theorem ofRegister_shiftLeft (register : BitVec 16) :
    ofRegister (register <<< 1) =
      ofRegister register * X + C (coefficient register.msb) * X ^ 16 := by
  ext power
  rw [coeff_add, coeff_C_mul, coeff_X_pow, coeff_ofRegister, BitVec.getLsbD_shiftLeft]
  cases power with
  | zero => simp
  | succ power =>
      rw [coeff_mul_X, coeff_ofRegister]
      by_cases top : power = 15
      · subst top
        have cancels (bit : Bool) : coefficient bit + coefficient bit * 1 = 0 := by
          cases bit <;> decide
        simpa [BitVec.msb_eq_getLsbD_last] using (cancels _).symm
      · have below : ¬power + 1 = 16 := by omega
        by_cases low : power + 1 < 16
        · simp [below, low]
        · simp [below, low, BitVec.getLsbD_of_ge register power (by omega)]

theorem ofRegister_reduction : ofRegister 0x1021 = X ^ 12 + X ^ 5 + 1 := by
  simp [ofRegister, Finset.sum_range_succ]
  ring

theorem ofRegister_crcShift (register : BitVec 16) :
    ofRegister (crcShift register) =
      ofRegister register * X + C (coefficient register.msb) * generator := by
  unfold crcShift
  cases falls : register.msb with
  | false => simp [ofRegister_shiftLeft, falls]
  | true =>
      rw [if_pos rfl, ofRegister_xor, ofRegister_shiftLeft, falls, ofRegister_reduction, generator]
      simp only [coefficient_true, map_one, one_mul]
      ring

noncomputable def residue : (ZMod 2)[X] →+* AdjoinRoot generator :=
  AdjoinRoot.mk generator

theorem residue_generator : residue generator = 0 :=
  AdjoinRoot.mk_self

theorem residue_crcShift (register : BitVec 16) :
    residue (ofRegister (crcShift register)) = residue (ofRegister register * X) := by
  rw [ofRegister_crcShift, map_add, map_mul residue (C _), residue_generator, mul_zero, add_zero]

theorem residue_crcShifts (count : Nat) (register : BitVec 16) :
    residue (ofRegister (crcShifts count register)) =
      residue (ofRegister register * X ^ count) := by
  induction count generalizing register with
  | zero => rw [crcShifts, pow_zero, mul_one]
  | succ count induction =>
      calc
        residue (ofRegister (crcShifts (count + 1) register))
          = residue (ofRegister (crcShift register)) * residue (X ^ count) := by
              rw [crcShifts, induction, map_mul]
        _ = residue (ofRegister register * X ^ (count + 1)) := by
              rw [residue_crcShift, ← map_mul, pow_succ', mul_assoc]

theorem residue_crcByte (register : BitVec 16) (byte : UInt8) :
    residue (ofRegister (crcByte register byte)) =
      residue (ofRegister register * X ^ 8 + ofBits (byteBits byte) * X ^ 16) := by
  rw [crcByte, residue_crcShifts, ofRegister_xor, ofRegister_byte]
  refine congrArg residue ?_
  ring

theorem residue_foldl_crcByte (register : BitVec 16) (payload : Bytes) :
    residue (ofRegister (payload.foldl crcByte register)) =
      residue (ofRegister register * X ^ (8 * payload.length) +
        ofBits (bits payload) * X ^ 16) := by
  induction payload generalizing register with
  | nil =>
      refine congrArg residue ?_
      simp [bits, ofBits]
  | cons byte rest induction =>
      rw [List.foldl_cons, induction, map_add, map_mul, residue_crcByte, ← map_mul, ← map_add]
      refine congrArg residue ?_
      rw [bits_cons, ofBits_append, length_bits, List.length_cons]
      ring

theorem ofRegister_crcOf (payload : Bytes) :
    ofRegister (crcOf payload) =
      (ofBits (bits payload) * X ^ 16 + ofRegister 0xffff * X ^ (8 * payload.length)) %ₘ
        generator := by
  have small : (ofRegister (crcOf payload)).degree < generator.degree := by
    rw [degree_generator]
    exact degree_ofRegister_lt _
  have divides := AdjoinRoot.mk_eq_mk.mp (residue_foldl_crcByte 0xffff payload)
  rw [add_comm (ofBits _ * _), ← modByMonic_eq_of_dvd_sub monic_generator divides]
  exact ((modByMonic_eq_self_iff monic_generator).mpr small).symm

end Gatehouse.Check
