import Gatehouse.Proofs.Check.Remainder
import Gatehouse.Proofs.Check.Replaced

/-!
# Bursts of changed bits

Two payloads of one length whose bits differ only within sixteen places in a row differ by a power
of `X` times a polynomial of degree less than sixteen (`eq_of_differInBurst`). The generator shares
no factor with `X`, so it divides that difference only where there is none: `crc16_detects_bursts`.
-/

namespace Gatehouse.Check

open Polynomial

/-- The bits of two payloads differ only within sixteen places in a row. -/
def DifferInBurst (left right : Bytes) : Prop :=
  ∃ start, ∀ place, (bits left)[place]? ≠ (bits right)[place]? →
    start ≤ place ∧ place < start + 16

def digitValue? (digit : UInt8) : Option Nat :=
  if 0x30 ≤ digit ∧ digit ≤ 0x39 then some (digit.toNat - 0x30)
  else if 0x41 ≤ digit ∧ digit ≤ 0x46 then some (digit.toNat - 0x41 + 10)
  else none

/-- The number that upper-case hexadecimal digits spell. -/
def spelled? (digits : Bytes) : Option Nat :=
  digits.foldlM (fun number digit => (digitValue? digit).map (number * 16 + ·)) 0

theorem digitValue?_hexDigit {value : Nat} (small : value < 16) :
    digitValue? (hexDigit value) = some value := by
  have every : ∀ value : Fin 16, digitValue? (hexDigit value.val) = some value.val := by
    decide +kernel
  exact every ⟨value, small⟩

theorem spelled?_hexDigits (width value : Nat) :
    spelled? (hexDigits width value) = some (value % 16 ^ width) := by
  induction width generalizing value with
  | zero => simp [spelled?, hexDigits, Nat.mod_one]
  | succ width induction =>
      have lowest := digitValue?_hexDigit (Nat.mod_lt value (by decide : 16 > 0))
      have higher := induction (value / 16)
      unfold spelled? at higher ⊢
      rw [hexDigits, List.foldlM_append, higher]
      have joined : value / 16 % 16 ^ width * 16 + value % 16 = value % 16 ^ (width + 1) := by
        rw [pow_succ', Nat.mod_mul]
        ring
      simp [lowest, joined]

theorem coeff_ofBits {bits : List Bool} {place : Nat} (inside : place < bits.length) :
    (ofBits bits).coeff (bits.length - 1 - place) = coefficient bits[place] := by
  induction bits generalizing place with
  | nil => exact absurd inside (Nat.not_lt_zero place)
  | cons bit rest induction =>
      rw [ofBits, coeff_add, coeff_C_mul, coeff_X_pow, List.length_cons, Nat.add_sub_cancel]
      cases place with
      | zero =>
          have above : (ofBits rest).coeff rest.length = 0 :=
            coeff_eq_zero_of_degree_lt (degree_ofBits_lt rest)
          simp [above]
      | succ place =>
          have inRest : place < rest.length := Nat.lt_of_succ_lt_succ inside
          have below : ¬rest.length - (place + 1) = rest.length := by omega
          have shifted : rest.length - (place + 1) = rest.length - 1 - place := by omega
          rw [if_neg below, mul_zero, zero_add, shifted, induction inRest, List.getElem_cons_succ]

theorem coeff_ofBits_of_le {bits : List Bool} {power : Nat} (high : bits.length ≤ power) :
    (ofBits bits).coeff power = 0 :=
  coeff_eq_zero_of_degree_lt ((degree_ofBits_lt bits).trans_le (by exact_mod_cast high))

theorem coeff_sub_ofBits {left right : List Bool} {power : Nat}
    (sameLength : left.length = right.length)
    (alike : power < left.length →
      left[left.length - 1 - power]? = right[left.length - 1 - power]?) :
    (ofBits left - ofBits right).coeff power = 0 := by
  rw [coeff_sub, sub_eq_zero]
  rcases Nat.lt_or_ge power left.length with inside | high
  · have within : left.length - 1 - power < left.length := by omega
    have alsoWithin : left.length - 1 - power < right.length := by omega
    have back : left.length - 1 - (left.length - 1 - power) = power := by omega
    have alsoBack : right.length - 1 - (left.length - 1 - power) = power := by omega
    have spells := coeff_ofBits within
    have alsoSpells := coeff_ofBits alsoWithin
    rw [back] at spells
    rw [alsoBack] at alsoSpells
    have same := alike inside
    rw [List.getElem?_eq_getElem within, List.getElem?_eq_getElem alsoWithin] at same
    rw [spells, alsoSpells, Option.some.inj same]
  · rw [coeff_ofBits_of_le high, coeff_ofBits_of_le (sameLength ▸ high)]

theorem ofBits_injective {left right : List Bool} (sameLength : left.length = right.length)
    (same : ofBits left = ofBits right) : left = right := by
  refine List.ext_getElem sameLength fun place inside alsoInside => ?_
  have spells := coeff_ofBits inside
  rw [same, sameLength, coeff_ofBits alsoInside] at spells
  revert spells
  cases left[place] <;> cases right[place] <;> decide

theorem byteBits_injective : Function.Injective byteBits := by
  intro left right same
  refine UInt8.toBitVec_inj.mp (BitVec.eq_of_getMsbD_eq fun place inside => ?_)
  exact List.map_inj_left.mp same place (List.mem_range.mpr inside)

theorem bits_injective : Function.Injective bits := by
  intro left
  induction left with
  | nil =>
      intro right same
      have sameLength := congrArg List.length same
      rw [length_bits, length_bits, List.length_nil] at sameLength
      exact (List.length_eq_zero_iff.mp (by omega)).symm
  | cons byte rest induction =>
      intro right same
      cases right with
      | nil => simpa using congrArg List.length same
      | cons other back =>
          rw [bits_cons, bits_cons] at same
          obtain ⟨sameByte, sameRest⟩ := List.append_inj same (by simp)
          rw [byteBits_injective sameByte, induction sameRest]

theorem isCoprime_generator_X_pow (count : Nat) : IsCoprime generator (X ^ count) := by
  refine IsCoprime.pow_right ⟨1, -(X ^ 15 + X ^ 11 + X ^ 4), ?_⟩
  unfold generator
  ring

/-- What the generator divides has its terms farther apart than sixteen places. -/
theorem eq_zero_of_generator_dvd {difference : (ZMod 2)[X]} (low : Nat)
    (divides : generator ∣ difference)
    (window : ∀ power, difference.coeff power ≠ 0 → low ≤ power ∧ power < low + 16) :
    difference = 0 := by
  have shifted : X ^ low ∣ difference := by
    refine X_pow_dvd_iff.mpr fun power below => ?_
    by_contra present
    exact absurd (window power present).1 (not_le.mpr below)
  obtain ⟨middle, rfl⟩ := shifted
  have dividesMiddle : generator ∣ middle :=
    (isCoprime_generator_X_pow low).dvd_of_dvd_mul_left divides
  have small : middle.degree < generator.degree := by
    rw [degree_generator]
    refine (degree_lt_iff_coeff_zero _ 16).mpr fun power high => ?_
    by_contra present
    rw [← coeff_X_pow_mul middle low power] at present
    have bounded := (window _ present).2
    omega
  rw [eq_zero_of_dvd_of_degree_lt dividesMiddle small, mul_zero]

/-- Two payloads of one length have the same register only if the generator divides their
difference. -/
theorem generator_dvd_of_crcOf_eq {left right : Bytes} (sameLength : left.length = right.length)
    (same : crcOf left = crcOf right) :
    generator ∣ ofBits (bits left) - ofBits (bits right) := by
  have residues := residue_foldl_crcByte 0xffff left
  have alsoResidues := residue_foldl_crcByte 0xffff right
  rw [← crcOf, same, crcOf, alsoResidues, sameLength] at residues
  have divides := AdjoinRoot.mk_eq_mk.mp residues.symm
  rw [add_sub_add_left_eq_sub, ← sub_mul] at divides
  exact (isCoprime_generator_X_pow 16).dvd_of_dvd_mul_right divides

theorem eq_of_differInBurst {left right : Bytes} (sameLength : left.length = right.length)
    (burst : DifferInBurst left right) (same : crcOf left = crcOf right) : left = right := by
  obtain ⟨start, window⟩ := burst
  have sameBits : (bits left).length = (bits right).length := by simp [sameLength]
  have divides := generator_dvd_of_crcOf_eq sameLength same
  -- counted from the other end, the window ends where the bits after it begin
  have vanishes := eq_zero_of_generator_dvd ((bits left).length - (start + 16)) divides
    fun power present => by
      have inside : power < (bits left).length ∧
          (bits left)[(bits left).length - 1 - power]? ≠
            (bits right)[(bits left).length - 1 - power]? := by
        by_contra outside
        push Not at outside
        exact present (coeff_sub_ofBits sameBits outside)
      have placed := window _ inside.2
      omega
  exact bits_injective (ofBits_injective sameBits (sub_eq_zero.mp vanishes))

/-- The digits spell the remainder of the payload, and no burst of changed bits leaves them. -/
theorem crc16_detects_bursts (payload : Bytes) :
    (∃ register : BitVec 16,
      (Check.crc16.digits payload).length = 4 ∧
      spelled? (Check.crc16.digits payload) = some register.toNat ∧
      ofRegister register =
        (ofBits (bits payload) * X ^ 16 + ofRegister 0xffff * X ^ (8 * payload.length)) %ₘ
          (X ^ 16 + X ^ 12 + X ^ 5 + 1)) ∧
    ∀ other : Bytes, other.length = payload.length → other ≠ payload →
      DifferInBurst payload other → Check.crc16.digits other ≠ Check.crc16.digits payload := by
  refine ⟨⟨crcOf payload, length_digits .crc16 payload, ?_, ofRegister_crcOf payload⟩, ?_⟩
  · rw [digits, spelled?_hexDigits, Nat.mod_eq_of_lt (value_lt .crc16 payload), value]
  · intro other sameLength different burst same
    have sameRegister := BitVec.eq_of_toNat_eq (digits_inj.mp same)
    exact different (eq_of_differInBurst sameLength.symm burst sameRegister.symm).symm

/-- Sixteen bits in a row, beginning and ending amid a byte. -/
theorem crc16_detects_burst_across_bytes :
    DifferInBurst [0, 0, 0] [0x0f, 0xff, 0xf0] ∧
      Check.crc16.digits [0x0f, 0xff, 0xf0] ≠ Check.crc16.digits [0, 0, 0] := by
  have burst : DifferInBurst [0, 0, 0] [0x0f, 0xff, 0xf0] := by
    have every : ∀ place : Fin 24,
        (bits [0, 0, 0])[place.val]? ≠ (bits [0x0f, 0xff, 0xf0])[place.val]? →
          4 ≤ place.val ∧ place.val < 4 + 16 := by
      decide
    refine ⟨4, fun place different => ?_⟩
    rcases Nat.lt_or_ge place 24 with inside | outside
    · exact every ⟨place, inside⟩ different
    · rw [List.getElem?_eq_none (by simpa using outside),
        List.getElem?_eq_none (by simpa using outside)] at different
      exact absurd rfl different
  exact ⟨burst, (crc16_detects_bursts [0, 0, 0]).2 [0x0f, 0xff, 0xf0] rfl (by decide) burst⟩

end Gatehouse.Check
