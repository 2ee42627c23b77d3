import Gatehouse.Check
import Mathlib.Algebra.Group.Nat.Defs
import Mathlib.Logic.Function.Basic

/-!
# What a check finds

Each bit of the polynomial division is linear in the register (`crcShift_xor`) and loses nothing
of it (`crcShift_eq_zero`). So a byte can be taken in only from one register to get to another,
and only one byte leads from the one to the other: `crcByte_injective` and `crcByte_inj`.

The digits of a check spell its value (`digits_inj`). A check takes the bytes in one after another,
and each byte of the rest can be taken back, so the digits of a payload in which one byte was
replaced are others: `digits_replaced`. A first byte that is not zero cannot be left away
unnoticed: `digits_cons_ne`.
-/

namespace Gatehouse.Check

open Function

theorem xor_cancel_right (left right shared : BitVec 16) :
    (left ^^^ shared) ^^^ (right ^^^ shared) = left ^^^ right := by
  rw [BitVec.xor_assoc, BitVec.xor_comm right, ← BitVec.xor_assoc shared, BitVec.xor_self,
    BitVec.zero_xor]

theorem crcShift_xor (left right : BitVec 16) :
    crcShift (left ^^^ right) = crcShift left ^^^ crcShift right := by
  unfold crcShift
  rw [BitVec.msb_xor, BitVec.shiftLeft_xor_distrib]
  cases left.msb <;> cases right.msb <;>
    simp only [bne_self_eq_false, Bool.false_bne, Bool.bne_false, if_true, if_false,
      Bool.false_eq_true]
  · ac_rfl
  · ac_rfl
  · exact (xor_cancel_right _ _ _).symm

/-- The generator is odd, so a register from which a bit falls out does not vanish. -/
theorem crcShift_eq_zero {register : BitVec 16} (shifted : crcShift register = 0) :
    register = 0 := by
  unfold crcShift at shifted
  split at shifted
  · next falls =>
      have lowest := congrArg (fun bits : BitVec 16 => bits.getLsbD 0) shifted
      simp at lowest
  · next stays =>
      have doubled : register.toNat * 2 % 2 ^ 16 = 0 := by
        simpa [BitVec.toNat_shiftLeft, Nat.shiftLeft_eq] using congrArg BitVec.toNat shifted
      have small : register.toNat < 2 ^ 15 := by
        simpa [BitVec.msb_eq_decide] using stays
      have zero : register.toNat = 0 := by omega
      exact BitVec.eq_of_toNat_eq zero

theorem crcShifts_xor (count : Nat) (left right : BitVec 16) :
    crcShifts count (left ^^^ right) = crcShifts count left ^^^ crcShifts count right := by
  induction count generalizing left right with
  | zero => rfl
  | succ count induction => rw [crcShifts, crcShifts, crcShifts, crcShift_xor, induction]

theorem crcShifts_eq_zero {count : Nat} {register : BitVec 16}
    (shifted : crcShifts count register = 0) : register = 0 := by
  induction count generalizing register with
  | zero => exact shifted
  | succ count induction => exact crcShift_eq_zero (induction shifted)

theorem crcShifts_injective (count : Nat) : Injective (crcShifts count) := by
  intro left right same
  have difference : crcShifts count (left ^^^ right) = 0 := by
    rw [crcShifts_xor, same, BitVec.xor_self]
    rfl
  exact BitVec.xor_eq_zero_iff.mp (crcShifts_eq_zero difference)

theorem crcByte_injective (byte : UInt8) : Injective (crcByte · byte) := by
  intro left right same
  exact (BitVec.xor_left_inj _).mp (crcShifts_injective 8 same)

theorem crcByte_inj {register : BitVec 16} {left right : UInt8} :
    crcByte register left = crcByte register right ↔ left = right := by
  constructor
  · intro same
    have high := (BitVec.xor_right_inj _).mp (crcShifts_injective 8 same)
    have shifted := congrArg BitVec.toNat high
    have small := left.toNat_lt
    have alsoSmall := right.toNat_lt
    simp only [BitVec.toNat_shiftLeft, BitVec.toNat_setWidth, UInt8.toNat_toBitVec,
      Nat.shiftLeft_eq] at shifted
    exact UInt8.toNat_inj.mp (by omega)
  · rintro rfl
    rfl

theorem hexDigit_inj {left right : Nat} (small : left < 16) (alsoSmall : right < 16) :
    hexDigit left = hexDigit right ↔ left = right := by
  have every : ∀ left right : Fin 16, hexDigit left.val = hexDigit right.val → left = right := by
    decide +kernel
  constructor
  · intro same
    exact congrArg Fin.val (every ⟨left, small⟩ ⟨right, alsoSmall⟩ same)
  · rintro rfl
    rfl

theorem hexDigits_inj {width left right : Nat} (small : left < 16 ^ width)
    (alsoSmall : right < 16 ^ width) :
    hexDigits width left = hexDigits width right ↔ left = right := by
  induction width generalizing left right with
  | zero =>
      simp only [Nat.pow_zero, Nat.lt_one_iff] at small alsoSmall
      simp [small, alsoSmall]
  | succ width induction =>
      have higher : left / 16 < 16 ^ width := by omega
      have alsoHigher : right / 16 < 16 ^ width := by omega
      have lowest := hexDigit_inj (Nat.mod_lt left (by decide)) (Nat.mod_lt right (by decide))
      rw [hexDigits, hexDigits, List.append_singleton_inj, induction higher alsoHigher, lowest]
      omega

theorem value_lt (check : Check) (payload : Bytes) :
    check.value payload < 16 ^ check.width := by
  cases check with
  | xor8 => exact (xorOf payload).toNat_lt
  | sum8 => exact (sumOf payload).toNat_lt
  | crc16 => exact (crcOf payload).isLt

theorem digits_inj {check : Check} {left right : Bytes} :
    check.digits left = check.digits right ↔ check.value left = check.value right :=
  hexDigits_inj (check.value_lt left) (check.value_lt right)

theorem foldl_injective {State Item : Type} {step : State → Item → State}
    (injective : ∀ item, Injective (step · item)) (items : List Item) :
    Injective (items.foldl step) := by
  induction items with
  | nil => exact injective_id
  | cons item rest induction => exact induction.comp (injective item)

theorem foldl_replaced {State Item : Type} {step : State → Item → State}
    (injective : ∀ item, Injective (step · item)) (shows : ∀ state, Injective (step state))
    (start : State) (front back : List Item) (left right : Item) :
    (front ++ left :: back).foldl step start = (front ++ right :: back).foldl step start ↔
      left = right := by
  simp only [List.foldl_append, List.foldl_cons]
  rw [(foldl_injective injective back).eq_iff, (shows _).eq_iff]

theorem value_replaced (check : Check) (front back : Bytes) (left right : UInt8) :
    check.value (front ++ left :: back) = check.value (front ++ right :: back) ↔ left = right := by
  cases check with
  | xor8 =>
      rw [value, value, UInt8.toNat_inj]
      exact foldl_replaced (fun byte _ _ => (UInt8.xor_left_inj byte).mp)
        (fun sum _ _ => (UInt8.xor_right_inj sum).mp) 0 front back left right
  | sum8 =>
      rw [value, value, UInt8.toNat_inj]
      exact foldl_replaced (fun byte _ _ => (UInt8.add_left_inj byte).mp)
        (fun sum _ _ => (UInt8.add_right_inj sum).mp) 0 front back left right
  | crc16 =>
      rw [value, value, BitVec.toNat_inj]
      exact foldl_replaced crcByte_injective (fun _ _ _ => crcByte_inj.mp) 0xffff front back left
        right

theorem digits_replaced (check : Check) (front back : Bytes) (left right : UInt8) :
    check.digits (front ++ left :: back) = check.digits (front ++ right :: back) ↔
      left = right := by
  rw [digits_inj, value_replaced]

theorem crcByte_start (byte : UInt8) : crcByte 0xffff byte ≠ 0xffff := by
  have every : ∀ code : Fin 256, crcByte 0xffff (UInt8.ofNat code.val) ≠ 0xffff := by
    decide +kernel
  have named := every ⟨byte.toNat, byte.toNat_lt⟩
  rwa [UInt8.ofNat_toNat] at named

/-- A payload has other digits than what follows its first byte, unless that byte is zero. -/
theorem digits_cons_ne (check : Check) {first : UInt8} (some_bit : first ≠ 0) (rest : Bytes) :
    check.digits (first :: rest) ≠ check.digits rest := by
  rw [Ne, digits_inj]
  cases check with
  | xor8 =>
      rw [value, value, UInt8.toNat_inj]
      intro same
      have start := foldl_injective (fun byte _ _ => (UInt8.xor_left_inj byte).mp) rest same
      exact some_bit (by simpa using start)
  | sum8 =>
      rw [value, value, UInt8.toNat_inj]
      intro same
      have start := foldl_injective (fun byte _ _ => (UInt8.add_left_inj byte).mp) rest same
      exact some_bit (by simpa using start)
  | crc16 =>
      rw [value, value, BitVec.toNat_inj]
      intro same
      exact crcByte_start first (foldl_injective crcByte_injective rest same)

end Gatehouse.Check
