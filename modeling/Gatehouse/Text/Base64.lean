/-!
# Base 64

Bytes written with sixty-four letters: three bytes take four letters of six bits each, and a last
group that is not full is filled up with equals signs. Reading stops at the first character that is
no letter, and bits that fill no byte are dropped. Letters are read back as the bytes that they were
written for.
-/

namespace Gatehouse.Text.Base64

def letters : List Char :=
  "ABCDEFGHIJKLMNOPQRSTUVWXYZabcdefghijklmnopqrstuvwxyz0123456789+/".toList

def letter (value : Nat) : Char :=
  letters.getD (value % 64) '='

def value? (character : Char) : Option Nat :=
  letters.findIdx? (· == character)

def encode : List UInt8 → List Char
  | [] => []
  | [first] =>
      let bits := first.toNat * 16
      [letter (bits / 64), letter bits, '=', '=']
  | [first, second] =>
      let bits := (first.toNat * 256 + second.toNat) * 4
      [letter (bits / 4096), letter (bits / 64), letter bits, '=']
  | first :: second :: third :: rest =>
      let bits := (first.toNat * 256 + second.toNat) * 256 + third.toNat
      letter (bits / 262144) :: letter (bits / 4096) :: letter (bits / 64) :: letter bits ::
        encode rest

def join : List Nat → List UInt8
  | first :: second :: third :: fourth :: rest =>
      UInt8.ofNat (first * 4 + second / 16) :: UInt8.ofNat (second * 16 + third / 4) ::
        UInt8.ofNat (third * 64 + fourth) :: join rest
  | [first, second, third] =>
      [UInt8.ofNat (first * 4 + second / 16), UInt8.ofNat (second * 16 + third / 4)]
  | [first, second] => [UInt8.ofNat (first * 4 + second / 16)]
  | _ => []

def values : List Char → List Nat
  | [] => []
  | character :: rest =>
      match value? character with
      | some value => value :: values rest
      | none => []

def decode (text : List Char) : List UInt8 :=
  join (values text)

/-- Four letters stand for three bytes, also where the last group is filled up. -/
theorem length_encode (bytes : List UInt8) :
    (encode bytes).length = (bytes.length + 2) / 3 * 4 := by
  fun_induction encode bytes with
  | case4 first second third rest bits induction =>
      simp only [List.length_cons, induction]
      omega
  | _ => simp

theorem value?_letter (value : Nat) : value? (letter value) = some (value % 64) := by
  have all : ∀ bits : Fin 64, value? (letters.getD bits '=') = some bits.val := by decide +kernel
  exact all ⟨value % 64, Nat.mod_lt _ (by decide)⟩

@[simp] theorem values_letter (value : Nat) (rest : List Char) :
    values (letter value :: rest) = value % 64 :: values rest := by
  rw [values, value?_letter]

@[simp] theorem values_filler (rest : List Char) : values ('=' :: rest) = [] := by
  rw [values, show value? '=' = none by decide +kernel]

theorem ofNat_eq_of_mod_eq {value : Nat} (byte : UInt8) (same : value % 256 = byte.toNat) :
    UInt8.ofNat value = byte := by
  apply UInt8.toNat_inj.mp
  rw [UInt8.toNat_ofNat']
  exact same

theorem decode_encode (bytes : List UInt8) : decode (encode bytes) = bytes := by
  unfold decode
  fun_induction encode bytes with
  | case1 => rfl
  | case2 first bits =>
      have := first.toNat_lt
      rw [values_letter, values_letter, values_filler, join,
        ofNat_eq_of_mod_eq first (by omega)]
  | case3 first second bits =>
      have := first.toNat_lt
      have := second.toNat_lt
      rw [values_letter, values_letter, values_letter, values_filler, join,
        ofNat_eq_of_mod_eq first (by omega),
        ofNat_eq_of_mod_eq second (by omega)]
  | case4 first second third rest bits induction =>
      have := first.toNat_lt
      have := second.toNat_lt
      have := third.toNat_lt
      rw [values_letter, values_letter, values_letter, values_letter, join, induction,
        ofNat_eq_of_mod_eq first (by omega),
        ofNat_eq_of_mod_eq second (by omega),
        ofNat_eq_of_mod_eq third (by omega)]

example : encode [0x4d, 0x61] = "TWE=".toList := by decide +kernel
example : decode "TWFu".toList = [0x4d, 0x61, 0x6e] := by decide +kernel
example : decode "AEI-".toList = [0, 0x42] := by decide +kernel

end Gatehouse.Text.Base64
