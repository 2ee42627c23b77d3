import Gatehouse.Check

/-!
# Texts in bytes

A character is written in one to four bytes: the first says how many follow, and each of those is
within bounds that exclude spellings that are too long, surrogates, and codes that are too large.

Bytes are read one after another. Where a character is not continued as it must be, it counts as
unreadable, and the byte that breaks it off is read anew; a byte that begins no character counts as
unreadable too. What is written is read back (`decode_encode`).
-/

namespace Gatehouse.Text.Utf8

def encode (text : String) : Bytes :=
  text.toList.flatMap String.utf8EncodeChar

def unreadable : Char := '\ufffd'

/-- A character that has begun: its code so far, how many bytes are to come behind the next one, and
the bounds of the next one. -/
structure Begun where
  code : Nat
  left : Nat
  low : Nat
  high : Nat
  deriving DecidableEq

def begun? (byte : Nat) : Option Begun :=
  if byte < 0xc2 then none
  else if byte < 0xe0 then some ⟨byte - 0xc0, 0, 0x80, 0xbf⟩
  else if byte < 0xf0 then
    some {
      code := byte - 0xe0, left := 1
      low := if byte = 0xe0 then 0xa0 else 0x80, high := if byte = 0xed then 0x9f else 0xbf }
  else if byte < 0xf5 then
    some {
      code := byte - 0xf0, left := 2
      low := if byte = 0xf0 then 0x90 else 0x80, high := if byte = 0xf4 then 0x8f else 0xbf }
  else none

def begin (byte : Nat) : List Char × Option Begun :=
  if byte < 0x80 then ([Char.ofNat byte], none)
  else
    match begun? byte with
    | none => ([unreadable], none)
    | some begun => ([], some begun)

def Begun.follow (begun : Begun) (byte : Nat) : List Char × Option Begun :=
  let code := begun.code * 64 + (byte - 0x80)
  match begun.left with
  | 0 => ([Char.ofNat code], none)
  | left + 1 => ([], some ⟨code, left, 0x80, 0xbf⟩)

def step (held? : Option Begun) (byte : Nat) : List Char × Option Begun :=
  match held? with
  | none => begin byte
  | some begun =>
      if begun.low ≤ byte && byte ≤ begun.high then begun.follow byte
      else
        let (characters, next?) := begin byte
        (unreadable :: characters, next?)

def decodeFrom (held? : Option Begun) : Bytes → List Char
  | [] => held?.toList.map fun _ => unreadable
  | byte :: rest => (step held? byte.toNat).1 ++ decodeFrom (step held? byte.toNat).2 rest

def decode : Bytes → List Char :=
  decodeFrom none

section

variable {byte : Nat} (small : byte < 256) (rest : Bytes)

include small

theorem toNat_ofNat : (UInt8.ofNat byte).toNat = byte :=
  UInt8.toNat_ofNat_of_lt' small

theorem decodeFrom_begun {begun : Begun} (begins : begun? byte = some begun) :
    decodeFrom none (UInt8.ofNat byte :: rest) = decodeFrom (some begun) rest := by
  have several : ¬byte < 0x80 := by
    intro single
    have nothing : begun? byte = none := if_pos (by omega)
    cases nothing.symm.trans begins
  simp [decodeFrom, step, begin, toNat_ofNat small, begins, several]

theorem decodeFrom_follow {begun : Begun} (least : begun.low ≤ byte) (most : byte ≤ begun.high) :
    decodeFrom (some begun) (UInt8.ofNat byte :: rest) =
      (begun.follow byte).1 ++ decodeFrom (begun.follow byte).2 rest := by
  simp [decodeFrom, step, toNat_ofNat small, least, most]

end

section

variable {code low high : Nat} (part : Nat) (least : low ≤ part % 64 + 0x80)
  (most : part % 64 + 0x80 ≤ high) (whole : code * 64 + part % 64 = part) (rest : Bytes)

include least most whole

theorem decodeFrom_more (left : Nat) :
    decodeFrom (some ⟨code, left + 1, low, high⟩) (UInt8.ofNat (part % 64 + 0x80) :: rest) =
      decodeFrom (some ⟨part, left, 0x80, 0xbf⟩) rest := by
  rw [decodeFrom_follow (by omega) rest least most]
  simp [Begun.follow, whole]

theorem decodeFrom_last :
    decodeFrom (some ⟨code, 0, low, high⟩) (UInt8.ofNat (part % 64 + 0x80) :: rest) =
      Char.ofNat part :: decodeFrom none rest := by
  rw [decodeFrom_follow (by omega) rest least most]
  simp [Begun.follow, whole]

end

section

variable {code : Nat}

theorem begun?_two (least : 0x7f < code) (most : code ≤ 0x7ff) :
    begun? (code / 64 % 32 + 192) = some ⟨code / 64, 0, 0x80, 0xbf⟩ := by
  have front : code / 64 % 32 + 192 - 0xc0 = code / 64 := by omega
  unfold begun?
  rw [if_neg (by omega), if_pos (by omega), front]

theorem begun?_three (least : 0x7ff < code) (most : code ≤ 0xffff)
    (valid : code < 0xd800 ∨ 0xdfff < code) :
    ∃ low high, begun? (code / 4096 % 16 + 224) = some ⟨code / 4096, 1, low, high⟩ ∧
      low ≤ code / 64 % 64 + 0x80 ∧ code / 64 % 64 + 0x80 ≤ high := by
  have front : code / 4096 % 16 + 224 - 0xe0 = code / 4096 := by omega
  unfold begun?
  rw [if_neg (by omega), if_neg (by omega), if_pos (by omega), front]
  refine ⟨_, _, rfl, ?_, ?_⟩ <;> split <;> omega

theorem begun?_four (least : 0xffff < code) (most : code < 0x110000) :
    ∃ low high, begun? (code / 262144 % 8 + 240) = some ⟨code / 262144, 2, low, high⟩ ∧
      low ≤ code / 4096 % 64 + 0x80 ∧ code / 4096 % 64 + 0x80 ≤ high := by
  have front : code / 262144 % 8 + 240 - 0xf0 = code / 262144 := by omega
  unfold begun?
  rw [if_neg (by omega), if_neg (by omega), if_neg (by omega), if_pos (by omega), front]
  refine ⟨_, _, rfl, ?_, ?_⟩ <;> split <;> omega

end

theorem decodeFrom_encodeChar (character : Char) (rest : Bytes) :
    decodeFrom none (String.utf8EncodeChar character ++ rest) =
      character :: decodeFrom none rest := by
  have valid : character.toNat < 0xd800 ∨ 0xdfff < character.toNat ∧ character.toNat < 0x110000 :=
    character.valid
  have same : Char.ofNat character.toNat = character := Char.ofNat_toNat character
  rw [String.utf8EncodeChar.eq_1, show character.val.toNat = character.toNat from rfl]
  generalize character.toNat = code at valid same
  by_cases one : code ≤ 0x7f
  · have small : code < 256 := by omega
    have single : code < 0x80 := by omega
    rw [if_pos one]
    simp [decodeFrom, step, begin, toNat_ofNat small, same, single]
  by_cases two : code ≤ 0x7ff
  · have begins := begun?_two (Nat.not_le.mp one) two
    rw [if_neg one, if_pos two]
    simp only [List.cons_append, List.nil_append]
    rw [decodeFrom_begun (by omega) _ begins,
      decodeFrom_last code (by omega) (by omega) (by omega), same]
  by_cases three : code ≤ 0xffff
  · rcases begun?_three (Nat.not_le.mp two) three (by omega) with ⟨low, high, begins, least, most⟩
    rw [if_neg one, if_neg two, if_pos three]
    simp only [List.cons_append, List.nil_append]
    rw [decodeFrom_begun (by omega) _ begins, decodeFrom_more _ least most (by omega),
      decodeFrom_last code (by omega) (by omega) (by omega), same]
  · rcases begun?_four (Nat.not_le.mp three) (by omega) with ⟨low, high, begins, least, most⟩
    rw [if_neg one, if_neg two, if_neg three]
    simp only [List.cons_append, List.nil_append]
    rw [decodeFrom_begun (by omega) _ begins, decodeFrom_more _ least most (by omega),
      decodeFrom_more _ (by omega) (by omega) (by omega),
      decodeFrom_last code (by omega) (by omega) (by omega), same]

theorem decode_encode (text : String) : decode (encode text) = text.toList := by
  unfold decode encode
  induction text.toList with
  | nil => rfl
  | cons first later induction =>
      rw [List.flatMap_cons, decodeFrom_encodeChar, induction]

example : decode [0x61, 0xe2, 0x82, 0x62, 0xff] = "a\ufffdb\ufffd".toList := by decide +kernel

end Gatehouse.Text.Utf8
