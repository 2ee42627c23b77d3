import Gatehouse.Frame.Codec
import Gatehouse.Proofs.Frame.Segments

/-!
# Printable texts in frames

A printable text travels as one byte for each of its characters, and these bytes spell it again
(`bytesText_textBytes`). The digits of a check are printable too, so between the two markers of a
frame there is no other. A message with printable fields has a printable text.
-/

namespace Gatehouse

namespace Text

/-- Characters that the basic alphabet prints. -/
def IsPrintable (characters : List Char) : Prop :=
  ∀ character ∈ characters, 0x20 ≤ character.toNat ∧ character.toNat < 0x7f

-- Looked at one by one: the characters themselves are far too many to be searched.
instance (characters : List Char) : Decidable (IsPrintable characters) :=
  decidable_of_iff
    (characters.all fun character => 0x20 ≤ character.toNat && character.toNat < 0x7f)
    (by simp [IsPrintable])

theorem isPrintable_append {front back : List Char} :
    IsPrintable (front ++ back) ↔ IsPrintable front ∧ IsPrintable back := by
  simp only [IsPrintable, List.mem_append, or_imp, forall_and]
  tauto

theorem isPrintable_cons {first : Char} {rest : List Char} :
    IsPrintable (first :: rest) ↔
      (0x20 ≤ first.toNat ∧ first.toNat < 0x7f) ∧ IsPrintable rest := by
  simp [IsPrintable]

theorem utf8ByteSize_of_printable {text : String} (printable : IsPrintable text.toList) :
    text.utf8ByteSize = text.length := by
  have sizes (characters : List Char) (printable : IsPrintable characters) :
      (String.ofList characters).utf8ByteSize = characters.length := by
    induction characters with
    | nil => simp
    | cons first rest induction =>
        rcases isPrintable_cons.mp printable with ⟨⟨_, small⟩, later⟩
        have one : first.utf8Size = 1 := by
          apply Char.utf8Size_eq_one_iff.mpr
          apply UInt32.le_iff_toNat_le.mpr
          change first.toNat ≤ 127
          omega
        rw [String.ofList_cons, String.utf8ByteSize_append, String.utf8ByteSize_singleton, one,
          induction later, List.length_cons, Nat.add_comm]
  simpa [String.length_toList] using sizes text.toList printable

end Text

theorem Device.isPrintable_digits (device : Device) : Text.IsPrintable device.digits := by
  have every : ∀ number : Fin 100, Text.IsPrintable
      [Nat.digitChar (number.val / 10), Nat.digitChar (number.val % 10)] := by
    decide +kernel
  exact every ⟨device.number, Nat.lt_succ_of_le device.inRange.2⟩

theorem Command.isPrintable_code (command : Command) : Text.IsPrintable command.code.toList := by
  cases command <;> decide

theorem Message.isPrintable_characters {message : Message}
    (fields : ∀ field ∈ message.fields, Text.IsPrintable field.toList) :
    Text.IsPrintable message.characters := by
  have header : Text.IsPrintable ('+' :: protocolMark) := by decide
  have bracket : Text.IsPrintable [']'] := by decide
  have separated : Text.IsPrintable (message.fields.flatMap fun field => ']' :: field.toList) := by
    intro character member
    rcases List.mem_flatMap.mp member with ⟨field, present, inside⟩
    rcases List.mem_cons.mp inside with rfl | inside
    · decide
    · exact fields field present character inside
  have tail : Text.IsPrintable (if message.fields.isEmpty then []
      else message.fields.flatMap (fun field => ']' :: field.toList) ++ [']']) := by
    split
    · simp [Text.IsPrintable]
    · exact Text.isPrintable_append.mpr ⟨separated, bracket⟩
  rw [characters, List.append_assoc, List.append_assoc]
  simp only [Text.isPrintable_append]
  exact ⟨message.device.isPrintable_digits, header, message.command.isPrintable_code, tail⟩

namespace Frame

open Text (IsPrintable)

theorem encodeUnits_of_basic {text : String}
    (basic : ∀ character ∈ text.toList, character.toNat < 0x10000) :
    Text.encodeUnits text = text.toList.map Char.toNat := by
  rw [Text.encodeUnits]
  generalize text.toList = characters at basic
  induction characters with
  | nil => rfl
  | cons first rest induction =>
      have one : first.toNat < 0x10000 := basic first List.mem_cons_self
      have later := induction fun other member => basic other (List.mem_cons_of_mem first member)
      simp [Text.encodeChar, one, later]

theorem encodeUnits_of_printable {text : String} (printable : IsPrintable text.toList) :
    Text.encodeUnits text = text.toList.map Char.toNat := by
  apply encodeUnits_of_basic
  intro character member
  have small := printable character member
  omega

theorem textBytes_of_printable {text : String} (printable : IsPrintable text.toList) :
    textBytes text = text.toList.map fun character => UInt8.ofNat character.toNat := by
  rw [textBytes, encodeUnits_of_printable printable, List.map_map]
  apply List.map_congr_left
  intro character member
  have small := printable character member
  have unit : character.toNat % 256 = character.toNat := by omega
  simp [unit]

theorem isPrintable_ofNat {code : Nat} (low : 0x20 ≤ code) (high : code < 0x7f) :
    isPrintable (UInt8.ofNat code) = true := by
  have every : ∀ code : Fin 0x7f, 0x20 ≤ code.val → isPrintable (UInt8.ofNat code.val) = true := by
    decide +kernel
  exact every ⟨code, high⟩ low

theorem all_textBytes {text : String} (printable : IsPrintable text.toList) :
    (textBytes text).all isPrintable = true := by
  rw [textBytes_of_printable printable]
  simp only [List.all_map, List.all_eq_true]
  intro character member
  exact isPrintable_ofNat (printable character member).1 (printable character member).2

theorem length_textBytes {text : String} (printable : IsPrintable text.toList) :
    (textBytes text).length = text.toList.length := by
  rw [textBytes_of_printable printable, List.length_map]

theorem textBytes_digits (device : Device) :
    (textBytes (String.ofList device.digits)).all isPrintable = true ∧
      (textBytes (String.ofList device.digits)).length = 2 := by
  have printable : IsPrintable (String.ofList device.digits).toList := by
    rw [String.toList_ofList]
    exact device.isPrintable_digits
  refine ⟨all_textBytes printable, ?_⟩
  rw [length_textBytes printable, String.toList_ofList]
  rfl

theorem bytesText_textBytes {text : String} (printable : IsPrintable text.toList) :
    bytesText (textBytes text) = text := by
  have spelled : (text.toList.map fun character => UInt8.ofNat character.toNat).map
      (fun byte => Char.ofNat byte.toNat) = text.toList := by
    rw [List.map_map]
    refine (List.map_congr_left fun character member => ?_).trans (List.map_id text.toList)
    have small := printable character member
    have byte : (UInt8.ofNat character.toNat).toNat = character.toNat := by
      rw [UInt8.toNat_ofNat', Nat.mod_eq_of_lt (by omega)]
    show Char.ofNat (UInt8.ofNat character.toNat).toNat = character
    rw [byte, Char.ofNat_toNat]
  rw [bytesText, textBytes_of_printable printable, spelled, String.ofList_toList]

theorem isMarker_of_printable {byte : UInt8} (printable : isPrintable byte = true) :
    isMarker byte = false := by
  apply isMarker_eq_false_iff.mpr
  constructor
  · rintro rfl
    simp [isPrintable, startByte] at printable
  · rintro rfl
    simp [isPrintable, endByte] at printable

theorem isUnmarked_of_printable {bytes : Bytes} (printable : bytes.all isPrintable = true) :
    IsUnmarked bytes := by
  intro byte member
  exact isMarker_of_printable (List.all_eq_true.mp printable byte member)

theorem isPrintable_hexDigit {value : Nat} (small : value < 16) :
    isPrintable (Check.hexDigit value) = true := by
  have every : ∀ value : Fin 16, isPrintable (Check.hexDigit value.val) = true := by decide
  exact every ⟨value, small⟩

theorem all_hexDigits (width value : Nat) :
    (Check.hexDigits width value).all isPrintable = true := by
  induction width generalizing value with
  | zero => rfl
  | succ width induction =>
      have last := isPrintable_hexDigit (Nat.mod_lt value (by decide : 0 < 16))
      simp [Check.hexDigits, induction, last]

end Frame

end Gatehouse
