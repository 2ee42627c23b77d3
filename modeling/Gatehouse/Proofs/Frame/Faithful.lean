import Gatehouse.Proofs.Frame.Corrupted
import Gatehouse.Proofs.Message.Drafts

/-!
# Texts that are sent as they are

Whether a text may be sent is asked of the low halves of its sixteen-bit units, for these are what
travels (`encode_eq_unprintable_iff`). So a frame arrives as the message it was made of just when
every character of the text is printable itself (`decode_encode_iff`). Below 256 a character is its
own low half, and then what is not printable is refused (`encode_faithful`). Of higher characters
some are not: one of them is sent as a bracket and cuts its field in two (`sent_as_bracket`).
-/

namespace Gatehouse

open Gatehouse.Frame

namespace Text

/-- The low halves of the units of a text are printable. -/
def HasPrintableHalves (text : String) : Prop :=
  ∀ unit ∈ encodeUnits text, 0x20 ≤ unit % 256 ∧ unit % 256 < 0x7f

/-- Characters that are their own low halves. -/
def IsLatin (characters : List Char) : Prop :=
  ∀ character ∈ characters, character.toNat < 0x100

instance (characters : List Char) : Decidable (IsLatin characters) :=
  decidable_of_iff (characters.all fun character => character.toNat < 0x100)
    (by simp [IsLatin])

theorem isPrintable_bytesText {bytes : Bytes} (printable : bytes.all isPrintable = true) :
    IsPrintable (bytesText bytes).toList := by
  have every : ∀ code : Fin 256, isPrintable (UInt8.ofNat code.val) = true →
      0x20 ≤ (Char.ofNat code.val).toNat ∧ (Char.ofNat code.val).toNat < 0x7f := by
    decide +kernel
  intro character member
  rw [bytesText, String.toList_ofList] at member
  rcases List.mem_map.mp member with ⟨byte, among, rfl⟩
  apply every ⟨byte.toNat, byte.toNat_lt⟩
  rw [UInt8.ofNat_toNat]
  exact List.all_eq_true.mp printable byte among

theorem all_textBytes_iff {text : String} :
    (textBytes text).all isPrintable = true ↔ HasPrintableHalves text := by
  have every : ∀ code : Fin 256,
      isPrintable (UInt8.ofNat code.val) = true ↔ 0x20 ≤ code.val ∧ code.val < 0x7f := by
    decide +kernel
  have half (unit : Nat) : isPrintable (UInt8.ofNat (unit % 256)) = true ↔
      0x20 ≤ unit % 256 ∧ unit % 256 < 0x7f :=
    every ⟨unit % 256, Nat.mod_lt unit (by decide)⟩
  rw [HasPrintableHalves, textBytes, List.all_map, List.all_eq_true]
  exact forall₂_congr fun unit _ => half unit

theorem hasPrintableHalves_iff_of_latin {text : String} (latin : IsLatin text.toList) :
    HasPrintableHalves text ↔ IsPrintable text.toList := by
  have basic : ∀ character ∈ text.toList, character.toNat < 0x10000 := by
    intro character member
    have small := latin character member
    omega
  rw [HasPrintableHalves, encodeUnits_of_basic basic, List.forall_mem_map]
  refine forall₂_congr fun character member => ?_
  rw [Nat.mod_eq_of_lt (latin character member)]

end Text

namespace Message

theorem subset_joinedFields {fields : List String} {field : String} (member : field ∈ fields) :
    field.toList ⊆ joinedFields fields := by
  induction fields with
  | nil => cases member
  | cons first rest induction =>
      cases rest with
      | nil => simp_all [joinedFields, List.intercalate]
      | cons next rest =>
          have later : field ∈ next :: rest → field.toList ⊆ joinedFields (next :: rest) :=
            induction
          simp only [joinedFields, List.intercalate, List.map_cons, List.intersperse_cons_cons,
            List.flatten_cons] at later ⊢
          rcases List.mem_cons.mp member with rfl | among
          · exact List.subset_append_left _ _
          · exact List.subset_append_of_subset_right _
              (List.subset_append_of_subset_right _ (later among))

theorem IsTail.subset {fields : List String} {tail : List Char} (tail_of : IsTail fields tail)
    {field : String} (member : field ∈ fields) : field.toList ⊆ tail := by
  cases tail_of with
  | bare => cases member
  | bracket => cases member
  | closed filled =>
      exact List.subset_append_of_subset_left _
        (List.subset_cons_of_subset _ (subset_joinedFields member))
  | unclosed ends solid => exact List.subset_cons_of_subset _ (subset_joinedFields member)

theorem isPrintable_text_of_read {text : String} (printable : Text.IsPrintable text.toList)
    {message : Message} (done : read text = .ok message) :
    Text.IsPrintable message.text.toList := by
  rcases ((read_exactly text).1 message).mp done |>.shape with ⟨address, tail, -, tail_of, trimmed⟩
  have tail_in_text : tail ⊆ text.toList := by
    have inside : tail ⊆ Text.trimList text.toList := by
      rw [trimmed]
      exact List.subset_append_right _ _
    exact List.Subset.trans inside (Text.trimList_infix text.toList).subset
  rw [Message.text, String.toList_ofList]
  apply isPrintable_characters
  intro field member character inside
  exact printable character (tail_in_text (tail_of.subset member inside))

theorem subset_characters {message : Message} {field : String} (member : field ∈ message.fields) :
    field.toList ⊆ message.characters := by
  intro character inside
  have some_field : message.fields.isEmpty = false := by
    simpa using List.ne_nil_of_mem member
  have among : character ∈ message.fields.flatMap fun field => ']' :: field.toList :=
    List.mem_flatMap.mpr ⟨field, member, List.mem_cons_of_mem ']' inside⟩
  simp [characters, some_field, among]

theorem isOrdinary_of_printable {message : Message} (sound : Field.AreSound message.fields)
    (printable : Text.IsPrintable message.text.toList) : message.IsOrdinary := by
  have inside : ∀ field ∈ message.fields, Text.IsPrintable field.toList := by
    intro field member character among
    rw [Message.text, String.toList_ofList] at printable
    exact printable character (subset_characters member among)
  refine ⟨sound.few, fun field member => ?_, inside, sound.plain⟩
  rw [← Text.utf8ByteSize_of_printable (inside field member)]
  exact sound.short field member

end Message

namespace Frame.Codec

theorem encode_eq_unprintable_iff {codec : Codec} {message : Message} :
    codec.encode message = .error (.message .unprintable) ↔
      ¬Text.HasPrintableHalves message.text := by
  rw [← Text.all_textBytes_iff]
  by_cases printable : (textBytes message.text).all isPrintable
  · cases large : codec.exceeds (codec.wrap (textBytes message.text)).length <;>
      simp [encode, printable, large]
  · simp [encode, printable]

/-- A frame that is taken off alone is read for what stands between its markers. -/
theorem decode_encode {codec : Codec} {message : Message} {frame : Bytes}
    (encoded : codec.encode message = .ok frame) :
    codec.decode (Buffer.empty.append frame) =
      (codec.decodeBody (codec.body (textBytes message.text)) 0, .empty) := by
  rcases encode_eq_ok_iff.mp encoded with ⟨printable, small, rfl⟩
  have size : (codec.wrap (textBytes message.text)).length =
      (codec.body (textBytes message.text)).length + 2 := by
    simp [wrap_eq]
  rw [size] at small
  rw [wrap_eq]
  exact codec.decode_behind_noise List.not_mem_nil (codec.isUnmarked_body printable) small []

theorem decodeBody_eq_frame_iff {codec : Codec} {body : Bytes} {skipped size : Nat}
    {message : Message} :
    codec.decodeBody body skipped = .frame message size skipped ↔
      codec.readBody body = .ok message ∧ body.length + 2 = size := by
  rw [decodeBody]
  cases codec.readBody body <;> simp

/-- A message with sound fields arrives as it is just when its text is printable. -/
theorem decode_encode_iff {codec : Codec} {message : Message}
    (sound : Field.AreSound message.fields) {frame : Bytes}
    (encoded : codec.encode message = .ok frame) :
    codec.decode (Buffer.empty.append frame) = (.frame message frame.length 0, .empty) ↔
      Text.IsPrintable message.text.toList := by
  rcases encode_eq_ok_iff.mp encoded with ⟨printable, -, whole⟩
  have size : (codec.body (textBytes message.text)).length + 2 = frame.length := by
    rw [← whole, wrap_eq]
    simp
  rw [decode_encode encoded, Prod.mk.injEq, and_iff_left rfl, decodeBody_eq_frame_iff,
    and_iff_left size]
  constructor
  · intro arrived
    -- What arrives spells printable characters only, so the message it spells has no others.
    rcases readBody_eq_ok arrived with ⟨payload, same, read⟩
    rw [(body_inj same).1] at printable
    exact Message.isPrintable_text_of_read (Text.isPrintable_bytesText printable) read
  · intro spelled
    exact codec.readBody_body (Message.isOrdinary_of_printable sound spelled)

/-- A message that is taken out of a draft is refused as unprintable just when the low half of some
unit of its text is, and what is sent of it arrives as it was just when all of its text is
printable. Where no character of the text is above 255 the two agree: a text that is not printable
is refused, and what is sent spells the text and arrives. -/
theorem encode_faithful (device : Device) (command : Command) (additions : List Message.Addition)
    (message : Message)
    (built : ((Message.Draft.empty device command).takeAll additions).build = .ok message)
    (codec : Codec) :
    (codec.encode message = .error (.message .unprintable) ↔
        ¬Text.HasPrintableHalves message.text) ∧
      (∀ frame, codec.encode message = .ok frame →
        (codec.decode (Buffer.empty.append frame) = (.frame message frame.length 0, .empty) ↔
          Text.IsPrintable message.text.toList)) ∧
      (Text.IsLatin message.text.toList →
        (codec.encode message = .error (.message .unprintable) ↔
            ¬Text.IsPrintable message.text.toList) ∧
          ∀ frame, codec.encode message = .ok frame →
            (∃ payload, frame = codec.wrap payload ∧ bytesText payload = message.text) ∧
              codec.decode (Buffer.empty.append frame) =
                (.frame message frame.length 0, .empty)) := by
  have sound := (Message.sound_of_build built).2
  refine ⟨encode_eq_unprintable_iff, fun frame encoded => decode_encode_iff sound encoded,
    fun latin => ⟨?_, ?_⟩⟩
  · rw [encode_eq_unprintable_iff, Text.hasPrintableHalves_iff_of_latin latin]
  · intro frame encoded
    rcases encode_eq_ok_iff.mp encoded with ⟨printable, -, whole⟩
    rw [Text.all_textBytes_iff, Text.hasPrintableHalves_iff_of_latin latin] at printable
    exact ⟨⟨_, whole.symm, bytesText_textBytes printable⟩,
      (decode_encode_iff sound encoded).mpr printable⟩

/-- An accent below 256 is refused, and without it the text is sent as it is. -/
theorem encode_faithful_accent :
    let device : Device := ⟨1, by decide⟩
    let codec : Codec := ⟨.crc16, defaultMaxSize⟩
    let accented : Message := ⟨device, .denyAccess, ["0", "Cart\u00e3o"]⟩
    let plain : Message := ⟨device, .denyAccess, ["0", "Cartao"]⟩
    codec.encode accented = .error (.message .unprintable) ∧
      ∃ frame, codec.encode plain = .ok frame ∧
        codec.decode (Buffer.empty.append frame) = (.frame plain frame.length 0, .empty) := by
  intro device codec accented plain
  have refused : codec.encode accented = .error (.message .unprintable) := by
    apply ((encode_faithful device .denyAccess
      [.several [.number (.finite 0), .text "Cart\u00e3o"]] accented (by decide +kernel)
      codec).2.2 (by decide +kernel)).1.mpr
    decide +kernel
  have sent : codec.encode plain = .ok (codec.wrap (textBytes plain.text)) := by decide +kernel
  refine ⟨refused, _, sent, ?_⟩
  exact (((encode_faithful device .denyAccess
    [.several [.number (.finite 0), .text "Cartao"]] plain (by decide +kernel)
    codec).2.2 (by decide +kernel)).2 _ sent).2

/-- A character above 255 that no draft refuses and that is sent as a bracket: one field arrives as
two. -/
theorem sent_as_bracket :
    let device : Device := ⟨1, by decide⟩
    let codec : Codec := ⟨.xor8, defaultMaxSize⟩
    let message : Message := ⟨device, .sendUsers, ["a\u015db"]⟩
    let frame := codec.wrap (textBytes "01+REON+EU]a]b]")
    ((Message.Draft.empty device .sendUsers).takeAll [.one (.text "a\u015db")]).build =
        .ok message ∧
      ¬Text.IsPrintable message.text.toList ∧
      codec.encode message = .ok frame ∧
      codec.decode (Buffer.empty.append frame) =
        (.frame ⟨device, .sendUsers, ["a", "b"]⟩ frame.length 0, .empty) := by
  decide +kernel

end Frame.Codec

end Gatehouse
