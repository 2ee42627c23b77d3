import Gatehouse.Proofs.Check.Replaced
import Gatehouse.Proofs.Frame.Cuts
import Gatehouse.Proofs.Frame.Printable
import Gatehouse.Proofs.Message.Grammar

/-!
# Frames with a corrupted byte

A frame is read only if its payload goes with its check (`readBody_eq_ok`). With one byte of the
payload replaced it does not (`readBody_replaced`); and where the new byte is a start byte, so that
a receiver begins afresh there, what stands behind it is no message or does not go with the check
(`readBody_behind`). So nothing but one refusal is found: `drain_corrupted`.

A text that is read as a message holds the protocol word somewhere behind its beginning
(`marked_infix_tail`). In what is sent of a message whose fields put no plus on the link that word
stands in one place only, so of all that is cut off its front only what follows the first digit of
the address may be read as a message again: `eq_or_cons_of_read`. A character that loses its high
half on the way can become a plus, and then a field can hold a message of its own: `frame_in_field`.
-/

namespace Gatehouse.Message

open Gatehouse.Frame

def marked : List Char := '+' :: protocolMark

theorem marked_infix_tail {text : String} {message : Message} (done : read text = .ok message) :
    marked <:+: text.toList.tail := by
  rcases ((read_exactly text).1 message).mp done |>.shape with ⟨address, tail, named, -, trimmed⟩
  rcases Text.trimList_infix text.toList with ⟨front, back, whole⟩
  rw [← whole, trimmed]
  cases address with
  | nil => exact absurd named.short.1 (by decide)
  | cons first rest =>
      let behind := message.command.code.toList ++ tail ++ back
      cases front with
      | nil => exact ⟨rest, behind, by simp [behind, marked, protocolMark]⟩
      | cons blank others =>
          exact ⟨others ++ first :: rest, behind, by simp [behind, marked, protocolMark]⟩

theorem marked_infix_of_append {front back : List Char} (bare : '+' ∉ back)
    (found : marked <:+: front ++ back) : marked <:+: front := by
  rcases List.infix_append_iff_ne_nil.mp found with
    inside | inside | ⟨left, right, -, filled, whole, -, starts⟩
  · exact inside
  · exact absurd (inside.subset (by decide)) bare
  · -- Its last character would stand in the part behind, and that is a plus.
    have ends := List.getLast?_append_of_ne_nil left filled
    rw [← whole] at ends
    have last : '+' ∈ right := List.mem_of_getLast? ends.symm
    exact absurd (starts.subset last) bare

theorem code_unmarked (command : Command) :
    ¬marked <:+: protocolMark ++ command.code.toList := by
  cases command <;> decide +kernel

def plusByte : UInt8 := 0x2b

/-- No field of a message puts a plus on the link. -/
def SendsNoPlus (message : Message) : Prop :=
  ∀ field ∈ message.fields, plusByte ∉ textBytes field

instance (message : Message) : Decidable message.SendsNoPlus :=
  inferInstanceAs (Decidable (∀ field ∈ message.fields, plusByte ∉ textBytes field))

theorem plus_mem_bytesText {bytes : Bytes} :
    '+' ∈ (bytesText bytes).toList ↔ plusByte ∈ bytes := by
  have every : ∀ code : Fin 256, Char.ofNat code.val = '+' ↔ code.val = 0x2b := by decide +kernel
  have spells (byte : UInt8) : Char.ofNat byte.toNat = '+' ↔ byte = plusByte := by
    rw [← UInt8.toNat_inj]
    exact every ⟨byte.toNat, byte.toNat_lt⟩
  simp [bytesText, spells]

/-- Fields that are sent as they are put a plus on the link only where they hold one. -/
theorem sendsNoPlus_of_printable {message : Message}
    (plain : ∀ field ∈ message.fields, Field.IsPlain field)
    (printable : ∀ field ∈ message.fields, Text.IsPrintable field.toList) :
    message.SendsNoPlus := by
  intro field member sent
  have spelled := plus_mem_bytesText.mpr sent
  rw [bytesText_textBytes (printable field member)] at spelled
  exact plain field member '+' (by simp [Field.delimiters]) spelled

theorem plusByte_not_mem_closedFields {fields : List String}
    (bare : ∀ field ∈ fields, plusByte ∉ textBytes field) :
    plusByte ∉ textBytes (String.ofList (closedFields fields)) := by
  induction fields with
  | nil => decide +kernel
  | cons field rest induction =>
      have first := bare field List.mem_cons_self
      have bracket : plusByte ∉ textBytes (String.ofList [']']) := by decide +kernel
      have later := induction fun other member => bare other (List.mem_cons_of_mem field member)
      rw [closedFields, List.flatMap_cons, textBytes_append, textBytes_append, String.ofList_toList]
      simp only [List.mem_append, not_or]
      exact ⟨⟨first, bracket⟩, later⟩

/-- What is sent behind the address spells the protocol word, the code, and a rest without plus. -/
theorem textBytes_text {message : Message} (bare : message.SendsNoPlus) :
    ∃ behind tail, '+' ∉ tail ∧
      textBytes message.text = textBytes message.device.text ++ behind ∧
      (bytesText behind).toList =
        '+' :: (protocolMark ++ message.command.code.toList ++ tail) := by
  let header := '+' :: protocolMark ++ message.command.code.toList
  let fields := if message.fields.isEmpty then [] else ']' :: closedFields message.fields
  have whole : message.characters = message.device.digits ++ (header ++ fields) := by
    rw [characters_eq]
    simp [header, fields]
  have printable : Text.IsPrintable (String.ofList header).toList := by
    rw [String.toList_ofList]
    exact Text.isPrintable_append.mpr ⟨by decide, message.command.isPrintable_code⟩
  have plain : plusByte ∉ textBytes (String.ofList fields) := by
    simp only [fields]
    split
    · decide +kernel
    · have bracket : plusByte ∉ textBytes (String.ofList [']']) := by decide +kernel
      rw [← List.singleton_append, textBytes_append, List.mem_append, not_or]
      exact ⟨bracket, plusByte_not_mem_closedFields bare⟩
  refine ⟨textBytes (String.ofList header) ++ textBytes (String.ofList fields), _,
    fun member => plain (plus_mem_bytesText.mp member), ?_, ?_⟩
  · rw [text, whole, textBytes_append, textBytes_append]
    rfl
  · rw [toList_bytesText_append, bytesText_textBytes printable, String.toList_ofList]
    rfl

theorem textBytes_device (device : Device) :
    ∃ first second, first ≠ 0 ∧ textBytes device.text = [first, second] := by
  rcases textBytes_digits device with ⟨shown, two⟩
  rcases List.length_eq_two.mp two with ⟨first, second, shape⟩
  refine ⟨first, second, ?_, shape⟩
  rintro rfl
  rw [shape] at shown
  simp [isPrintable] at shown

/-- What stands at the end of a sent message and is read as a message is all of it, or lacks just
the first digit of the address. -/
theorem eq_or_cons_of_read {message other : Message} (bare : message.SendsNoPlus) {bytes : Bytes}
    (part : bytes <:+ textBytes message.text) (done : read (bytesText bytes) = .ok other) :
    bytes = textBytes message.text ∨
      ∃ first, first ≠ 0 ∧ textBytes message.text = first :: bytes := by
  rcases message.textBytes_text bare with ⟨behind, tail, plain, whole, spelled⟩
  rcases textBytes_device message.device with ⟨first, second, nonzero, digits⟩
  rw [digits] at whole
  rw [whole] at part ⊢
  simp only [List.cons_append, List.nil_append, List.suffix_cons_iff] at part ⊢
  rcases part with same | same | inner
  · exact .inl same
  · exact .inr ⟨first, nonzero, by rw [same]⟩
  · -- From the word on, that word stands only at the beginning, where no address precedes it.
    have within : (bytesText bytes).toList.tail <:+
        protocolMark ++ message.command.code.toList ++ tail := by
      have spelled_part : (bytesText bytes).toList <:+ (bytesText behind).toList := by
        rcases inner with ⟨front, rfl⟩
        rw [toList_bytesText_append]
        exact List.suffix_append _ _
      rw [spelled, List.suffix_cons_iff] at spelled_part
      rcases spelled_part with all | later
      · rw [all, List.tail_cons]
      · exact (List.tail_suffix _).trans later
    have found := (marked_infix_tail done).trans within.isInfix
    exact absurd (marked_infix_of_append plain found) (code_unmarked message.command)

end Gatehouse.Message

namespace Gatehouse.Frame.Codec

theorem readBody_eq_ok {codec : Codec} {bytes : Bytes} {message : Message}
    (done : codec.readBody bytes = .ok message) :
    ∃ payload, bytes = codec.body payload ∧ Message.read (bytesText payload) = .ok message := by
  unfold readBody at done
  simp only at done
  split at done
  · cases done
  · split at done
    · split at done
      · next agrees =>
          refine ⟨_, ?_, done⟩
          rw [body, agrees, List.take_append_drop]
      · cases done
    · cases done

theorem body_inj {codec : Codec} {payload checked other : Bytes}
    (same : payload ++ codec.check.digits checked = codec.body other) :
    payload = other ∧ codec.check.digits checked = codec.check.digits other :=
  List.append_inj' same (by simp)

theorem readBody_replaced (codec : Codec) (front back : Bytes) {old new : UInt8}
    (replaced : old ≠ new) (message : Message) :
    codec.readBody (front ++ new :: back ++ codec.check.digits (front ++ old :: back)) ≠
      .ok message := by
  intro done
  rcases readBody_eq_ok done with ⟨payload, whole, -⟩
  rcases body_inj whole with ⟨rfl, digits⟩
  exact replaced ((codec.check.digits_replaced front back old new).mp digits)

theorem readBody_behind (codec : Codec) {sent : Message} (bare : sent.SendsNoPlus)
    {front back : Bytes} {old : UInt8} (payload : textBytes sent.text = front ++ old :: back)
    (message : Message) :
    codec.readBody (back ++ codec.check.digits (textBytes sent.text)) ≠ .ok message := by
  intro done
  rcases readBody_eq_ok done with ⟨_, whole, read⟩
  rcases body_inj whole with ⟨rfl, digits⟩
  have part : back <:+ textBytes sent.text := by
    rw [payload]
    exact (List.suffix_cons old back).trans (List.suffix_append front _)
  rcases Message.eq_or_cons_of_read bare part read with same | ⟨first, nonzero, led⟩
  · have longer := congrArg List.length (same.trans payload)
    simp only [List.length_append, List.length_cons] at longer
    omega
  · rw [led] at digits
    exact codec.check.digits_cons_ne nonzero back digits

theorem drain_unreadable (codec : Codec) {noise body : Bytes} (quiet : endByte ∉ noise)
    (unmarked : IsUnmarked body) (small : codec.exceeds (body.length + 2) = false)
    (unreadable : ∀ message, codec.readBody body ≠ .ok message) :
    ∃ fault, codec.drain (Buffer.empty.append (noise ++ startByte :: (body ++ [endByte]))) =
      ([.failed fault noise.length, .pending 0], .empty) := by
  cases outcome : codec.readBody body with
  | ok message => exact absurd outcome (unreadable message)
  | error fault =>
      refine ⟨fault, ?_⟩
      have first := codec.decode_behind_noise quiet unmarked small []
      change codec.drain ⟨noise ++ startByte :: (body ++ [endByte])⟩ = _
      rw [drain_eq, first, decodeBody, outcome]
      rfl

/-- Where one byte of the payload of a frame is replaced by any other byte but an end byte, draining
finds no frame but one refusal, and leaves nothing. -/
theorem drain_corrupted {codec : Codec} {message : Message} {frame : Bytes}
    (encoded : codec.encode message = .ok frame) (bare : message.SendsNoPlus) {position : Nat}
    (inside : position < (textBytes message.text).length) {byte : UInt8}
    (replaced : (textBytes message.text)[position]? ≠ some byte) (quiet : byte ≠ endByte) :
    ∃ fault skipped, codec.drain (Buffer.empty.append (frame.set (position + 1) byte)) =
      ([.failed fault skipped, .pending 0], .empty) := by
  rcases encode_eq_ok_iff.mp encoded with ⟨printable, small, rfl⟩
  rcases @List.exists_of_set _ position byte _ inside with ⟨front, back, payload, rfl, -⟩
  generalize (textBytes message.text)[front.length] = old at payload
  have other : old ≠ byte := by
    rintro rfl
    simp [payload] at replaced
  have unmarked := codec.isUnmarked_body printable
  have behind := codec.readBody_behind bare payload
  have mismatch := codec.readBody_replaced front back other
  rw [wrap_eq] at small ⊢
  rw [← payload] at mismatch
  simp only [body] at small unmarked ⊢
  generalize codec.check.digits (textBytes message.text) = digits at *
  simp only [payload, isUnmarked_append, isUnmarked_cons] at unmarked
  obtain ⟨⟨unmarked_front, -, unmarked_back⟩, unmarked_digits⟩ := unmarked
  have corrupted : (startByte :: (textBytes message.text ++ digits) ++ [endByte]).set
      (front.length + 1) byte = startByte :: (front ++ byte :: (back ++ digits ++ [endByte])) := by
    rw [payload]
    simp
  have size : codec.exceeds ((front ++ byte :: back ++ digits).length + 2) = false := by
    simpa [payload, Nat.add_assoc] using small
  rw [corrupted]
  by_cases opens : byte = startByte
  · -- A receiver begins afresh there, and what was sent before is noise.
    have noise : endByte ∉ startByte :: front := by
      rw [List.mem_cons, not_or]
      exact ⟨startByte_ne_endByte.symm, IsUnmarked.endByte_not_mem unmarked_front⟩
    have smaller : codec.exceeds ((back ++ digits).length + 2) = false :=
      not_exceeds_of_le size (by simp; omega)
    rcases codec.drain_unreadable noise (isUnmarked_append.mpr ⟨unmarked_back, unmarked_digits⟩)
      smaller behind with ⟨fault, drained⟩
    refine ⟨fault, _, Eq.trans ?_ drained⟩
    simp [opens]
  · have plain : IsUnmarked (front ++ byte :: back ++ digits) := by
      simp only [isUnmarked_append, isUnmarked_cons]
      exact ⟨⟨unmarked_front, isMarker_eq_false_iff.mpr ⟨opens, quiet⟩, unmarked_back⟩,
        unmarked_digits⟩
    rcases codec.drain_unreadable List.not_mem_nil plain size mismatch with ⟨fault, drained⟩
    refine ⟨fault, 0, Eq.trans ?_ drained⟩
    simp

/-- A start byte in place of the first digit: what stands behind it reads as the same message. -/
theorem drain_corrupted_address :
    question.SendsNoPlus ∧
      Message.read (bytesText (textBytes question.text).tail) = .ok question ∧
      ∃ fault skipped, Codec.drain ⟨.sum8, .finite 40⟩
          (Buffer.empty.append (questionFrame.set 1 startByte)) =
        ([.failed fault skipped, .pending 0], .empty) := by
  have inside : 0 < (textBytes question.text).length := by decide +kernel
  have replaced : (textBytes question.text)[0]? ≠ some startByte := by decide +kernel
  exact ⟨by decide +kernel, by decide +kernel,
    drain_corrupted encode_question (by decide +kernel) inside replaced startByte_ne_endByte⟩

/-- A message whose only field holds a message with a character in it that is sent as a plus. What
stands in front of that message cancels out in its check. -/
def enclosing : Message :=
  ⟨⟨1, by decide⟩, .sendConfig, ["L1\u012bREON\u012bRQ"]⟩

/-- The frame of that message. -/
def enclosingFrame : Bytes :=
  (Codec.mk .xor8 defaultMaxSize).wrap (textBytes "01+REON+EC]L1+REON+RQ]")

/-- No delimiter is in the field, and the frame is sent; but with a start byte in place of one byte
of its payload the message in the field is found in it. -/
theorem frame_in_field :
    (∀ field ∈ enclosing.fields, Field.IsPlain field) ∧
      Codec.encode ⟨.xor8, defaultMaxSize⟩ enclosing = .ok enclosingFrame ∧
      enclosingFrame[12]? ≠ some startByte ∧
      Codec.drain ⟨.xor8, defaultMaxSize⟩
          (Buffer.empty.append (enclosingFrame.set 12 startByte)) =
        ([.frame ⟨⟨1, by decide⟩, .queryStatus, []⟩ 14 12, .pending 0], .empty) := by
  refine ⟨?_, by decide +kernel, by decide +kernel, by decide +kernel⟩
  simp [enclosing, Field.IsPlain, Field.delimiters]

end Gatehouse.Frame.Codec
