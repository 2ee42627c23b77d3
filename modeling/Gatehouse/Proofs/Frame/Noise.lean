import Gatehouse.Proofs.Frame.Drain
import Gatehouse.Proofs.Frame.Printable
import Gatehouse.Proofs.Message.Written

/-!
# Frames on a noisy link

Noise without an end byte leads a receiver nowhere, whatever start bytes are in it: the start byte
of the next frame makes it begin afresh (`receive_noise`). It then reads the message that was
written (`readBody_wrap`). So messages that were sent between noise all arrive (`drain_sendings`).
-/

namespace Gatehouse

structure Message.IsOrdinary (message : Message) : Prop where
  few : message.fields.length ≤ 256
  short : ∀ field ∈ message.fields, field.length ≤ 256
  printable : ∀ field ∈ message.fields, Text.IsPrintable field.toList
  plain : ∀ field ∈ message.fields, Field.IsPlain field

theorem Message.IsOrdinary.sound {message : Message} (ordinary : message.IsOrdinary) :
    Field.AreSound message.fields where
  few := ordinary.few
  short := by
    intro field member
    rw [Text.utf8ByteSize_of_printable (ordinary.printable field member)]
    exact ordinary.short field member
  plain := ordinary.plain

theorem Message.IsOrdinary.isPrintable_text {message : Message} (ordinary : message.IsOrdinary) :
    Text.IsPrintable message.text.toList := by
  rw [Message.text, String.toList_ofList]
  exact Message.isPrintable_characters ordinary.printable

namespace Frame.Codec

theorem encode_eq_ok_iff {codec : Codec} {message : Message} {frame : Bytes} :
    codec.encode message = .ok frame ↔
      (textBytes message.text).all isPrintable = true ∧
        codec.exceeds (codec.wrap (textBytes message.text)).length = false ∧
        codec.wrap (textBytes message.text) = frame := by
  by_cases printable : (textBytes message.text).all isPrintable
  · cases large : codec.exceeds (codec.wrap (textBytes message.text)).length <;>
      simp [encode, printable, large]
  · simp [encode, printable]

def body (codec : Codec) (payload : Bytes) : Bytes :=
  payload ++ codec.check.digits payload

theorem wrap_eq (codec : Codec) (payload : Bytes) :
    codec.wrap payload = startByte :: codec.body payload ++ [endByte] := by
  simp [wrap, body]

theorem isUnmarked_body (codec : Codec) {payload : Bytes}
    (printable : payload.all isPrintable = true) : IsUnmarked (codec.body payload) := by
  apply isUnmarked_of_printable
  rw [body, List.all_append, printable]
  exact all_hexDigits codec.check.width (codec.check.value payload)

/-- Of an ordinary message only the frame may be refused, and that for its size: the text, the
digits of the check and two markers. -/
theorem encode_ordinary (codec : Codec) {message : Message} (ordinary : message.IsOrdinary) :
    codec.encode message =
      if codec.exceeds (message.text.toList.length + codec.check.width + 2) then
        .error (.frameTooLarge (message.text.toList.length + codec.check.width + 2) codec.maxSize)
      else .ok (codec.wrap (textBytes message.text)) := by
  have size : (codec.wrap (textBytes message.text)).length =
      message.text.toList.length + codec.check.width + 2 := by
    simp [wrap_eq, body, length_textBytes ordinary.isPrintable_text, Nat.add_assoc]
  rw [encode, if_pos (all_textBytes ordinary.isPrintable_text), ← size]

theorem readBody_body (codec : Codec) {message : Message} (ordinary : message.IsOrdinary) :
    codec.readBody (codec.body (textBytes message.text)) = .ok message := by
  have spelled := ordinary.isPrintable_text
  have basic : (textBytes message.text).all (· < 0x80) = true := by
    have printable := all_textBytes spelled
    simp only [List.all_eq_true] at printable ⊢
    intro byte member
    have small := printable byte member
    simp only [isPrintable, Bool.and_eq_true, decide_eq_true_eq, UInt8.lt_iff_toNat_lt] at small ⊢
    exact Nat.lt_trans small.2 (by decide)
  have filled : 0 < (textBytes message.text).length := by
    rw [length_textBytes spelled, Message.text, String.toList_ofList]
    simp [Message.characters, Device.digits]
  have size : (codec.body (textBytes message.text)).length =
      (textBytes message.text).length + codec.check.width := by
    simp [body]
  rw [readBody, size, if_neg (by omega), Nat.add_sub_cancel]
  rw [body, List.take_left, List.drop_left]
  simp only [basic, if_true, bytesText_textBytes spelled]
  exact Message.read_text ordinary.sound

theorem receive_unmarked (codec : Codec) (skipped : Nat) (held : Bytes) {body : Bytes}
    (unmarked : IsUnmarked body) (rest : Bytes) :
    codec.receive skipped (.inside held) (body ++ rest) =
      codec.receive skipped (.inside (body.reverse ++ held)) rest := by
  induction body generalizing held with
  | nil => rfl
  | cons byte body induction =>
      rcases isUnmarked_cons.mp unmarked with ⟨plain, unmarked⟩
      rcases isMarker_eq_false_iff.mp plain with ⟨noStart, noEnd⟩
      simp [receive, noStart, noEnd, induction (byte :: held) unmarked]

theorem receive_startByte (codec : Codec) (skipped : Nat) (state : Reception) (rest : Bytes) :
    codec.receive skipped state (startByte :: rest) =
      codec.receive (skipped + state.bytes.length) (.inside []) rest := by
  cases state with
  | hunting => simp [receive, Reception.bytes]
  | inside held =>
      have account : skipped + 1 + held.length = skipped + (held.length + 1) := by omega
      simp [receive, Reception.bytes, account]

theorem receive_quiet (codec : Codec) (skipped : Nat) (state : Reception) {byte : UInt8}
    (other : byte ≠ endByte) :
    ∃ dropped next, dropped + next.bytes.length = skipped + state.bytes.length + 1 ∧
      ∀ rest, codec.receive skipped state (byte :: rest) = codec.receive dropped next rest := by
  -- A start byte turns what was held into what is dropped, so the sum grows by one all the same.
  by_cases opens : byte = startByte
  · refine ⟨skipped + state.bytes.length, .inside [], by simp [Reception.bytes], ?_⟩
    simpa [opens] using codec.receive_startByte skipped state
  · cases state with
    | hunting => exact ⟨skipped + 1, .hunting, rfl, by simp [receive, opens]⟩
    | inside held =>
        refine ⟨skipped, .inside (byte :: held), ?_, by simp [receive, opens, other]⟩
        simp [Reception.bytes]
        omega

/-- Wherever a receiver stands, noise without an end byte is all dropped at the next start byte. -/
theorem receive_noise (codec : Codec) (skipped : Nat) (state : Reception) {noise : Bytes}
    (quiet : endByte ∉ noise) (rest : Bytes) :
    codec.receive skipped state (noise ++ startByte :: rest) =
      codec.receive (skipped + state.bytes.length + noise.length) (.inside []) rest := by
  induction noise generalizing skipped state with
  | nil => exact codec.receive_startByte skipped state rest
  | cons byte noise induction =>
      simp only [List.mem_cons, not_or] at quiet
      rcases codec.receive_quiet skipped state (Ne.symm quiet.1) with ⟨dropped, next, account, step⟩
      rw [List.cons_append, step, induction dropped next quiet.2, account, List.length_cons]
      congr 1
      omega

/-- A complete frame behind noise is taken off as a whole, if it is not too large. -/
theorem decode_behind_noise (codec : Codec) {noise body : Bytes} (quiet : endByte ∉ noise)
    (unmarked : IsUnmarked body) (small : codec.exceeds (body.length + 2) = false) (rest : Bytes) :
    codec.decode ⟨noise ++ startByte :: (body ++ endByte :: rest)⟩ =
      (codec.decodeBody body noise.length, ⟨rest⟩) := by
  have arrives : codec.receive 0 .hunting (noise ++ startByte :: (body ++ endByte :: rest)) =
      codec.finished noise.length body.reverse rest := by
    rw [receive_noise codec 0 .hunting quiet, receive_unmarked codec _ [] unmarked]
    simp [receive, Reception.bytes, startByte_ne_endByte.symm]
  simp only [decode, arrives]
  simp [finished, small]

theorem decode_sending (codec : Codec) {noise frame : Bytes} {message : Message}
    (quiet : endByte ∉ noise) (ordinary : message.IsOrdinary)
    (encoded : codec.encode message = .ok frame) (rest : Bytes) :
    codec.decode ⟨noise ++ frame ++ rest⟩ =
      (.frame message frame.length noise.length, ⟨rest⟩) := by
  rcases encode_eq_ok_iff.mp encoded with ⟨printable, small, rfl⟩
  have stream : noise ++ codec.wrap (textBytes message.text) ++ rest =
      noise ++ startByte :: (codec.body (textBytes message.text) ++ endByte :: rest) := by
    simp [wrap_eq]
  have size : (codec.wrap (textBytes message.text)).length =
      (codec.body (textBytes message.text)).length + 2 := by
    simp [wrap_eq]
  rw [size] at small ⊢
  rw [stream, codec.decode_behind_noise quiet (codec.isUnmarked_body printable) small]
  simp [decodeBody, codec.readBody_body ordinary]

/-- A message that is sent on a link, and the noise in front of its frame. -/
structure Sending (codec : Codec) where
  noise : Bytes
  message : Message
  frame : Bytes
  quiet : endByte ∉ noise
  ordinary : message.IsOrdinary
  encoded : codec.encode message = .ok frame

namespace Sending

variable {codec : Codec}

def bytes (sending : Sending codec) : Bytes :=
  sending.noise ++ sending.frame

/-- What the receiver is to find. -/
def received (sending : Sending codec) : Decoded :=
  .frame sending.message sending.frame.length sending.noise.length

end Sending

/-- On a link where noise without end bytes stands in front of each frame, draining finds just the
messages that were sent, each with the size of its frame and the noise in front of it, and leaves
nothing. -/
theorem drain_sendings (codec : Codec) (sendings : List (Sending codec)) :
    codec.drain (Buffer.empty.append (sendings.flatMap Sending.bytes)) =
      (sendings.map Sending.received ++ [.pending 0], .empty) := by
  -- What follows a sending is any stream to the frame in front, so one decode takes it off alone.
  change codec.drain ⟨sendings.flatMap Sending.bytes⟩ = _
  induction sendings with
  | nil => rfl
  | cons sending rest induction =>
      have first := codec.decode_sending sending.quiet sending.ordinary sending.encoded
        (rest.flatMap Sending.bytes)
      simp only [List.flatMap_cons, List.map_cons, List.cons_append, Sending.bytes] at first ⊢
      rw [drain_eq, first, if_neg (by simp [Decoded.isPending]), induction]
      rfl

/-- A question with an empty last field. -/
def question : Message :=
  ⟨⟨7, by decide⟩, .accessRequest, ["43 21", ""]⟩

theorem isOrdinary_question : question.IsOrdinary :=
  ⟨by decide, by decide, by decide, by simp [question, Field.IsPlain, Field.delimiters]⟩

/-- The frame of that question. -/
def questionFrame : Bytes :=
  startByte :: textBytes "07+REON+000+0]43 21]]" ++ [0x44, 0x44, endByte]

theorem encode_question :
    Codec.encode ⟨.sum8, .finite 40⟩ question = .ok questionFrame := by
  decide +kernel

/-- The question behind some noise. -/
def questionBehind (noise : Bytes) (quiet : endByte ∉ noise) : Sending ⟨.sum8, .finite 40⟩ where
  noise := noise
  message := question
  frame := questionFrame
  quiet := quiet
  ordinary := isOrdinary_question
  encoded := encode_question

/-- Two questions, the first behind a frame that was cut short. -/
theorem drain_sendings_cut_short :
    let sendings := [questionBehind [0x30, startByte, 0x37, startByte] (by decide),
      questionBehind [] (by decide)]
    sendings.map (fun sending => sending.received.skipped) = [4, 0] ∧
      Codec.drain ⟨.sum8, .finite 40⟩ (Buffer.empty.append (sendings.flatMap Sending.bytes)) =
        (sendings.map Sending.received ++ [.pending 0], .empty) := by
  exact ⟨rfl, drain_sendings ⟨.sum8, .finite 40⟩ _⟩

end Frame.Codec

end Gatehouse
