import Gatehouse.Proofs.Frame.Drain
import Gatehouse.Proofs.Frame.Printable
import Gatehouse.Session

/-!
# What sessions write

A session that is open answers with one frame, and with none when it is closed: `Session.Replies`.
This is so on each way an answer takes: a request that cannot be read is denied (`handle_replies`),
and a result that arrives is told, with a denial where there is no response or it cannot be sent
(`answer_replies`). Other messages are handled without a word: `handle_quiet`.

What cannot be read or sent is answered with a plain denial, which can always be sent: it is
printable and takes less than 64 bytes for whatever device and check (`encode_failure`).
-/

namespace Gatehouse

open Access Gatehouse.Frame

def denialText : List Char := "+REON+00+30]0]Acesso negado]".toList

theorem characters_failure (reason : Denial) (device : Device) :
    ((Decision.failure reason).response device .standard).characters =
      device.digits ++ denialText := by
  have shown : Display.line Display.denied = Display.denied :=
    Display.line_ofDenial .card .remoteDenied
  have seconds : (Number.finite 0).text = "0" := by decide +kernel
  have message : (Decision.failure reason).response device .standard =
      { device := device, command := .denyAccess, fields := ["0", Display.denied] } :=
    congrArg₂ (fun first second => Message.mk device .denyAccess [first, second]) seconds shown
  have tail : ('+' :: Message.protocolMark) ++ (Command.denyAccess.code.toList ++
      (["0", Display.denied].flatMap (fun field => ']' :: field.toList) ++ [']'])) =
        denialText := by
    decide +kernel
  rw [message, ← tail]
  simp only [Message.characters, List.append_assoc]
  rfl

theorem textBytes_denialText :
    (textBytes (String.ofList denialText)).all isPrintable = true ∧
      (textBytes (String.ofList denialText)).length = 28 := by
  decide +kernel

theorem Frame.Codec.exceeds_wrap {codec : Codec} (room : codec.exceeds 64 = false)
    {payload : Bytes} (short : payload.length ≤ 58) :
    codec.exceeds (codec.wrap payload).length = false := by
  rw [Bool.eq_false_iff]
  intro large
  have most : codec.exceeds 64 = true := by
    apply Codec.exceeds_mono large
    have width : codec.check.width ≤ 4 := by
      cases codec.check <;> decide
    simp only [Codec.wrap, List.length_cons, List.length_append, Check.length_digits,
      List.length_nil]
    omega
  rw [room] at most
  cases most

namespace Session

theorem encode_failure {codec : Codec} (room : codec.exceeds 64 = false) (reason : Denial)
    (device : Device) :
    ∃ bytes, codec.encode ((Decision.failure reason).response device .standard) = .ok bytes := by
  rcases textBytes_digits device with ⟨address, two⟩
  rcases textBytes_denialText with ⟨rest, many⟩
  have payload : textBytes ((Decision.failure reason).response device .standard).text =
      textBytes (String.ofList device.digits) ++ textBytes (String.ofList denialText) := by
    rw [Message.text, characters_failure, textBytes_append]
  have printable : (textBytes ((Decision.failure reason).response device .standard).text).all
      isPrintable = true := by
    rw [payload, List.all_append, address, rest]
    rfl
  have small : codec.exceeds
      (codec.wrap (textBytes ((Decision.failure reason).response device .standard).text)).length =
        false := by
    apply Frame.Codec.exceeds_wrap room
    rw [payload, List.length_append, two, many]
    omega
  refine ⟨codec.wrap (textBytes ((Decision.failure reason).response device .standard).text), ?_⟩
  unfold Codec.encode
  simp only [printable, small, if_true, Bool.false_eq_true, if_false]

end Session

def Message.Decides (message : Message) (device : Device) : Prop :=
  message.device = device ∧ (message.command.isGrant = true ∨ message.command = .denyAccess)

def Frame.Codec.Answers (codec : Frame.Codec) (device : Device) (bytes : Bytes) : Prop :=
  ∃ response : Message, response.Decides device ∧ codec.encode response = .ok bytes

def Frame.Codec.Denies (codec : Frame.Codec) (reason : Denial) (device : Device) (bytes : Bytes) :
    Prop :=
  codec.encode ((Decision.failure reason).response device .standard) = .ok bytes

/-- Bytes tell the result of a request: they are the frame of its response, or of a plain denial
where there is no response or it cannot be sent. -/
inductive Frame.Codec.Tells (codec : Frame.Codec) (device : Device)
    (result : Except Fault Message) (bytes : Bytes) : Prop
  | response {message : Message} : result = .ok message → codec.encode message = .ok bytes →
      Tells codec device result bytes
  | denial : (∀ message, result = .ok message → ∃ fault, codec.encode message = .error fault) →
      codec.Denies .validationError device bytes → Tells codec device result bytes

def SessionEffect.bytes? : SessionEffect → Option Bytes
  | .write bytes => some bytes
  | _ => none

def written (effects : List SessionEffect) : List Bytes :=
  effects.filterMap SessionEffect.bytes?

theorem written_append (first later : List SessionEffect) :
    written (first ++ later) = written first ++ written later :=
  List.filterMap_append

theorem Access.Decision.decides_response (decision : Decision) (device : Device)
    (seconds : DisplaySeconds) : (decision.response device seconds).Decides device := by
  cases decision with
  | granted reason direction display source =>
      refine ⟨rfl, .inl ?_⟩
      cases direction <;> rfl
  | denied reason display source => exact ⟨rfl, .inr rfl⟩

namespace Session

/-- Two states of a session that differ in what was counted at most. -/
structure Alike (before after : Session) : Prop where
  codec : after.codec = before.codec
  failingWrites : after.failingWrites = before.failingWrites
  buffer : after.buffer = before.buffer
  inbox : after.inbox = before.inbox
  current : after.current = before.current
  closed : after.closed = before.closed

theorem Alike.refl (session : Session) : session.Alike session :=
  ⟨rfl, rfl, rfl, rfl, rfl, rfl⟩

/-- What a session writes when it answers: one frame, or nothing when it is closed. -/
inductive Replies (session : Session) (answers : Bytes → Prop) : List Bytes → Prop
  | silent : session.closed = true → Replies session answers []
  | answered {bytes : Bytes} : session.closed = false → answers bytes →
      Replies session answers [bytes]

variable {session : Session}

theorem Replies.imp {answers others : Bytes → Prop} {frames : List Bytes}
    (replies : session.Replies answers frames) (also : ∀ bytes, answers bytes → others bytes) :
    session.Replies others frames := by
  cases replies with
  | silent shut => exact .silent shut
  | answered opened answers => exact .answered opened (also _ answers)

theorem send_closed (shut : session.closed = true) (message : Message) :
    session.send message = { session := session, fault := none, effects := [] } :=
  if_pos shut

theorem send_refused (opened : session.closed = false) {message : Message} {fault : Fault}
    (refused : session.codec.encode message = .error fault) :
    session.send message = { session := session, fault := some fault, effects := [] } := by
  unfold send
  rw [opened, refused]
  rfl

section

variable (reliable : session.failingWrites = [])

include reliable

theorem send_fitting (opened : session.closed = false) {message : Message} {bytes : Bytes}
    (fits : session.codec.encode message = .ok bytes) :
    session.Alike (session.send message).session ∧ (session.send message).fault = none ∧
      written (session.send message).effects = [bytes] := by
  unfold send
  split
  · next shut =>
      rw [opened] at shut
      cases shut
  · rw [fits]
    dsimp only
    split
    · next failing =>
        rw [reliable] at failing
        cases failing
    · exact ⟨⟨rfl, rfl, rfl, rfl, rfl, rfl⟩, rfl, rfl⟩

theorem sendDenial_spec (room : session.codec.exceeds 64 = false) (device : Device)
    (reason : Denial) :
    session.Alike (session.sendDenial device reason).session ∧
      (session.sendDenial device reason).fault = none ∧
      session.Replies (session.codec.Denies reason device)
        (written (session.sendDenial device reason).effects) := by
  unfold sendDenial
  cases standing : session.closed with
  | true =>
      rw [send_closed standing]
      exact ⟨.refl session, rfl, .silent standing⟩
  | false =>
      rcases encode_failure room reason device with ⟨bytes, fits⟩
      rcases send_fitting reliable standing fits with ⟨alike, fine, wrote⟩
      refine ⟨alike, fine, ?_⟩
      rw [wrote]
      exact .answered standing fits

theorem answer_replies (room : session.codec.exceeds 64 = false) (device : Device)
    (result : Except Fault Message) :
    session.Alike (session.answer device result).session ∧
      session.Replies (session.codec.Tells device result)
        (written (session.answer device result).effects) := by
  rcases sendDenial_spec reliable room device .validationError with ⟨alike, -, denies⟩
  unfold answer
  cases result with
  | error fault => exact ⟨alike, denies.imp fun bytes => .denial nofun⟩
  | ok response =>
      cases standing : session.closed with
      | true =>
          simp only [send_closed standing response]
          exact ⟨.refl session, .silent standing⟩
      | false =>
          cases fits : session.codec.encode response with
          | ok bytes =>
              rcases send_fitting reliable standing fits with ⟨alike, fine, wrote⟩
              simp only [fine]
              rw [wrote]
              exact ⟨alike, .answered standing (.response rfl fits)⟩
          | error fault =>
              simp only [send_refused standing fits]
              refine ⟨alike, denies.imp fun bytes => .denial ?_⟩
              rintro _ ⟨⟩
              exact ⟨fault, fits⟩

end

variable (clock : Agenda.Clock) (turnstiles : Turnstile.Controller) (message : Message)

theorem handle_quiet (session : Session) (other : message.command ≠ .accessRequest) :
    (session.handle clock turnstiles message).session = session ∧
      written (session.handle clock turnstiles message).effects = [] ∧
      ∀ request, (session.handle clock turnstiles message).progress ≠ .asking request := by
  unfold handle
  rw [if_neg other]
  split
  · exact ⟨rfl, rfl, fun request asking => by cases asking⟩
  · split
    · exact ⟨rfl, rfl, fun request asking => by cases asking⟩
    · exact ⟨rfl, rfl, fun request asking => by cases asking⟩

theorem handle_replies (reliable : session.failingWrites = [])
    (room : session.codec.exceeds 64 = false) (asks : message.command = .accessRequest) :
    session.Alike (session.handle clock turnstiles message).session ∧
      ((∃ request, Request.ofMessage message = .ok request ∧
          (session.handle clock turnstiles message).progress = .asking request ∧
          written (session.handle clock turnstiles message).effects = []) ∨
        ((∀ request, (session.handle clock turnstiles message).progress ≠ .asking request) ∧
          (∃ fault, Request.ofMessage message = .error fault) ∧
          session.Replies (session.codec.Denies .malformedRequest message.device)
            (written (session.handle clock turnstiles message).effects))) := by
  unfold handle
  rw [if_pos asks]
  unfold handleRequest
  split
  · next request readable => exact ⟨.refl session, .inl ⟨request, readable, rfl, rfl⟩⟩
  · next fault unreadable =>
      rcases sendDenial_spec reliable room message.device .malformedRequest with
        ⟨alike, fine, replies⟩
      have done : (session.sendDenial message.device .malformedRequest).progress = .done := by
        unfold Sent.progress
        rw [fine]
      refine ⟨alike, .inr ⟨fun request asking => ?_, ⟨fault, unreadable⟩, replies⟩⟩
      cases done.symm.trans asking

theorem written_finish (fault : Option Fault) : written (session.finish fault).2 = [] := by
  cases fault <;> rfl

end Session

end Gatehouse
