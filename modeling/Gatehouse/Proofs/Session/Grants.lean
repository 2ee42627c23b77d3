import Gatehouse.Proofs.Access.Responses
import Gatehouse.Proofs.Session.Answers
import Gatehouse.Proofs.Time.Stamped

/-!
# Grants of sessions

The line of a grant is short and printable, whatever text it was made from, so a grant can always be
sent where frames of 64 bytes are taken (`encode_grant`). The requests that sessions pass on have
valid times (`isValid_asking`).
-/

namespace Gatehouse

open Access

namespace Session

variable {codec : Frame.Codec} {seconds : DisplaySeconds} {count : Nat}

theorem encode_grant (room : codec.exceeds 64 = false) (shown : seconds.grant = .ofNat count)
    (small : count < 1000) {decision : Decision} (grants : decision.isGrant = true)
    (device : Device) : ∃ bytes, codec.encode (decision.response device seconds) = .ok bytes := by
  have seconds_shown : decision.shownFor seconds = .ofNat count := by
    rw [← shown]
    cases decision with
    | granted => rfl
    | denied => cases grants
  have code := decision.length_code
  have digits : (Number.ofNat count).text.toList.length ≤ 3 :=
    (Number.length_text_le_iff small (by omega)).mpr small
  have line := (Display.isLine_line decision.display).short
  have ordinary : (decision.response device seconds).IsOrdinary :=
    Decision.isOrdinary_response seconds_shown small
  have size := Decision.length_response decision device seconds
  rw [seconds_shown] at size
  rw [grants, if_pos rfl] at code
  have width : codec.check.width ≤ 4 := by
    cases codec.check <;> decide
  refine ⟨_, (codec.encode_ordinary ordinary).trans (if_neg ?_)⟩
  intro large
  have most := Frame.Codec.exceeds_mono large (show _ ≤ 64 by omega)
  rw [room] at most
  cases most

theorem written_answer {session : Session} {response : Message} {bytes : Bytes}
    (reliable : session.failingWrites = []) (fits : session.codec.encode response = .ok bytes)
    (device : Device) :
    written (session.answer device (.ok response)).effects =
      if session.closed then [] else [bytes] := by
  unfold answer
  cases standing : session.closed with
  | true =>
      simp only [send_closed standing response]
      rfl
  | false =>
      rcases send_fitting reliable standing fits with ⟨_, fine, wrote⟩
      simp only [fine]
      exact wrote

end Session

theorem Access.Request.isValid_ofMessage {message : Message} {request : Request}
    (readable : Request.ofMessage message = .ok request) : request.timestamp.isValid = true := by
  unfold Request.ofMessage at readable
  split at readable
  · rcases bind_eq_ok_iff.mp readable with ⟨credential, _, readable⟩
    rcases bind_eq_ok_iff.mp readable with ⟨instant, stamped, readable⟩
    rcases bind_eq_ok_iff.mp readable with ⟨direction, _, readable⟩
    rcases bind_eq_ok_iff.mp readable with ⟨reader, _, readable⟩
    cases readable
    unfold readTimestamp at stamped
    split at stamped
    · next known =>
        cases stamped
        exact Time.Stamp.isValid_read known
    · cases stamped
  · cases readable

theorem Session.isValid_asking (session : Session) (clock : Agenda.Clock)
    (turnstiles : Turnstile.Controller) (message : Message) {request : Request}
    (asking : (session.handle clock turnstiles message).progress = .asking request) :
    request.timestamp.isValid = true := by
  unfold handle at asking
  split at asking
  · unfold handleRequest at asking
    split at asking
    · next readable =>
        cases asking
        exact Request.isValid_ofMessage readable
    · unfold Sent.progress at asking
      dsimp only at asking
      split at asking <;> cases asking
  · split at asking
    · unfold handleStatus at asking
      cases asking
    · split at asking <;> cases asking

end Gatehouse
