import Gatehouse.Proofs.Frame.Cuts

/-!
# Progress of decoding

Each decoding takes its bytes off the front of the buffer and accounts for them
(`accounts_decode`). One that finds something takes off at least one, so after fewer decodings than
the buffer has bytes nothing more is found; then the buffer holds at most the beginning of one
frame, within the limit, and keeps it: `decode_until_settled`.
-/

namespace Gatehouse.Frame

/-- How a decoding accounts for the bytes before it and those that are left. A refused frame takes
at least one byte besides those that are skipped. -/
def Decoded.Accounts (before after : Nat) : Decoded → Prop
  | .pending skipped => before = skipped + after
  | .frame _ size skipped => before = skipped + size + after
  | .failed _ skipped => skipped + 1 + after ≤ before

namespace Codec

/-- What is left of a buffer after a number of decodings. -/
def leftAfter (codec : Codec) : Nat → Buffer → Buffer
  | 0, buffer => buffer
  | count + 1, buffer => codec.leftAfter count (codec.decode buffer).2

/-- What the decoding after a number of others finds. -/
def foundAfter (codec : Codec) (count : Nat) (buffer : Buffer) : Decoded :=
  (codec.decode (codec.leftAfter count buffer)).1

/-- A buffer holds nothing, or the beginning of one frame within the limit. -/
def IsSettled (codec : Codec) (buffer : Buffer) : Prop :=
  buffer.bytes = [] ∨ ∃ held, buffer.bytes = startByte :: held ∧ IsUnmarked held ∧
    (Number.ofNat buffer.size).le codec.maxSize = true

theorem isSuffix_decode (codec : Codec) (buffer : Buffer) :
    (codec.decode buffer).2.bytes <:+ buffer.bytes :=
  codec.isSuffix_receive 0 .hunting buffer.bytes

theorem accounts_decodeBody {codec : Codec} {body : Bytes} {skipped before after : Nat}
    (account : skipped + (body.length + 2) + after = before) :
    (codec.decodeBody body skipped).Accounts before after := by
  unfold decodeBody
  split
  · exact account.symm
  · simp only [Decoded.Accounts]
    omega

theorem accounts_decode (codec : Codec) (buffer : Buffer) :
    (codec.decode buffer).1.Accounts buffer.size (codec.decode buffer).2.size := by
  have received := codec.received_decode buffer
  generalize (codec.decode buffer).1 = decoded at received ⊢
  unfold Buffer.size at received ⊢
  generalize (codec.decode buffer).2.bytes = left at received ⊢
  cases received with
  | waiting last skipped walk small account => exact account.symm
  | overrun held skipped walk large account =>
      simp only [Decoded.Accounts, List.length_nil]
      omega
  | oversized body rest skipped walk large account =>
      have kept := (List.dropWhile_sublist (· != startByte) (l := rest)).length_le
      simp only [Decoded.Accounts]
      omega
  | complete body rest skipped walk small account => exact accounts_decodeBody account

/-- Where nothing is found, what is left is what a receiver holds, and not too much. -/
theorem exists_reception_of_pending {codec : Codec} {buffer : Buffer}
    (waits : (codec.decode buffer).1.isPending = true) :
    ∃ last, (codec.decode buffer).2.bytes = last.bytes ∧ last.IsClean ∧ codec.kept last = last := by
  have clean := @isClean_scan .hunting trivial buffer.bytes
  have received := codec.received_decode buffer
  generalize (codec.decode buffer).1 = decoded at waits received
  generalize (codec.decode buffer).2.bytes = left at received ⊢
  cases received with
  | waiting last skipped walk small account =>
      rw [walk] at clean
      exact ⟨last, rfl, clean, small⟩
  | overrun => simp [Decoded.isPending] at waits
  | oversized => simp [Decoded.isPending] at waits
  | complete => simp [isPending_decodeBody] at waits

theorem decode_bytes {codec : Codec} {last : Reception} (clean : last.IsClean)
    (small : codec.kept last = last) :
    codec.decode ⟨last.bytes⟩ = (.pending 0, ⟨last.bytes⟩) := by
  have again := codec.receive_hunting_bytes clean 0 []
  rw [List.append_nil] at again
  rw [decode, again]
  cases last with
  | hunting => rfl
  | inside held =>
      have fits : codec.exceeds (held.length + 1) = false := by
        simpa [kept] using small
      simp [receive, unfinished, fits, Reception.bytes]

theorem le_of_not_exceeds {codec : Codec} (limited : (Number.finite 0).le codec.maxSize = true)
    {size : Nat} (fits : codec.exceeds size = false) :
    (Number.ofNat size).le codec.maxSize = true := by
  unfold exceeds at fits
  cases limit : codec.maxSize with
  | nan => simp [limit, Number.le] at limited
  | finite value => simpa [limit, Number.le, Number.ofNat] using fits
  | infinite negative => simpa [limit, Number.le, Number.ofNat] using fits

theorem isSettled_bytes {codec : Codec} (limited : (Number.finite 0).le codec.maxSize = true)
    {last : Reception} (clean : last.IsClean) (small : codec.kept last = last) :
    codec.IsSettled ⟨last.bytes⟩ := by
  cases last with
  | hunting => exact .inl rfl
  | inside held =>
      have fits : codec.exceeds (held.length + 1) = false := by
        simpa [kept] using small
      refine .inr ⟨held.reverse, rfl, isUnmarked_reverse.mpr clean, ?_⟩
      have within := le_of_not_exceeds limited fits
      simpa [Buffer.size, Reception.bytes] using within

/-- Every decoding takes its bytes off the front of the buffer and accounts for them. After fewer
decodings than the buffer has bytes, or after none, one finds nothing; draining is just these
decodings. It leaves nothing or the beginning of one frame within the limit, which another decoding
leaves as it is. -/
theorem decode_until_settled {codec : Codec}
    (limited : (Number.finite 0).le codec.maxSize = true) (buffer : Buffer) :
    (codec.decode buffer).2.bytes <:+ buffer.bytes ∧
      (codec.decode buffer).1.Accounts buffer.size (codec.decode buffer).2.size ∧
      ∃ count ≤ buffer.size,
        (∀ earlier < count, (codec.foundAfter earlier buffer).isPending = false) ∧
        (codec.foundAfter count buffer).isPending = true ∧
        codec.drain buffer =
          ((List.range (count + 1)).map fun earlier => codec.foundAfter earlier buffer,
            codec.leftAfter (count + 1) buffer) ∧
        codec.IsSettled (codec.leftAfter (count + 1) buffer) ∧
        codec.decode (codec.leftAfter (count + 1) buffer) =
          (.pending 0, codec.leftAfter (count + 1) buffer) := by
  refine ⟨codec.isSuffix_decode buffer, codec.accounts_decode buffer, ?_⟩
  -- Each decoding that finds something leaves a smaller buffer, of which the rest holds.
  induction size : buffer.size using Nat.strong_induction_on generalizing buffer with
  | _ size induction =>
      subst size
      cases waits : (codec.decode buffer).1.isPending with
      | true =>
          rcases exists_reception_of_pending waits with ⟨last, left, clean, small⟩
          have rest : codec.leftAfter 1 buffer = ⟨last.bytes⟩ := congrArg Buffer.mk left
          refine ⟨0, Nat.zero_le _, fun _ none => absurd none (Nat.not_lt_zero _), waits, ?_, ?_,
            ?_⟩
          · rw [drain_eq, if_pos waits]
            rfl
          · rw [rest]
            exact isSettled_bytes limited clean small
          · rw [rest]
            exact decode_bytes clean small
      | false =>
          have shrinks := decode_shrinks waits
          rcases induction _ shrinks _ rfl with ⟨count, few, earlier, last, drained, settled⟩
          refine ⟨count + 1, by omega, ?_, last, ?_, settled⟩
          · intro before less
            cases before with
            | zero => exact waits
            | succ before => exact earlier before (by omega)
          · rw [drain_eq, if_neg (by simp [waits]), drained, @List.range_succ_eq_map (count + 1),
              List.map_cons, List.map_map]
            rfl

/-- Noise, a frame without payload, and the beginning of one that just keeps within the limit. -/
def beginning : Buffer :=
  ⟨[0x30, startByte, 0x30, endByte, startByte, 0x31, 0x32]⟩

theorem decode_until_settled_beginning :
    let codec := Codec.mk .xor8 (.finite 3)
    (Number.finite 0).le codec.maxSize = true ∧ (codec.foundAfter 0 beginning).isPending = false ∧
      ∃ count ≤ 7, (codec.foundAfter count beginning).isPending = true ∧
        codec.IsSettled (codec.leftAfter (count + 1) beginning) ∧
        (codec.leftAfter (count + 1) beginning).bytes = [startByte, 0x31, 0x32] := by
  intro codec
  have limited : (Number.finite 0).le codec.maxSize = true := by decide
  rcases decode_until_settled limited beginning with
    ⟨-, -, count, few, -, waits, drained, settled, -⟩
  have left : (codec.drain beginning).2.bytes = [startByte, 0x31, 0x32] := by decide +kernel
  rw [drained] at left
  exact ⟨limited, by decide +kernel, count, few, waits, settled, left⟩

end Codec

end Gatehouse.Frame
