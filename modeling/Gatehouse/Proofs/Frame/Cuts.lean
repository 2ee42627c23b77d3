import Gatehouse.Proofs.Frame.Noise
import Mathlib.Data.List.Infix

/-!
# Streams within the limit

On a stream without overlong runs nothing is ever dropped for its size. What decoding finds in the
beginning of such a stream it finds in the whole (`decode_append`), so draining a stream in two
pieces finds what draining it at once does; only the bytes that were dropped before the cut are
counted earlier (`drain_append`).
-/

namespace Gatehouse.Frame

/-- The bytes from a start byte up to the next marker or the end, when some bytes follow the start
byte. An end byte belongs to them, another start byte does not. -/
def runLength (rest : Bytes) : Nat :=
  1 + (rest.takeWhile (!isMarker ·)).length +
    if (rest.dropWhile (!isMarker ·)).head? = some endByte then 1 else 0

def Decoded.skipping (more : Nat) : Decoded → Decoded
  | .pending skipped => .pending (skipped + more)
  | .frame message size skipped => .frame message size (skipped + more)
  | .failed fault skipped => .failed fault (skipped + more)

def skippingFirst (more : Nat) : List Decoded → List Decoded
  | [] => []
  | first :: rest => first.skipping more :: rest

@[simp] theorem Decoded.skipping_zero (decoded : Decoded) : decoded.skipping 0 = decoded := by
  cases decoded <;> rfl

@[simp] theorem Decoded.isPending_skipping (decoded : Decoded) (more : Nat) :
    (decoded.skipping more).isPending = decoded.isPending := by
  cases decoded <;> rfl

theorem runLength_unmarked_append {body rest : Bytes} (unmarked : IsUnmarked body) :
    runLength (body ++ rest) = body.length + runLength rest := by
  simp only [runLength, takeWhile_unmarked_append unmarked, dropWhile_unmarked_append unmarked,
    List.length_append]
  omega

theorem runLength_le_append (rest more : Bytes) : runLength rest ≤ runLength (rest ++ more) := by
  induction rest with
  | nil =>
      simp only [runLength, List.nil_append, List.takeWhile_nil, List.dropWhile_nil, List.head?_nil,
        reduceCtorEq, if_false, List.length_nil]
      omega
  | cons byte rest induction =>
      cases marked : isMarker byte with
      | true => simp [runLength, marked]
      | false =>
          have alone : IsUnmarked [byte] := isUnmarked_cons.mpr ⟨marked, isUnmarked_nil⟩
          have left : runLength ([byte] ++ rest) = _ := runLength_unmarked_append alone
          have right : runLength ([byte] ++ (rest ++ more)) = _ := runLength_unmarked_append alone
          simp only [List.cons_append, List.nil_append] at left right ⊢
          omega

namespace Codec

/-- No run of a stream from a start byte is larger than the link allows. -/
def KeepsWithin (codec : Codec) (stream : Bytes) : Prop :=
  ∀ before rest, stream = before ++ startByte :: rest → codec.exceeds (runLength rest) = false

instance (codec : Codec) (stream : Bytes) : Decidable (codec.KeepsWithin stream) :=
  decidable_of_iff
    (∀ tail ∈ stream.tails, tail.head? = some startByte →
      codec.exceeds (runLength tail.tail) = false) <| by
    constructor
    · rintro within before rest rfl
      exact within _ ((List.mem_tails _ _).mpr (List.suffix_append before _)) rfl
    · rintro within tail suffix starts
      rcases (List.mem_tails _ _).mp suffix with ⟨before, rfl⟩
      cases tail with
      | nil => cases starts
      | cons byte rest =>
          cases starts
          exact within before rest rfl

variable {codec : Codec}

theorem KeepsWithin.of_append_right {front back : Bytes}
    (within : codec.KeepsWithin (front ++ back)) : codec.KeepsWithin back := by
  rintro before rest rfl
  exact within (front ++ before) rest (by simp)

theorem not_exceeds_of_le {size larger : Nat} (within : codec.exceeds larger = false)
    (le : size ≤ larger) : codec.exceeds size = false := by
  cases large : codec.exceeds size with
  | false => rfl
  | true => exact (exceeds_mono large le).symm.trans within

theorem KeepsWithin.of_append_left {front back : Bytes}
    (within : codec.KeepsWithin (front ++ back)) : codec.KeepsWithin front := by
  rintro before rest rfl
  have longer := within before (rest ++ back) (by simp)
  exact not_exceeds_of_le longer (runLength_le_append rest back)

theorem KeepsWithin.unfinished {body : Bytes} (unmarked : IsUnmarked body)
    (within : codec.KeepsWithin (startByte :: body)) : codec.exceeds (body.length + 1) = false := by
  have run := within [] body rfl
  rw [← List.append_nil body, runLength_unmarked_append unmarked] at run
  exact not_exceeds_of_le run (by simp [runLength])

theorem KeepsWithin.finished {body rest : Bytes} (unmarked : IsUnmarked body)
    (within : codec.KeepsWithin (startByte :: body ++ endByte :: rest)) :
    codec.exceeds (body.length + 2) = false := by
  have run := within [] (body ++ endByte :: rest) rfl
  rw [runLength_unmarked_append unmarked] at run
  exact not_exceeds_of_le run (by simp [runLength])

theorem receive_skipping (codec : Codec) (skipped more : Nat) (state : Reception)
    (bytes : Bytes) :
    codec.receive (skipped + more) state bytes =
      ((codec.receive skipped state bytes).1.skipping more,
        (codec.receive skipped state bytes).2) := by
  have body (codec : Codec) (skipped : Nat) (body : Bytes) :
      codec.decodeBody body (skipped + more) = (codec.decodeBody body skipped).skipping more := by
    simp only [decodeBody]
    split <;> rfl
  fun_induction receive codec skipped state bytes with
  | case1 => rfl
  | case2 skipped rest induction => simpa [receive] using induction
  | case3 skipped byte rest plain induction =>
      have account : skipped + more + 1 = skipped + 1 + more := by omega
      simpa [receive, plain, account] using induction
  | case4 skipped held =>
      simp only [receive, unfinished]
      split <;> rfl
  | case5 skipped held rest induction =>
      have account : skipped + more + 1 + held.length = skipped + 1 + held.length + more := by omega
      simpa [receive, account] using induction
  | case6 skipped held rest other =>
      simp only [receive, other, if_false, if_true, finished]
      split
      · rfl
      · rw [body]
  | case7 skipped held byte rest noStart noEnd induction =>
      simpa [receive, noStart, noEnd] using induction

theorem receive_hunting_bytes {state : Reception} (clean : state.IsClean) (skipped : Nat)
    (bytes : Bytes) :
    codec.receive skipped .hunting (state.bytes ++ bytes) = codec.receive skipped state bytes := by
  cases state with
  | hunting => rfl
  | inside held =>
      have held_back := codec.receive_unmarked skipped [] (isUnmarked_reverse.mpr clean) bytes
      simpa [Reception.bytes, receive] using held_back

/-- A result within the limit stays as it is when more bytes follow. Where bytes were left to wait,
the others join them. -/
theorem receive_append (skipped : Nat) {state : Reception} (clean : state.IsClean)
    {bytes : Bytes} (within : codec.KeepsWithin (state.bytes ++ bytes)) (more : Bytes) :
    codec.receive skipped state (bytes ++ more) =
      if (codec.receive skipped state bytes).1.isPending then
        codec.receive (codec.receive skipped state bytes).1.skipped .hunting
          ((codec.receive skipped state bytes).2 ++ more)
      else
        ((codec.receive skipped state bytes).1, (codec.receive skipped state bytes).2 ++ more) := by
  fun_induction receive codec skipped state bytes with
  | case1 skipped => rfl
  | case2 skipped rest induction => simpa [receive] using induction isUnmarked_nil within
  | case3 skipped byte rest plain induction =>
      have later : codec.KeepsWithin ([byte] ++ rest) := within
      simpa [receive, plain] using induction trivial later.of_append_right
  | case4 skipped held =>
      have unmarked : IsUnmarked held.reverse := isUnmarked_reverse.mpr clean
      have small := within.of_append_left.unfinished unmarked
      rw [List.length_reverse] at small
      have held_back := @receive_hunting_bytes codec _ clean skipped more
      simp only [Reception.bytes, List.cons_append] at held_back
      simpa [unfinished, small, Decoded.isPending, Decoded.skipped] using held_back.symm
  | case5 skipped held rest induction =>
      simpa [receive] using induction isUnmarked_nil within.of_append_right
  | case6 skipped held rest other =>
      have unmarked : IsUnmarked held.reverse := isUnmarked_reverse.mpr clean
      have small := within.finished unmarked
      rw [List.length_reverse] at small
      simp [receive, other, finished, small, isPending_decodeBody]
  | case7 skipped held byte rest noStart noEnd induction =>
      have unmarked : IsUnmarked (byte :: held) :=
        isUnmarked_cons.mpr ⟨isMarker_eq_false_iff.mpr ⟨noStart, noEnd⟩, clean⟩
      simpa [receive, noStart, noEnd] using
        induction unmarked (by simpa [Reception.bytes] using within)

theorem decode_append {buffer : Buffer} (within : codec.KeepsWithin buffer.bytes)
    (chunk : Bytes) :
    codec.decode (buffer.append chunk) =
      if (codec.decode buffer).1.isPending then
        ((codec.decode ((codec.decode buffer).2.append chunk)).1.skipping
            (codec.decode buffer).1.skipped,
          (codec.decode ((codec.decode buffer).2.append chunk)).2)
      else ((codec.decode buffer).1, (codec.decode buffer).2.append chunk) := by
  have clean : Reception.IsClean .hunting := trivial
  have joined := receive_append 0 clean within chunk
  have later := codec.receive_skipping 0 (codec.receive 0 .hunting buffer.bytes).1.skipped
    .hunting ((codec.receive 0 .hunting buffer.bytes).2 ++ chunk)
  rw [Nat.zero_add] at later
  cases waits : (codec.receive 0 .hunting buffer.bytes).1.isPending with
  | true =>
      rw [waits, if_pos rfl, later] at joined
      simp [decode, joined, waits]
  | false =>
      rw [waits, if_neg Bool.false_ne_true] at joined
      simp [decode, joined, waits, Buffer.append]

theorem isSuffix_receive (codec : Codec) (skipped : Nat) (state : Reception) (bytes : Bytes) :
    (codec.receive skipped state bytes).2 <:+ state.bytes ++ bytes := by
  fun_induction receive codec skipped state bytes with
  | case1 => exact List.nil_suffix
  | case2 skipped rest induction => exact induction
  | case3 skipped byte rest plain induction => exact induction.trans (List.suffix_cons byte rest)
  | case4 skipped held =>
      rw [unfinished]
      split
      · exact List.nil_suffix
      · simp [Reception.bytes]
  | case5 skipped held rest induction =>
      exact induction.trans (List.suffix_append _ _)
  | case6 skipped held rest other =>
      have behind : rest <:+ (Reception.inside held).bytes ++ endByte :: rest :=
        (List.suffix_cons endByte rest).trans (List.suffix_append _ _)
      rw [finished]
      split
      · exact (List.dropWhile_suffix _).trans behind
      · exact behind
  | case7 skipped held byte rest noStart noEnd induction =>
      simpa [Reception.bytes] using induction

theorem KeepsWithin.of_suffix {stream back : Bytes} (within : codec.KeepsWithin stream)
    (suffix : back <:+ stream) : codec.KeepsWithin back := by
  rcases suffix with ⟨front, rfl⟩
  exact within.of_append_right

theorem KeepsWithin.decode {buffer : Buffer} (within : codec.KeepsWithin buffer.bytes) :
    codec.KeepsWithin (codec.decode buffer).2.bytes :=
  within.of_suffix (codec.isSuffix_receive 0 .hunting buffer.bytes)

/-- Draining a buffer and then what is left with a chunk behind it finds what draining both at once
does. -/
theorem drain_append {buffer : Buffer} (within : codec.KeepsWithin buffer.bytes)
    (chunk : Bytes) :
    ∃ found skipped, (codec.drain buffer).1 = found ++ [.pending skipped] ∧
      codec.drain (buffer.append chunk) =
        (found ++ skippingFirst skipped (codec.drain ((codec.drain buffer).2.append chunk)).1,
          (codec.drain ((codec.drain buffer).2.append chunk)).2) := by
  induction size : buffer.size using Nat.strong_induction_on generalizing buffer with
  | _ size induction =>
      subst size
      have joined := decode_append within chunk
      cases waits : (codec.decode buffer).1.isPending with
      | true =>
          rw [waits, if_pos rfl] at joined
          have pending : (codec.decode buffer).1 = .pending (codec.decode buffer).1.skipped := by
            cases found : (codec.decode buffer).1 with
            | pending skipped => rfl
            | _ => simp [found, Decoded.isPending] at waits
          refine ⟨[], (codec.decode buffer).1.skipped, ?_, ?_⟩
          · rw [drain_eq, waits, if_pos rfl, List.nil_append, ← pending]
          · have left : (codec.drain buffer).2 = (codec.decode buffer).2 := by
              rw [drain_eq, waits, if_pos rfl]
            rw [drain_eq codec (buffer.append chunk), joined, left,
              drain_eq codec ((codec.decode buffer).2.append chunk), Decoded.isPending_skipping]
            split <;> rfl
      | false =>
          rw [waits, if_neg Bool.false_ne_true] at joined
          rcases induction _ (decode_shrinks waits) within.decode rfl with
            ⟨found, skipped, drained, whole⟩
          have first : codec.drain buffer =
              ((codec.decode buffer).1 :: (codec.drain (codec.decode buffer).2).1,
                (codec.drain (codec.decode buffer).2).2) := by
            rw [drain_eq, waits, if_neg Bool.false_ne_true]
          refine ⟨(codec.decode buffer).1 :: found, skipped, ?_, ?_⟩
          · rw [first, drained, List.cons_append]
          · rw [drain_eq codec (buffer.append chunk), joined, waits, if_neg Bool.false_ne_true,
              whole, first, List.cons_append]

theorem drain_ne_nil (codec : Codec) (buffer : Buffer) : (codec.drain buffer).1 ≠ [] := by
  rw [drain_eq]
  split <;> exact List.cons_ne_nil _ _

theorem isSuffix_drain (codec : Codec) (buffer : Buffer) :
    (codec.drain buffer).2.bytes <:+ buffer.bytes := by
  induction size : buffer.size using Nat.strong_induction_on generalizing buffer with
  | _ size induction =>
      subst size
      have waiting : (codec.decode buffer).2.bytes <:+ buffer.bytes :=
        codec.isSuffix_receive 0 .hunting buffer.bytes
      rw [drain_eq]
      split
      · exact waiting
      · next found =>
          exact (induction _ (decode_shrinks (by simpa using found)) _ rfl).trans waiting

end Codec

end Gatehouse.Frame
