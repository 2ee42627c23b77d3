import Gatehouse.Proofs.Frame.Segments
import Gatehouse.Proofs.Message.Written

/-!
# Draining a buffer

`Received` says everything that one step of decoding can do, with an account of the bytes. From it
follow that a step which finds something leaves fewer bytes (`decode_shrinks`), that draining is
decoding until nothing more is found (`drain_eq`), and what draining reports and leaves in terms of
a walk over the buffer (`reports_drain`, `bytes_drain`).

A receiver appends each chunk to its buffer and drains it. Between chunks the buffer holds the bytes
from which the receiver comes to stand where it stands, so where the stream was cut does not show in
what it reports (`drainEach_spec`): the reports are those of the segments of the whole stream.
-/

namespace Gatehouse.Frame

/-- What a result of decoding tells of a frame within the limit: its message and size, or why it is
refused. -/
def Decoded.report? : Decoded → Option (Except Fault (Message × Nat))
  | .pending _ => none
  | .frame message size _ => some (.ok (message, size))
  | .failed (.frameTooLarge ..) _ => none
  | .failed fault _ => some (.error fault)

@[simp] theorem Decoded.report?_pending (skipped : Nat) : (pending skipped).report? = none := rfl

@[simp] theorem Decoded.report?_frame (message : Message) (size skipped : Nat) :
    (frame message size skipped).report? = some (.ok (message, size)) := rfl

@[simp] theorem Decoded.report?_tooLarge (size skipped : Nat) (limit : Number) :
    (failed (.frameTooLarge size limit) skipped).report? = none := rfl

/-- Whether decoding found nothing more. -/
def Decoded.isPending : Decoded → Bool
  | .pending _ => true
  | _ => false

namespace Codec

/-- Whether a body makes a frame within the limit. -/
def fits (codec : Codec) (body : Bytes) : Bool :=
  !codec.exceeds (body.length + 2)

/-- What a segment within the limit amounts to, read on its own. -/
def readSegment (codec : Codec) (body : Bytes) : Except Fault (Message × Nat) :=
  (codec.readBody body).map fun message => (message, body.length + 2)

/-- Where a receiver stands when what it holds is dropped if it is too much already. -/
def kept (codec : Codec) : Reception → Reception
  | .hunting => .hunting
  | .inside held => if codec.exceeds (held.length + 1) then .hunting else .inside held

/-- What one step of decoding can do from where a receiver stands, when `total` bytes have been
seen or are still to come. Each case accounts for all of them. -/
inductive Received (codec : Codec) (state : Reception) (bytes : Bytes) (total : Nat) :
    Decoded → Bytes → Prop
  | waiting (last : Reception) (skipped : Nat) (walk : scan state bytes = ([], last))
      (small : codec.kept last = last) (account : skipped + last.bytes.length = total) :
      Received codec state bytes total (.pending skipped) last.bytes
  | overrun (held : Bytes) (skipped : Nat) (walk : scan state bytes = ([], .inside held))
      (large : codec.exceeds (held.length + 1)) (account : skipped + (held.length + 1) = total) :
      Received codec state bytes total
        (.failed (.frameTooLarge (held.length + 1) codec.maxSize) skipped) []
  | oversized (body rest : Bytes) (skipped : Nat)
      (walk : scan state bytes = (body :: (scan .hunting rest).1, (scan .hunting rest).2))
      (large : codec.fits body = false)
      (account : skipped + (body.length + 2) + rest.length = total) :
      Received codec state bytes total
        (.failed (.frameTooLarge (body.length + 2) codec.maxSize) skipped)
        (rest.dropWhile (· != startByte))
  | complete (body rest : Bytes) (skipped : Nat)
      (walk : scan state bytes = (body :: (scan .hunting rest).1, (scan .hunting rest).2))
      (small : codec.fits body = true)
      (account : skipped + (body.length + 2) + rest.length = total) :
      Received codec state bytes total (codec.decodeBody body skipped) rest

/-- Where the walk over some bytes is that over others, so is what a step can do. -/
theorem Received.of_walk {codec : Codec} {state next : Reception} {bytes rest : Bytes}
    {total : Nat} {decoded : Decoded} {left : Bytes}
    (received : Received codec next rest total decoded left)
    (walk : scan state bytes = scan next rest) :
    Received codec state bytes total decoded left := by
  cases received with
  | waiting last skipped found small account =>
      exact .waiting last skipped (walk.trans found) small account
  | overrun held skipped found large account =>
      exact .overrun held skipped (walk.trans found) large account
  | oversized body tail skipped found large account =>
      exact .oversized body tail skipped (walk.trans found) large account
  | complete body _ skipped found small account =>
      exact .complete body left skipped (walk.trans found) small account

theorem received_unfinished (codec : Codec) (skipped : Nat) (held : Bytes) :
    Received codec (.inside held) [] (skipped + (held.length + 1))
      (codec.unfinished skipped held).1 (codec.unfinished skipped held).2 := by
  unfold unfinished
  split
  · next large => exact .overrun held skipped rfl large rfl
  · next small =>
      exact .waiting (.inside held) skipped rfl (by simp [kept, small])
        (by simp [Reception.bytes])

theorem received_finished (codec : Codec) (skipped : Nat) (held rest : Bytes) :
    Received codec (.inside held) (endByte :: rest) (skipped + (held.length + 2) + rest.length)
      (codec.finished skipped held rest).1 (codec.finished skipped held rest).2 := by
  have walk : scan (.inside held) (endByte :: rest) =
      (held.reverse :: (scan .hunting rest).1, (scan .hunting rest).2) := by
    simp [scan, startByte_ne_endByte.symm]
  unfold finished
  split
  · next large =>
      have outcome : Received codec (.inside held) (endByte :: rest) _ _ _ :=
        .oversized held.reverse rest skipped walk
        (by simp [fits, large]) rfl
      simpa using outcome
  · next small =>
      have outcome : Received codec (.inside held) (endByte :: rest) _ _ _ :=
        .complete held.reverse rest skipped walk
        (by simp [fits, small]) rfl
      simpa using outcome

theorem received_receive (codec : Codec) (skipped : Nat) (state : Reception) (bytes : Bytes) :
    Received codec state bytes (skipped + state.bytes.length + bytes.length)
      (codec.receive skipped state bytes).1 (codec.receive skipped state bytes).2 := by
  -- One case for each kind of byte, outside and inside a frame, and one for the end of each.
  fun_induction receive codec skipped state bytes with
  | case1 skipped => exact .waiting .hunting skipped rfl rfl rfl
  | case2 skipped rest induction =>
      have total : skipped + Reception.hunting.bytes.length + (startByte :: rest).length =
          skipped + (Reception.inside []).bytes.length + rest.length := by
        simp [Reception.bytes]; omega
      exact total ▸ induction.of_walk (by simp [scan])
  | case3 skipped byte rest plain induction =>
      have total : skipped + Reception.hunting.bytes.length + (byte :: rest).length =
          skipped + 1 + Reception.hunting.bytes.length + rest.length := by
        simp; omega
      exact total ▸ induction.of_walk (by simp [scan, plain])
  | case4 skipped held =>
      simpa [Reception.bytes] using codec.received_unfinished skipped held
  | case5 skipped held rest induction =>
      have total : skipped + (Reception.inside held).bytes.length + (startByte :: rest).length =
          skipped + 1 + held.length + (Reception.inside []).bytes.length + rest.length := by
        simp [Reception.bytes]; omega
      exact total ▸ induction.of_walk (by simp [scan])
  | case6 skipped held rest _ =>
      have total : skipped + (Reception.inside held).bytes.length + (endByte :: rest).length =
          skipped + (held.length + 2) + rest.length := by
        simp [Reception.bytes]; omega
      exact total ▸ codec.received_finished skipped held rest
  | case7 skipped held byte rest noStart noEnd induction =>
      have total : skipped + (Reception.inside held).bytes.length + (byte :: rest).length =
          skipped + (Reception.inside (byte :: held)).bytes.length + rest.length := by
        simp [Reception.bytes]; omega
      exact total ▸ induction.of_walk (by simp [scan, noStart, noEnd])

theorem received_decode (codec : Codec) (buffer : Buffer) :
    Received codec .hunting buffer.bytes buffer.size
      (codec.decode buffer).1 (codec.decode buffer).2.bytes := by
  simpa [Reception.bytes, Buffer.size, decode] using
    codec.received_receive 0 .hunting buffer.bytes

theorem decode_shrinks {codec : Codec} {buffer : Buffer}
    (found : (codec.decode buffer).1.isPending = false) :
    (codec.decode buffer).2.size < buffer.size := by
  have received := codec.received_decode buffer
  generalize (codec.decode buffer).1 = decoded at found received
  unfold Buffer.size at received ⊢
  generalize (codec.decode buffer).2.bytes = left at received ⊢
  cases received with
  | waiting => simp [Decoded.isPending] at found
  | overrun held skipped walk large account => simp only [List.length_nil]; omega
  | oversized body rest skipped walk large account =>
      have := (List.dropWhile_sublist (· != startByte) (l := rest)).length_le
      omega
  | complete body rest skipped walk small account => omega

theorem drainWithin_succ (codec : Codec) (budget : Nat) (buffer : Buffer) :
    codec.drainWithin (budget + 1) buffer =
      if (codec.decode buffer).1.isPending then
        ([(codec.decode buffer).1], (codec.decode buffer).2)
      else
        ((codec.decode buffer).1 :: (codec.drainWithin budget (codec.decode buffer).2).1,
          (codec.drainWithin budget (codec.decode buffer).2).2) := by
  rcases step : codec.decode buffer with ⟨decoded, left⟩
  cases decoded <;> simp [drainWithin, step, Decoded.isPending]

theorem drainWithin_eq_of_lt (codec : Codec) {first second : Nat} {buffer : Buffer}
    (enough : buffer.size < first) (alsoEnough : buffer.size < second) :
    codec.drainWithin first buffer = codec.drainWithin second buffer := by
  -- Both numbers go down together, and the buffer goes down with them.
  induction first generalizing second buffer with
  | zero => omega
  | succ first induction =>
      cases second with
      | zero => omega
      | succ second =>
          rw [drainWithin_succ, drainWithin_succ]
          cases found : (codec.decode buffer).1.isPending with
          | true => rfl
          | false =>
              have shrinks := decode_shrinks found
              have same : codec.drainWithin first (codec.decode buffer).2 =
                  codec.drainWithin second (codec.decode buffer).2 :=
                induction (by omega) (by omega)
              rw [same]

theorem drain_eq (codec : Codec) (buffer : Buffer) :
    codec.drain buffer =
      if (codec.decode buffer).1.isPending then
        ([(codec.decode buffer).1], (codec.decode buffer).2)
      else
        ((codec.decode buffer).1 :: (codec.drain (codec.decode buffer).2).1,
          (codec.drain (codec.decode buffer).2).2) := by
  rw [drain, drainWithin_succ]
  cases found : (codec.decode buffer).1.isPending with
  | true => rfl
  | false =>
      have shrinks := decode_shrinks found
      have same : codec.drainWithin buffer.size (codec.decode buffer).2 =
          codec.drainWithin ((codec.decode buffer).2.size + 1) (codec.decode buffer).2 :=
        drainWithin_eq_of_lt codec (by omega) (by omega)
      rw [drain, same]

theorem exceeds_mono {codec : Codec} {size larger : Nat} (exceeds : codec.exceeds size)
    (le : size ≤ larger) : codec.exceeds larger := by
  unfold Codec.exceeds at exceeds ⊢
  cases limit : codec.maxSize with
  | nan => simp [limit, Number.lt] at exceeds
  | infinite negative => simpa [limit, Number.lt, Number.ofNat] using exceeds
  | finite value =>
      simp only [limit, Number.ofNat, Number.lt_finite, decide_eq_true_eq] at exceeds ⊢
      exact Rat.not_le.mp fun within =>
        Rat.not_lt.mpr (Rat.le_trans (Rat.natCast_le_natCast.mpr le) within) exceeds

/-- Dropping what stands in front of the next start byte changes nothing for a receiver that looks
for one. -/
theorem scan_hunting_dropWhile (bytes : Bytes) :
    scan .hunting (bytes.dropWhile (· != startByte)) = scan .hunting bytes := by
  induction bytes with
  | nil => rfl
  | cons byte rest induction =>
      by_cases opening : byte = startByte
      · simp [opening]
      · simpa [scan, opening] using induction

/-- A receiver that has dropped too large a frame unfinished finds the same frames within the limit
as one that goes on with it. -/
theorem scan_hunting_of_exceeds {codec : Codec} {held : Bytes}
    (large : codec.exceeds (held.length + 1)) (bytes : Bytes) :
    (scan .hunting bytes).1.filter codec.fits = (scan (.inside held) bytes).1.filter codec.fits ∧
      codec.kept (scan .hunting bytes).2 = codec.kept (scan (.inside held) bytes).2 := by
  induction bytes generalizing held with
  | nil => simp [scan, kept, large]
  | cons byte rest induction =>
      by_cases opening : byte = startByte
      · simp [scan, opening]
      · by_cases closing : byte = endByte
        · have refused : codec.fits held.reverse = false := by
            simp [fits, exceeds_mono large (Nat.le_succ _)]
          simp [scan, closing, startByte_ne_endByte.symm, refused]
        · have larger : codec.exceeds ((byte :: held).length + 1) :=
            exceeds_mono large (by simp)
          simpa [scan, opening, closing] using induction larger

theorem scan_kept (codec : Codec) (state : Reception) (bytes : Bytes) :
    (scan (codec.kept state) bytes).1.filter codec.fits = (scan state bytes).1.filter codec.fits ∧
      codec.kept (scan (codec.kept state) bytes).2 = codec.kept (scan state bytes).2 := by
  cases state with
  | hunting => exact ⟨rfl, rfl⟩
  | inside held =>
      by_cases large : codec.exceeds (held.length + 1)
      · simpa [kept, large] using scan_hunting_of_exceeds large bytes
      · simp [kept, large]

theorem isClean_kept {codec : Codec} {state : Reception} (clean : state.IsClean) :
    (codec.kept state).IsClean := by
  cases state with
  | hunting => trivial
  | inside held =>
      by_cases large : codec.exceeds (held.length + 1)
      · simp [kept, large, Reception.IsClean]
      · simpa [kept, large] using clean

/-- A walk over the bytes that are held leads back to where the receiver stands. -/
theorem scan_hunting_bytes {state : Reception} (clean : state.IsClean) (bytes : Bytes) :
    scan .hunting (state.bytes ++ bytes) = scan state bytes := by
  cases state with
  | hunting => rfl
  | inside held =>
      simpa [Reception.bytes, scan] using
        scan_inside_unmarked [] (isUnmarked_reverse.mpr clean) bytes

theorem isModest_readBody (codec : Codec) (body : Bytes) : IsModest (codec.readBody body) := by
  simp only [Codec.readBody]
  split
  · simp [IsModest]
  · split
    · split
      · exact Message.isModest_read _
      · simp [IsModest]
    · simp [IsModest]

/-- A frame within the limit is reported as what its segment amounts to on its own. -/
theorem report?_decodeBody (codec : Codec) (body : Bytes) (skipped : Nat) :
    (codec.decodeBody body skipped).report? = some (codec.readSegment body) := by
  have modest := codec.isModest_readBody body
  unfold decodeBody readSegment
  cases outcome : codec.readBody body with
  | ok message => rfl
  | error fault =>
      cases fault
      case frameTooLarge size limit => exact absurd outcome (modest size limit)
      all_goals rfl

theorem isPending_decodeBody (codec : Codec) (body : Bytes) (skipped : Nat) :
    (codec.decodeBody body skipped).isPending = false := by
  unfold decodeBody
  split <;> rfl

/-- The reports of draining a buffer are those of the segments in it that are within the limit; what
is left is what a receiver that walked over it still holds, unless that is too much. -/
theorem drain_spec (codec : Codec) (buffer : Buffer) :
    (codec.drain buffer).1.filterMap Decoded.report? =
        ((scan .hunting buffer.bytes).1.filter codec.fits).map codec.readSegment ∧
      (codec.drain buffer).2.bytes = (codec.kept (scan .hunting buffer.bytes).2).bytes := by
  induction size : buffer.size using Nat.strong_induction_on generalizing buffer with
  | _ size induction =>
      subst size
      have received := codec.received_decode buffer
      have shrinks : (codec.decode buffer).1.isPending = false →
          (codec.decode buffer).2.size < buffer.size := decode_shrinks
      rw [drain_eq]
      generalize codec.decode buffer = result at received shrinks ⊢
      rcases result with ⟨decoded, left⟩
      dsimp only at received shrinks ⊢
      generalize bytes : left.bytes = rest at received
      cases received with
      | waiting last skipped walk small account =>
          simp [Decoded.isPending, walk, small, bytes]
      | overrun held skipped walk large account =>
          have later := induction left.size (shrinks rfl) left rfl
          rw [bytes] at later
          simpa [Decoded.isPending, walk, kept, large, scan] using later
      | oversized body tail skipped walk large account =>
          have later := induction left.size (shrinks rfl) left rfl
          rw [bytes, scan_hunting_dropWhile] at later
          rw [if_neg (by simp [Decoded.isPending]),
            List.filterMap_cons_none (Decoded.report?_tooLarge _ _ _)]
          simpa [walk, large] using later
      | complete body _ skipped walk small account =>
          have later := induction left.size (shrinks (isPending_decodeBody _ _ _)) left rfl
          rw [bytes] at later
          simpa [isPending_decodeBody, report?_decodeBody, walk, small] using later

/-- Appends chunks one after another, draining the buffer after each. -/
def drainEach (codec : Codec) (buffer : Buffer) : List Bytes → List Decoded × Buffer
  | [] => ([], buffer)
  | chunk :: rest =>
      let (first, left) := codec.drain (buffer.append chunk)
      let (more, last) := codec.drainEach left rest
      (first ++ more, last)

theorem drainEach_concat (codec : Codec) (buffer : Buffer) (chunks : List Bytes) (chunk : Bytes) :
    codec.drainEach buffer (chunks ++ [chunk]) =
      ((codec.drainEach buffer chunks).1 ++
          (codec.drain ((codec.drainEach buffer chunks).2.append chunk)).1,
        (codec.drain ((codec.drainEach buffer chunks).2.append chunk)).2) := by
  induction chunks generalizing buffer with
  | nil => simp [drainEach]
  | cons first rest induction => simp [drainEach, induction]

/-- A receiver that stands somewhere, and whose buffer holds just what that takes, reports what a
walk from there over all chunks finds within the limit. -/
theorem drainEach_spec (codec : Codec) {state : Reception} (clean : state.IsClean)
    {buffer : Buffer} (holds : buffer.bytes = (codec.kept state).bytes) (chunks : List Bytes) :
    (codec.drainEach buffer chunks).1.filterMap Decoded.report? =
        ((scan state chunks.flatten).1.filter codec.fits).map codec.readSegment ∧
      (codec.drainEach buffer chunks).2.bytes =
        (codec.kept (scan state chunks.flatten).2).bytes := by
  -- The later chunks are walked from where the first one leads, so the state must be any.
  induction chunks generalizing state buffer with
  | nil => simp [drainEach, scan, holds]
  | cons chunk rest induction =>
      have walk : scan .hunting (buffer.append chunk).bytes = scan (codec.kept state) chunk := by
        rw [Buffer.bytes_append, holds, scan_hunting_bytes (isClean_kept clean)]
      rcases codec.drain_spec (buffer.append chunk) with ⟨reports, left⟩
      rcases codec.scan_kept state chunk with ⟨sameBodies, sameStand⟩
      rw [walk, sameBodies] at reports
      rw [walk, sameStand] at left
      rcases induction (isClean_scan clean chunk) left with ⟨laterReports, last⟩
      simp only [drainEach, List.flatten_cons, scan_append, List.filter_append, List.map_append,
        List.filterMap_append, reports, laterReports, last, and_self]

/-- However a stream is cut into chunks, draining after each chunk reports the same frames and
refusals as draining the whole stream at once. These are, in the order of the stream, what its
segments within the size limit amount to when each is read on its own. -/
theorem reports_drainEach (codec : Codec) (chunks : List Bytes) :
    (codec.drainEach .empty chunks).1.filterMap Decoded.report? =
        (codec.drain (Buffer.empty.append chunks.flatten)).1.filterMap Decoded.report? ∧
      (codec.drain (Buffer.empty.append chunks.flatten)).1.filterMap Decoded.report? =
        ((segments chunks.flatten).filter codec.fits).map codec.readSegment := by
  have clean : Reception.IsClean .hunting := trivial
  have inPieces := (codec.drainEach_spec clean rfl chunks).1
  have atOnce := (codec.drain_spec (Buffer.empty.append chunks.flatten)).1
  have found : (scan .hunting chunks.flatten).1 = segments chunks.flatten :=
    scan_eq_segments (show Reception.IsClean .hunting from trivial) chunks.flatten
  rw [found] at inPieces
  have bytes : (Buffer.empty.append chunks.flatten).bytes = chunks.flatten := rfl
  rw [bytes, found] at atOnce
  exact ⟨inPieces.trans atOnce.symm, atOnce⟩

end Codec

end Gatehouse.Frame
