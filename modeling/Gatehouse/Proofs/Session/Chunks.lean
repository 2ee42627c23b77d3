import Gatehouse.Frame.Codec
import Gatehouse.Proofs.Frame.Cuts
import Gatehouse.Proofs.Frame.Drain
import Gatehouse.Proofs.Session.Books
import Mathlib.Order.Lattice

/-!
# Sessions and the chunks that reach them

What a session takes in depends on the bytes and not on the chunks in which they come, as long as no
frame in them is too large (`takeAll_drainEach`). What is dropped before a cut is only counted
earlier. The bytes that wait, and all that belongs to answers, have no part in it (`takeAll_bare`).
A session closes itself, once, where too many frames are refused in a row (`takeAll_closes`).

A number of frames is refused in a row when no good frame comes between them; results that found
nothing do not count. `longestRefusal` counts on from result to result, and what it comes to is the
largest such number (`refusesInARow_longestRefusal`, `le_longestRefusal`).
-/

namespace Gatehouse.Frame

def Decoded.isFrame : Decoded → Bool
  | .frame .. => true
  | _ => false

def Decoded.isRefusal : Decoded → Bool
  | .failed .. => true
  | _ => false

/-- Somewhere among some results just so many frames are refused with no good frame between. -/
def RefusesInARow (decoded : List Decoded) (count : Nat) : Prop :=
  ∃ front run back, decoded = front ++ run ++ back ∧ (∀ one ∈ run, one.isFrame = false) ∧
    run.countP Decoded.isRefusal = count

def longestRefusal : Nat → List Decoded → Nat
  | before, [] => before
  | before, .pending _ :: rest => longestRefusal before rest
  | before, .failed .. :: rest => longestRefusal (before + 1) rest
  | before, .frame .. :: rest => max before (longestRefusal 0 rest)

theorem before_le_longestRefusal (before : Nat) (decoded : List Decoded) :
    before ≤ longestRefusal before decoded := by
  fun_induction longestRefusal before decoded with
  | case1 => rfl
  | case2 before skipped rest induction => exact induction
  | case3 before fault skipped rest induction => omega
  | case4 => exact le_max_left _ _

theorem longestRefusal_mono {before later : Nat} (le : before ≤ later) (decoded : List Decoded) :
    longestRefusal before decoded ≤ longestRefusal later decoded := by
  induction decoded generalizing before later with
  | nil => exact le
  | cons first rest induction =>
      cases first with
      | pending => exact induction le
      | failed => exact induction (Nat.succ_le_succ le)
      | frame => exact sup_le_sup_right le _

theorem longestRefusal_run {run : List Decoded} (bare : ∀ one ∈ run, one.isFrame = false)
    (before : Nat) (back : List Decoded) :
    longestRefusal before (run ++ back) =
      longestRefusal (before + run.countP Decoded.isRefusal) back := by
  induction run generalizing before with
  | nil => rfl
  | cons first run induction =>
      have later := induction fun one member => bare one (List.mem_cons_of_mem first member)
      cases first with
      | pending => simpa [longestRefusal, Decoded.isRefusal] using later before
      | failed =>
          have account : before + (run.countP Decoded.isRefusal + 1) =
              before + 1 + run.countP Decoded.isRefusal := by omega
          rw [List.cons_append, List.countP_cons_of_pos (by rfl), account]
          exact later (before + 1)
      | frame => exact absurd (bare _ List.mem_cons_self) (by simp [Decoded.isFrame])

theorem longestRefusal_le_append (before : Nat) (front rest : List Decoded) :
    longestRefusal 0 rest ≤ longestRefusal before (front ++ rest) := by
  induction front generalizing before with
  | nil => exact longestRefusal_mono (Nat.zero_le before) rest
  | cons first front induction =>
      cases first with
      | pending => exact induction before
      | failed => exact induction (before + 1)
      | frame => exact (induction 0).trans (le_max_right _ _)

theorem le_longestRefusal {decoded : List Decoded} {count : Nat}
    (refuses : RefusesInARow decoded count) : count ≤ longestRefusal 0 decoded := by
  rcases refuses with ⟨front, run, back, rfl, bare, rfl⟩
  calc
    run.countP Decoded.isRefusal = 0 + run.countP Decoded.isRefusal := by omega
    _ ≤ longestRefusal (0 + run.countP Decoded.isRefusal) back := before_le_longestRefusal _ back
    _ = longestRefusal 0 (run ++ back) := (longestRefusal_run bare 0 back).symm
    _ ≤ longestRefusal 0 (front ++ (run ++ back)) := longestRefusal_le_append 0 front _
    _ = longestRefusal 0 (front ++ run ++ back) := by rw [List.append_assoc]

theorem RefusesInARow.cons {decoded : List Decoded} {count : Nat}
    (refuses : RefusesInARow decoded count) (first : Decoded) :
    RefusesInARow (first :: decoded) count := by
  rcases refuses with ⟨front, run, back, rfl, bare, same⟩
  exact ⟨first :: front, run, back, rfl, bare, same⟩

/-- The longest run is at the front, counted on from before, or somewhere later. -/
theorem longestRefusal_attained (before : Nat) (decoded : List Decoded) :
    (∃ run back, decoded = run ++ back ∧ (∀ one ∈ run, one.isFrame = false) ∧
        before + run.countP Decoded.isRefusal = longestRefusal before decoded) ∨
      RefusesInARow decoded (longestRefusal before decoded) := by
  fun_induction longestRefusal before decoded with
  | case1 before => exact .inl ⟨[], [], rfl, by simp, rfl⟩
  | case2 before skipped rest induction =>
      rcases induction with ⟨run, back, rfl, bare, same⟩ | later
      · exact .inl ⟨.pending skipped :: run, back, rfl, by simpa [Decoded.isFrame] using bare,
          by simpa [Decoded.isRefusal] using same⟩
      · exact .inr (later.cons _)
  | case3 before fault skipped rest induction =>
      rcases induction with ⟨run, back, rfl, bare, same⟩ | later
      · refine .inl ⟨.failed fault skipped :: run, back, rfl, by simpa [Decoded.isFrame] using bare,
          ?_⟩
        rw [← same, List.countP_cons_of_pos (by rfl)]
        omega
      · exact .inr (later.cons _)
  | case4 before message size skipped rest induction =>
      rcases Nat.le_total (longestRefusal 0 rest) before with shorter | longer
      · exact .inl ⟨[], _, rfl, by simp, by simp [shorter]⟩
      · rw [max_eq_right longer]
        rcases induction with ⟨run, back, rfl, bare, same⟩ | later
        · exact .inr ⟨[.frame message size skipped], run, back, rfl, bare, by omega⟩
        · exact .inr (later.cons _)

theorem refusesInARow_longestRefusal (decoded : List Decoded) :
    RefusesInARow decoded (longestRefusal 0 decoded) := by
  rcases longestRefusal_attained 0 decoded with ⟨run, back, shape, bare, same⟩ | refuses
  · exact ⟨[], run, back, shape, bare, by omega⟩
  · exact refuses

end Gatehouse.Frame

namespace Gatehouse

theorem Number.le_ofNat_mono {limit : Number} {count larger : Nat}
    (reached : limit.le (.ofNat count) = true) (le : count ≤ larger) :
    limit.le (.ofNat larger) = true := by
  cases limit with
  | nan => exact reached
  | infinite negative => exact reached
  | finite value =>
      have grows : (count : Rat) ≤ larger := Rat.natCast_le_natCast.mpr le
      simp only [Number.le, Number.ofNat, Number.lt_finite, Bool.not_eq_true',
        decide_eq_false_iff_not, Rat.not_lt] at reached ⊢
      exact Rat.le_trans reached grows

theorem Number.le_ofNat_of_le {limit : Number} {count larger : Nat}
    (below : limit.le (.ofNat larger) = false) (le : count ≤ larger) :
    limit.le (.ofNat count) = false := by
  cases reached : limit.le (.ofNat count) with
  | false => rfl
  | true => exact (le_ofNat_mono reached le).symm.trans below

theorem Number.le_ofNat_zero {limit : Number} (positive : Number.le (.ofNat 1) limit = true) :
    limit.le (.ofNat 0) = false := by
  cases limit with
  | nan => rfl
  | infinite negative => simpa [Number.le, Number.ofNat, Number.lt] using positive
  | finite value =>
      simp only [Number.le, Number.ofNat, Number.lt_finite, Bool.not_eq_true',
        decide_eq_false_iff_not, Rat.not_lt] at positive
      simp only [Number.le, Number.ofNat, Number.lt_finite, Bool.not_eq_false', decide_eq_true_eq]
      grind

theorem Number.le_ofNat_max {limit : Number} {count other : Nat}
    (below : limit.le (.ofNat count) = false) :
    limit.le (.ofNat (count ⊔ other)) = limit.le (.ofNat other) := by
  rcases Nat.le_total count other with smaller | larger
  · rw [sup_eq_right.mpr smaller]
  · rw [sup_eq_left.mpr larger, below, le_ofNat_of_le below larger]

namespace Session

open Gatehouse.Frame

variable {session : Session}

def closings (effects : List SessionEffect) : List String :=
  effects.filterMap fun
    | .close reason => some reason
    | _ => none

theorem closings_append (first later : List SessionEffect) :
    closings (first ++ later) = closings first ++ closings later :=
  List.filterMap_append

def skip (session : Session) (skipped : Nat) : Session :=
  { session with
    stats := { session.stats with skippedBytes := session.stats.skippedBytes + skipped } }

@[simp] theorem skip_skip (session : Session) (first later : Nat) :
    (session.skip first).skip later = session.skip (later + first) := by
  simp [skip]
  omega

@[simp] theorem skip_zero (session : Session) : session.skip 0 = session := rfl

theorem countSkipped_eq (session : Session) (skipped : Nat) :
    (session.countSkipped skipped).1 = session.skip skipped ∧
      closings (session.countSkipped skipped).2 = [] := by
  rw [countSkipped]
  split
  · next none => simp [none, closings]
  · exact ⟨rfl, rfl⟩

theorem take_pending (session : Session) (skipped : Nat) :
    (session.take (.pending skipped)).1 = session.skip skipped ∧
      closings (session.take (.pending skipped)).2 = [] :=
  session.countSkipped_eq skipped

theorem take_frame (session : Session) (message : Message) (size skipped : Nat) :
    (session.take (.frame message size skipped)).1 = (session.skip skipped).enqueue message ∧
      closings (session.take (.frame message size skipped)).2 = [] := by
  rcases session.countSkipped_eq skipped with ⟨state, quiet⟩
  exact ⟨congrArg (enqueue · message) state, quiet⟩

theorem take_failed (session : Session) (fault : Fault) (skipped : Nat) :
    (session.take (.failed fault skipped)).1 = (session.skip skipped).countError.1 ∧
      closings (session.take (.failed fault skipped)).2 =
        closings (session.skip skipped).countError.2 := by
  rcases session.countSkipped_eq skipped with ⟨state, quiet⟩
  have split : session.take (.failed fault skipped) =
      ((session.countSkipped skipped).1.countError.1,
        (session.countSkipped skipped).2 ++ (session.countSkipped skipped).1.countError.2) := rfl
  rw [split, closings_append, quiet, state]
  exact ⟨rfl, rfl⟩

theorem take_skipping (session : Session) (more : Nat) (decoded : Decoded) :
    ((session.skip more).take decoded).1 = (session.take (decoded.skipping more)).1 := by
  cases decoded with
  | pending skipped =>
      rw [Decoded.skipping, (take_pending ..).1, (take_pending ..).1, skip_skip]
  | frame message size skipped =>
      rw [Decoded.skipping, (take_frame ..).1, (take_frame ..).1, skip_skip]
  | failed fault skipped =>
      rw [Decoded.skipping, (take_failed ..).1, (take_failed ..).1, skip_skip]

theorem takeAll_skippingFirst (opened : session.closed = false) (skipped : Nat)
    {decoded : List Decoded} (filled : decoded ≠ []) :
    (session.takeAll (.pending skipped :: decoded)).1 =
      (session.takeAll (skippingFirst skipped decoded)).1 := by
  cases decoded with
  | nil => exact absurd rfl filled
  | cons first rest =>
      have skipping : (session.skip skipped).closed = false := opened
      rw [takeAll_of_open opened, (take_pending session skipped).1, takeAll_of_open skipping,
        skippingFirst, takeAll_of_open opened, take_skipping]

theorem takeAll_append (session : Session) (first later : List Decoded) :
    session.takeAll (first ++ later) =
      (((session.takeAll first).1.takeAll later).1,
        (session.takeAll first).2 ++ ((session.takeAll first).1.takeAll later).2) := by
  induction first generalizing session with
  | nil => rfl
  | cons decoded rest induction =>
      cases standing : session.closed with
      | true => simp [takeAll_of_closed standing]
      | false => simp [takeAll_of_open standing, induction]

/-- What a session has taken in, with the messages taken up before. What is left of it are the
counts of the intake; bytes that wait and all that belongs to answers are left out. -/
def bare (session : Session) (begun : List Message) : Session :=
  { session with
    buffer := .empty
    inbox := begun ++ session.inbox
    current := none
    writes := 0
    stats := { session.stats with framesSent := 0 } }

theorem countSkipped_bare (session : Session) (begun : List Message) (skipped : Nat) :
    (session.bare begun).countSkipped skipped =
      ((session.countSkipped skipped).1.bare begun, (session.countSkipped skipped).2) := by
  simp only [countSkipped]
  split <;> rfl

theorem countError_bare (session : Session) (begun : List Message) :
    (session.bare begun).countError =
      (session.countError.1.bare begun, session.countError.2) := by
  cases tooMany : session.maxErrors.le (.ofNat (session.errorsInARow + 1)) <;>
    simp [countError, bare, close, tooMany]

theorem enqueue_bare (session : Session) (begun : List Message) (message : Message) :
    (session.bare begun).enqueue message = (session.enqueue message).bare begun := by
  simp [enqueue, bare]

theorem take_bare (session : Session) (begun : List Message) (decoded : Decoded) :
    (session.bare begun).take decoded =
      ((session.take decoded).1.bare begun, (session.take decoded).2) := by
  cases decoded <;> simp [take, countSkipped_bare, countError_bare, enqueue_bare]

theorem takeAll_bare (session : Session) (begun : List Message) (decoded : List Decoded) :
    (session.bare begun).takeAll decoded =
      ((session.takeAll decoded).1.bare begun, (session.takeAll decoded).2) := by
  induction decoded generalizing session with
  | nil => rfl
  | cons first rest induction =>
      cases standing : session.closed with
      | true => rw [takeAll_of_closed standing, takeAll_of_closed (by exact standing)]
      | false =>
          rw [takeAll_of_open standing, takeAll_of_open (by exact standing), take_bare, induction]

theorem receive_bare (opened : session.closed = false) (begun : List Message) (chunk : Bytes) :
    (session.bare begun).takeAll (session.codec.drain (session.buffer.append chunk)).1 =
      ((session.receive chunk).1.bare begun, (session.receive chunk).2) := by
  have taking : session.receive chunk =
      takeAll { session with buffer := (session.codec.drain (session.buffer.append chunk)).2 }
        (session.codec.drain (session.buffer.append chunk)).1 := by
    simp [receive, opened]
  rw [taking]
  exact takeAll_bare
    { session with buffer := (session.codec.drain (session.buffer.append chunk)).2 } begun _

theorem takeAll_drainEach (session : Session) {codec : Codec} {buffer : Buffer} {chunk : Bytes}
    {rest : List Bytes} (within : codec.KeepsWithin (buffer.append (chunk :: rest).flatten).bytes) :
    (session.takeAll (codec.drainEach buffer (chunk :: rest)).1).1 =
      (session.takeAll (codec.drain (buffer.append (chunk :: rest).flatten)).1).1 := by
  -- The later chunks reach a session that has taken the first, so the session must be any.
  induction rest generalizing session buffer chunk with
  | nil => simp [Codec.drainEach]
  | cons next rest induction =>
      have joined : buffer.append (chunk :: next :: rest).flatten =
          (buffer.append chunk).append (next :: rest).flatten := by
        simp [Buffer.append]
      rw [joined, Buffer.bytes_append] at within
      rcases Codec.drain_append within.of_append_left (next :: rest).flatten with
        ⟨found, skipped, drained, whole⟩
      have later : codec.KeepsWithin
          ((codec.drain (buffer.append chunk)).2.append (next :: rest).flatten).bytes := by
        rcases codec.isSuffix_drain (buffer.append chunk) with ⟨front, cut⟩
        rw [← cut, List.append_assoc] at within
        exact within.of_append_right
      have cut : (codec.drainEach buffer (chunk :: next :: rest)).1 = found ++ (.pending skipped ::
          (codec.drainEach (codec.drain (buffer.append chunk)).2 (next :: rest)).1) := by
        have each : (codec.drainEach buffer (chunk :: next :: rest)).1 =
            (codec.drain (buffer.append chunk)).1 ++
              (codec.drainEach (codec.drain (buffer.append chunk)).2 (next :: rest)).1 := rfl
        rw [each, drained, List.append_assoc, List.singleton_append]
      rw [cut, joined, whole, takeAll_append, takeAll_append]
      cases standing : (session.takeAll found).1.closed with
      | true => simp only [takeAll_of_closed standing]
      | false =>
          rw [← takeAll_skippingFirst standing skipped (codec.drain_ne_nil _),
            takeAll_of_open standing, takeAll_of_open standing]
          exact induction _ later

/-- A session closes itself just where so many frames were refused in a row as it puts up with, and
says so once. -/
theorem takeAll_closes (opened : session.closed = false)
    (below : session.maxErrors.le (.ofNat session.errorsInARow) = false) (decoded : List Decoded) :
    (session.takeAll decoded).1.closed =
        session.maxErrors.le (.ofNat (longestRefusal session.errorsInARow decoded)) ∧
      closings (session.takeAll decoded).2 =
        if (session.takeAll decoded).1.closed then [closingReason] else [] := by
  induction decoded generalizing session with
  | nil => simp [takeAll, longestRefusal, opened, below, closings]
  | cons first rest induction =>
      rw [takeAll_of_open opened, closings_append]
      cases first with
      | pending skipped =>
          rcases session.take_pending skipped with ⟨state, quiet⟩
          have later : (session.skip skipped).closed = false := opened
          rw [state, quiet, List.nil_append]
          exact induction later below
      | frame message size skipped =>
          rcases session.take_frame message size skipped with ⟨state, quiet⟩
          have later : ((session.skip skipped).enqueue message).closed = false := opened
          have nothing := Number.le_ofNat_of_le below (Nat.zero_le _)
          rw [state, quiet, List.nil_append]
          rcases induction later nothing with ⟨closes, once⟩
          exact ⟨closes.trans (Number.le_ofNat_max below).symm, once⟩
      | failed fault skipped =>
          rcases session.take_failed fault skipped with ⟨state, closing⟩
          rw [state, closing]
          cases tooMany : session.maxErrors.le (.ofNat (session.errorsInARow + 1)) with
          | true =>
              have shut : (session.skip skipped).countError.1.closed = true := by
                simp [countError, close, skip, tooMany]
              have reached := Number.le_ofNat_mono tooMany
                (before_le_longestRefusal (session.errorsInARow + 1) rest)
              rw [takeAll_of_closed shut]
              exact ⟨shut.trans reached.symm, by simp [countError, close, skip, tooMany, closings]⟩
          | false =>
              have counted : (session.skip skipped).countError =
                  ({ session.skip skipped with
                      errorsInARow := session.errorsInARow + 1
                      stats :=
                        { (session.skip skipped).stats with
                          protocolErrors := session.stats.protocolErrors + 1 } },
                    [.note .frameDropped]) := by
                simp [countError, skip, tooMany]
              rw [counted]
              exact induction opened tooMany

end Session

end Gatehouse
