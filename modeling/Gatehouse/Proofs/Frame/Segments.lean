import Gatehouse.Frame.Codec
import Mathlib.Data.List.Infix
import Mathlib.Data.List.TakeWhile

/-!
# Segments of a byte stream

A segment is a start byte, a body without markers, and an end byte. `segments` lists the bodies of
all segments of a stream in the order in which they begin. `scan` finds them in one walk that only
remembers where a receiver stands, so it can be interrupted anywhere (`scan_append`); what it finds
from the beginning is what `segments` says (`scan_hunting`).
-/

namespace Gatehouse.Frame

def isMarker (byte : UInt8) : Bool :=
  byte == startByte || byte == endByte

def IsUnmarked (bytes : Bytes) : Prop :=
  ∀ byte ∈ bytes, isMarker byte = false

def segmentAt? : Bytes → Option Bytes
  | [] => none
  | opening :: rest =>
      if opening = startByte ∧ (rest.dropWhile (!isMarker ·)).head? = some endByte then
        some (rest.takeWhile (!isMarker ·))
      else none

/-- The bodies of all segments of a stream, in order. -/
def segments (stream : Bytes) : List Bytes :=
  stream.tails.filterMap segmentAt?

@[simp] theorem isMarker_startByte : isMarker startByte = true := rfl

@[simp] theorem isMarker_endByte : isMarker endByte = true := rfl

theorem startByte_ne_endByte : startByte ≠ endByte := by decide

theorem isMarker_eq_false_iff {byte : UInt8} :
    isMarker byte = false ↔ byte ≠ startByte ∧ byte ≠ endByte := by
  simp [isMarker]

theorem isUnmarked_nil : IsUnmarked [] := by
  simp [IsUnmarked]

theorem isUnmarked_cons {byte : UInt8} {rest : Bytes} :
    IsUnmarked (byte :: rest) ↔ isMarker byte = false ∧ IsUnmarked rest := by
  simp [IsUnmarked]

theorem isUnmarked_append {front back : Bytes} :
    IsUnmarked (front ++ back) ↔ IsUnmarked front ∧ IsUnmarked back := by
  simp only [IsUnmarked, List.mem_append, or_imp, forall_and]

theorem IsUnmarked.endByte_not_mem {bytes : Bytes} (unmarked : IsUnmarked bytes) :
    endByte ∉ bytes := fun member => by
  simpa using unmarked endByte member

theorem isUnmarked_reverse {bytes : Bytes} : IsUnmarked bytes.reverse ↔ IsUnmarked bytes := by
  simp [IsUnmarked]

theorem takeWhile_unmarked_append {body rest : Bytes} (unmarked : IsUnmarked body) :
    (body ++ rest).takeWhile (!isMarker ·) = body ++ rest.takeWhile (!isMarker ·) := by
  induction body with
  | nil => rfl
  | cons byte body induction =>
      rcases isUnmarked_cons.mp unmarked with ⟨plain, unmarked⟩
      simp [plain, induction unmarked]

theorem dropWhile_unmarked_append {body rest : Bytes} (unmarked : IsUnmarked body) :
    (body ++ rest).dropWhile (!isMarker ·) = rest.dropWhile (!isMarker ·) := by
  induction body with
  | nil => rfl
  | cons byte body induction =>
      rcases isUnmarked_cons.mp unmarked with ⟨plain, unmarked⟩
      simp [plain, induction unmarked]

theorem segmentAt?_eq_some_iff {stream body : Bytes} :
    segmentAt? stream = some body ↔
      IsUnmarked body ∧ ∃ rest, stream = startByte :: body ++ endByte :: rest := by
  constructor
  · intro found
    cases stream with
    | nil => simp [segmentAt?] at found
    | cons opening rest =>
        simp only [segmentAt?, Option.ite_none_right_eq_some, Option.some.injEq] at found
        rcases found with ⟨⟨rfl, closed⟩, rfl⟩
        rcases List.head?_eq_some_iff.mp closed with ⟨after, shape⟩
        refine ⟨?_, after, ?_⟩
        · intro byte member
          simpa using List.mem_takeWhile_imp member
        · rw [List.cons_append, ← shape, List.takeWhile_append_dropWhile]
  · rintro ⟨unmarked, rest, rfl⟩
    simp [segmentAt?, takeWhile_unmarked_append unmarked, dropWhile_unmarked_append unmarked]

/-- The bodies that `segments` lists are those of the segments anywhere in the stream. -/
theorem mem_segments_iff {stream body : Bytes} :
    body ∈ segments stream ↔
      IsUnmarked body ∧
        ∃ before after, stream = before ++ (startByte :: body ++ endByte :: after) := by
  simp only [segments, List.mem_filterMap, List.mem_tails, segmentAt?_eq_some_iff]
  constructor
  · rintro ⟨tail, ⟨before, rfl⟩, unmarked, after, rfl⟩
    exact ⟨unmarked, before, after, rfl⟩
  · rintro ⟨unmarked, before, after, rfl⟩
    exact ⟨_, ⟨before, rfl⟩, unmarked, after, rfl⟩

@[simp] theorem segments_nil : segments [] = [] := rfl

theorem segments_cons (first : UInt8) (rest : Bytes) :
    segments (first :: rest) = (segmentAt? (first :: rest)).toList ++ segments rest := by
  cases found : segmentAt? (first :: rest) <;> simp [segments, found]

theorem segments_cons_of_ne {first : UInt8} {rest : Bytes} (plain : first ≠ startByte) :
    segments (first :: rest) = segments rest := by
  simp [segments_cons, segmentAt?, plain]

theorem segments_append_of_no_start {front rest : Bytes} (plain : startByte ∉ front) :
    segments (front ++ rest) = segments rest := by
  induction front with
  | nil => rfl
  | cons first front induction =>
      simp only [List.mem_cons, not_or] at plain
      rw [List.cons_append, segments_cons_of_ne (Ne.symm plain.1), induction plain.2]

theorem segments_inside {body rest : Bytes} (unmarked : IsUnmarked body) :
    segments (startByte :: body ++ rest) =
      (segmentAt? (startByte :: body ++ rest)).toList ++ segments rest := by
  have noStart : startByte ∉ body := fun member => by simpa using unmarked startByte member
  rw [List.cons_append, segments_cons, segments_append_of_no_start noStart]

theorem segments_unfinished {body : Bytes} (unmarked : IsUnmarked body) :
    segments (startByte :: body) = [] := by
  have passed : body.dropWhile (!isMarker ·) = [] := by
    simpa using @dropWhile_unmarked_append body [] unmarked
  have bare : segmentAt? (startByte :: body ++ []) = none := by
    simp [segmentAt?, passed]
  have parts := @segments_inside body [] unmarked
  rw [bare] at parts
  simpa using parts

theorem segments_restarted {body rest : Bytes} (unmarked : IsUnmarked body) :
    segments (startByte :: body ++ startByte :: rest) = segments (startByte :: rest) := by
  have bare : segmentAt? (startByte :: body ++ startByte :: rest) = none := by
    simp [segmentAt?, dropWhile_unmarked_append unmarked, startByte_ne_endByte]
  simp only [segments_inside unmarked, bare, Option.toList_none, List.nil_append]

theorem segments_finished {body rest : Bytes} (unmarked : IsUnmarked body) :
    segments (startByte :: body ++ endByte :: rest) = body :: segments rest := by
  have found : segmentAt? (startByte :: body ++ endByte :: rest) = some body :=
    segmentAt?_eq_some_iff.mpr ⟨unmarked, rest, rfl⟩
  rw [segments_inside unmarked, found, segments_cons_of_ne (by decide)]
  rfl

namespace Codec

/-- Walks over a stream from where a receiver stands: the bodies of the segments that end in it, and
where the receiver stands afterwards. -/
def scan : Reception → Bytes → List Bytes × Reception
  | state, [] => ([], state)
  | .hunting, byte :: rest =>
      if byte = startByte then scan (.inside []) rest else scan .hunting rest
  | .inside held, byte :: rest =>
      if byte = startByte then scan (.inside []) rest
      else if byte = endByte then
        (held.reverse :: (scan .hunting rest).1, (scan .hunting rest).2)
      else scan (.inside (byte :: held)) rest

theorem scan_append (state : Reception) (left right : Bytes) :
    scan state (left ++ right) =
      ((scan state left).1 ++ (scan (scan state left).2 right).1,
        (scan (scan state left).2 right).2) := by
  fun_induction scan state left with
  | case1 => simp
  | case2 rest induction => simpa [scan] using induction
  | case3 byte rest plain induction => simpa [scan, plain] using induction
  | case4 held rest induction => simpa [scan] using induction
  | case5 held rest other induction => simp [scan, other, induction]
  | case6 held byte rest noStart noEnd induction => simpa [scan, noStart, noEnd] using induction

theorem scan_inside_unmarked (held : Bytes) {body : Bytes} (unmarked : IsUnmarked body)
    (rest : Bytes) :
    scan (.inside held) (body ++ rest) = scan (.inside (body.reverse ++ held)) rest := by
  induction body generalizing held with
  | nil => rfl
  | cons byte body induction =>
      rcases isUnmarked_cons.mp unmarked with ⟨plain, unmarked⟩
      rcases isMarker_eq_false_iff.mp plain with ⟨noStart, noEnd⟩
      simp [scan, noStart, noEnd, induction (byte :: held) unmarked]

def Reception.IsClean : Reception → Prop
  | .hunting => True
  | .inside held => IsUnmarked held

theorem isClean_scan {state : Reception} (clean : state.IsClean) (stream : Bytes) :
    (scan state stream).2.IsClean := by
  fun_induction scan state stream with
  | case1 => exact clean
  | case2 rest induction => exact induction isUnmarked_nil
  | case3 byte rest plain induction => exact induction clean
  | case4 held rest induction => exact induction isUnmarked_nil
  | case5 held rest other induction => exact induction trivial
  | case6 held byte rest noStart noEnd induction =>
      exact induction
        (isUnmarked_cons.mpr ⟨isMarker_eq_false_iff.mpr ⟨noStart, noEnd⟩, clean⟩)

/-- The bytes from which a receiver comes to stand where it stands. -/
def Reception.bytes : Reception → Bytes
  | .hunting => []
  | .inside held => startByte :: held.reverse

/-- A walk finds the segments of the stream with the bytes that are held put back in front. -/
theorem scan_eq_segments {state : Reception} (clean : state.IsClean) (stream : Bytes) :
    (scan state stream).1 = segments (state.bytes ++ stream) := by
  fun_induction scan state stream with
  | case1 state =>
      cases state with
      | hunting => rfl
      | inside held =>
          simpa [Reception.bytes] using (segments_unfinished (isUnmarked_reverse.mpr clean)).symm
  | case2 rest induction => simpa [Reception.bytes] using induction isUnmarked_nil
  | case3 byte rest plain induction =>
      simpa [Reception.bytes, segments_cons_of_ne plain] using induction clean
  | case4 held rest induction =>
      rw [Reception.bytes, segments_restarted (isUnmarked_reverse.mpr clean)]
      exact induction isUnmarked_nil
  | case5 held rest other induction =>
      rw [Reception.bytes, segments_finished (isUnmarked_reverse.mpr clean)]
      exact congrArg _ (induction trivial)
  | case6 held byte rest noStart noEnd induction =>
      have unmarked : IsUnmarked (byte :: held) :=
        isUnmarked_cons.mpr ⟨isMarker_eq_false_iff.mpr ⟨noStart, noEnd⟩, clean⟩
      simpa [Reception.bytes] using induction unmarked

end Codec

end Gatehouse.Frame
