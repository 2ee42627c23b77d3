import Gatehouse.Access.Payload
import Gatehouse.Proofs.Frame.Printable
import Gatehouse.Proofs.Time.Printed
import Mathlib.Algebra.Order.BigOperators.Group.List

/-!
# Requests that are written

A request carries four fields. The credential is free text of at most twenty units, so at most sixty
bytes; the others are digits and punctuation. So the fields are sound (`areSound_toMessage`), the
message is read back as it is, and so is the request but for the milliseconds of its time:
`request_round_trip`.
-/

namespace Gatehouse

namespace Text

theorem utf8Size_le_charUnits (character : Char) :
    character.utf8Size ≤ 3 * charUnits character := by
  unfold charUnits
  split
  · next basic =>
      have last : character.val ≤ 65535 :=
        UInt32.le_iff_toNat_le.mpr (Nat.le_of_lt_succ basic)
      unfold Char.utf8Size
      dsimp only
      split
      · decide
      · split
        · decide
        · exact Nat.le_of_eq (if_pos last)
  · exact Nat.le_trans (Char.utf8Size_le_four character) (by decide)

theorem utf8ByteSize_le_unitCount (text : String) : text.utf8ByteSize ≤ 3 * unitCount text := by
  have sizes (characters : List Char) :
      (String.ofList characters).utf8ByteSize ≤ 3 * (characters.map charUnits).sum := by
    induction characters with
    | nil => simp
    | cons first rest induction =>
        have one := utf8Size_le_charUnits first
        rw [String.ofList_cons, String.utf8ByteSize_append, String.utf8ByteSize_singleton,
          List.map_cons, List.sum_cons]
        omega
  simpa [unitCount] using sizes text.toList

end Text

namespace Time

theorem mem_padded {width count : Nat} {character : Char}
    (member : character ∈ padded width count) :
    48 ≤ character.toNat ∧ character.toNat ≤ 57 := by
  rcases List.mem_append.mp member with zero | digit
  · obtain rfl := List.eq_of_mem_replicate zero
    decide
  · have digit := Nat.isDigit_of_mem_toDigits (by omega) (by omega) digit
    simpa [Char.isDigit, UInt32.le_iff_toNat_le] using digit

namespace Stamp

variable {civil : Civil}

theorem mem_writeCivil (fits : Fits civil) {character : Char}
    (member : character ∈ writeCivil civil) :
    character.toNat = 32 ∨ 47 ≤ character.toNat ∧ character.toNat ≤ 58 := by
  rw [writeCivil, yearText_of_fits fits.year.1] at member
  have digits {width count : Nat} (digit : character ∈ padded width count) :
      47 ≤ character.toNat ∧ character.toNat ≤ 58 := by
    have range := mem_padded digit
    omega
  simp only [List.mem_append, List.mem_cons] at member
  rcases member with (((((day | rfl | month) | rfl | year) | rfl | hour) | rfl | minute) | rfl |
    second)
  · exact .inr (digits day)
  · decide
  · exact .inr (digits month)
  · decide
  · exact .inr (digits year)
  · decide
  · exact .inr (digits hour)
  · decide
  · exact .inr (digits minute)
  · decide
  · exact .inr (digits second)

theorem length_writeCivil (fits : Fits civil) : (writeCivil civil).length = 19 := by
  obtain ⟨⟨low, high⟩, month, day, hour, minute, second, -⟩ := fits
  have year : civil.date.year.toNat < 10 ^ 4 := by omega
  rw [writeCivil, yearText_of_fits low]
  simp [length_padded, *]

end Stamp

end Time

namespace Access

variable {request : Request} {device : Device}

theorem readDirection_code (direction : Direction) :
    readDirection directionPlace (toString direction.code) = .ok direction := by
  cases direction <;> rfl

theorem readReader_code (reader : Reader) :
    readReader readerPlace (toString reader.code) = .ok reader := by
  cases reader <;> rfl

theorem readCredential_of_length {index : Number} {field : String}
    (least : minCredential ≤ Text.unitCount field) (most : Text.unitCount field ≤ maxCredential) :
    readCredential index field = .ok field := by
  have inside : ¬(Text.unitCount field < minCredential ∨ maxCredential < Text.unitCount field) := by
    omega
  simp [readCredential, inside]

theorem areSound_toMessage {millis : Int} (device : Device)
    (most : Text.unitCount request.credential ≤ maxCredential)
    (plain : Field.IsPlain request.credential) (time : request.timestamp = .moment millis)
    (fits : Time.Stamp.Fits { Time.Civil.ofMillis millis with milli := 0 }) :
    Field.AreSound (request.toMessage device).fields := by
  have spelled : (Time.Stamp.write request.timestamp).toList =
      Time.Stamp.writeCivil { Time.Civil.ofMillis millis with milli := 0 } := by
    rw [time, Time.Stamp.write, String.toList_ofList]
    rfl
  have stamp {character : Char}
      (member : character ∈ (Time.Stamp.write request.timestamp).toList) :
      character.toNat = 32 ∨ 47 ≤ character.toNat ∧ character.toNat ≤ 58 :=
    Time.Stamp.mem_writeCivil fits (spelled ▸ member)
  refine ⟨(show 4 ≤ 256 by decide), ?_, ?_⟩
  · simp only [Request.toMessage, List.forall_mem_cons, List.not_mem_nil, false_imp_iff,
      implies_true, and_true]
    refine ⟨?_, ?_, ?_, ?_⟩
    · have bytes := Text.utf8ByteSize_le_unitCount request.credential
      unfold maxCredential at most
      omega
    · rw [Text.utf8ByteSize_of_printable fun character member => ?_, ← String.length_toList,
        spelled, Time.Stamp.length_writeCivil fits]
      · decide
      · have range := stamp member
        omega
    · cases request.direction <;> decide
    · cases request.reader <;> decide
  · simp only [Request.toMessage, List.forall_mem_cons, List.not_mem_nil, false_imp_iff,
      implies_true, and_true]
    refine ⟨plain, ?_, ?_, ?_⟩
    · intro delimiter reserved member
      have range := stamp member
      simp only [Field.delimiters, List.mem_cons, List.not_mem_nil, or_false] at reserved
      rcases reserved with rfl | rfl | rfl
      all_goals exact absurd range (by decide)
    · cases request.direction <;> exact (@Field.check_eq_ok_iff directionPlace _).mp rfl
    · cases request.reader <;> exact (@Field.check_eq_ok_iff readerPlace _).mp rfl

/-- A written request is read back but for its milliseconds, whatever its credential is, within the
bounds of length and without delimiters. A time is accepted exactly if it is the printed form of a
date of the calendar. -/
theorem request_round_trip :
    (∀ (device : Device) (request : Request) (millis : Int),
      3 ≤ Text.unitCount request.credential → Text.unitCount request.credential ≤ 20 →
      (∀ delimiter ∈ [']', '+', '['], delimiter ∉ request.credential.toList) →
      request.timestamp = .moment millis →
      100 ≤ (Time.Civil.ofMillis millis).date.year →
      (Time.Civil.ofMillis millis).date.year ≤ 9999 →
      (Message.read (request.toMessage device).text >>= Request.ofMessage) =
        .ok { request with timestamp := .moment (millis - millis % 1000) }) ∧
    ∀ (text : String) (instant : Time.Instant), readTimestamp text = .ok instant ↔
      ∃ millis, instant = .moment millis ∧ millis % 1000 = 0 ∧
        (Time.Civil.ofMillis millis).isReal = true ∧
        100 ≤ (Time.Civil.ofMillis millis).date.year ∧
        (Time.Civil.ofMillis millis).date.year ≤ 9999 ∧
        Time.Stamp.write instant = Text.trim text := by
  constructor
  · intro device request millis least most plain time low high
    have read := Time.Stamp.read_write low high
    have sound := areSound_toMessage device most plain time
      (Time.Stamp.fits_ofMillis (by omega) high)
    rw [Message.read_text sound]
    simp only [Request.toMessage, Request.ofMessage, time, bind, Except.bind,
      readCredential_of_length least most, readTimestamp, read, readDirection_code,
      readReader_code]
    rfl
  · intro text instant
    have accepted : readTimestamp text = .ok instant ↔ Time.Stamp.read text = some instant := by
      rw [readTimestamp]
      cases Time.Stamp.read text <;> simp
    rw [accepted, Time.Stamp.read_eq_some_iff]
    refine exists_congr fun millis => ?_
    simp [Time.Civil.isReal_ofMillis millis]

/-- A credential with blanks, in the last second before 1970. -/
theorem request_round_trip_old :
    let device : Device := ⟨7, by decide⟩
    let request : Request := ⟨" João ", .moment (-1), .exit, .biometric⟩
    (Message.read (request.toMessage device).text >>= Request.ofMessage) =
        .ok { request with timestamp := .moment (-1000) } ∧
      Time.Stamp.write (.moment (-1000)) = Text.trim "31/12/1969 23:59:59 " := by
  intro device request
  have accepted : readTimestamp "31/12/1969 23:59:59 " = .ok (.moment (-1000)) := by
    decide +kernel
  obtain ⟨millis, moment, _, _, _, _, printed⟩ := (request_round_trip.2 _ _).mp accepted
  refine ⟨request_round_trip.1 device request (-1) (by decide) (by decide) ?_ rfl (by decide)
    (by decide), printed⟩
  simp only [List.forall_mem_cons, List.not_mem_nil, false_imp_iff, implies_true, and_true]
  decide

end Access

end Gatehouse
