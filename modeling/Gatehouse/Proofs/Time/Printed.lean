import Gatehouse.Proofs.Message.Written
import Gatehouse.Proofs.Time.Calendar
import Gatehouse.Proofs.Time.Stamped
import Mathlib.Data.List.Induction

/-!
# Timestamps as they are printed

Digits of a fixed width are read exactly where they were written (`takeDigits_eq_some_iff`), and so
is a timestamp (`Stamp.readCivil_eq_some_iff`). Since the days of the calendar determine the date, a
text is accepted exactly if it is what its instant prints as: `Stamp.read_eq_some_iff`.
-/

namespace Gatehouse.Time

-- Powers of natural numbers are those of the core library, whatever else is imported.
attribute [local instance (2000)] instPowNat

theorem digit?_digitChar {unit : Nat} (small : unit < 10) :
    digit? (Nat.digitChar unit) = some unit := by
  have every : ∀ unit : Fin 10, digit? (Nat.digitChar unit.val) = some unit.val := by decide
  exact every ⟨unit, small⟩

theorem digitChar_of_digit? {character : Char} {unit : Nat}
    (digit : digit? character = some unit) : Nat.digitChar unit = character := by
  have every : ∀ unit : Fin 10, Nat.digitChar unit.val = Char.ofNat (48 + unit.val) := by decide
  have small := digit?_lt digit
  unfold digit? at digit
  split at digit
  · next decimal =>
      simp only [Bool.and_eq_true, decide_eq_true_eq, Char.le_def] at decimal
      have least : '0'.toNat ≤ character.toNat := decimal.1
      have zero : '0'.toNat = 48 := rfl
      have code : 48 + unit = character.toNat := by
        cases digit
        omega
      rw [every ⟨unit, small⟩, code, Char.ofNat_toNat]
  · cases digit

theorem padded_one {unit : Nat} (small : unit < 10) : padded 1 unit = [Nat.digitChar unit] := by
  simp [padded, Nat.toDigits_of_lt_base small]

theorem padded_succ {width : Nat} (positive : 0 < width) (count : Nat) :
    padded (width + 1) count = padded width (count / 10) ++ [Nat.digitChar (count % 10)] := by
  rcases Nat.lt_or_ge count 10 with small | large
  · have none_left : count / 10 = 0 := by omega
    have itself : count % 10 = count := by omega
    obtain ⟨rest, rfl⟩ : ∃ rest, width = rest + 1 := ⟨width - 1, by omega⟩
    rw [none_left, itself, padded, padded, Nat.toDigits_of_lt_base small,
      Nat.toDigits_of_lt_base (by decide)]
    simp [List.replicate_succ']
  · rw [padded, padded, Nat.toDigits_of_base_le (by decide) large]
    simp

theorem digits?_concat (front : List Char) (last : Char) :
    digits? (front ++ [last]) =
      (digits? front).bind fun value => (digit? last).map fun unit => value * 10 + unit := by
  rw [digits?, List.foldlM_append]
  refine Option.bind_congr fun value _ => ?_
  rw [List.foldlM_cons]
  cases digit? last <;> rfl

theorem digits?_padded {width count : Nat} (positive : 0 < width) (small : count < 10 ^ width) :
    digits? (padded width count) = some count := by
  induction width, positive using Nat.le_induction generalizing count with
  | base =>
      rw [padded_one small]
      have single := digits?_concat [] (Nat.digitChar count)
      rw [digit?_digitChar small] at single
      simpa [digits?] using single
  | succ width positive induction =>
      have higher : count / 10 < 10 ^ width := by
        rw [Nat.pow_succ] at small
        omega
      have together : count / 10 * 10 + count % 10 = count := by omega
      rw [padded_succ positive, digits?_concat, induction higher,
        digit?_digitChar (Nat.mod_lt _ (by decide)), Option.bind_some, Option.map_some, together]

theorem length_padded {width count : Nat} (positive : 0 < width) (small : count < 10 ^ width) :
    (padded width count).length = width := by
  have fits := (Nat.length_toDigits_le_iff (by decide) positive).mpr small
  rw [padded, List.length_append, List.length_replicate]
  omega

theorem padded_of_digits? {characters : List Char} {count : Nat} (filled : characters ≠ [])
    (spelled : digits? characters = some count) : padded characters.length count = characters := by
  induction characters using List.reverseRecOn generalizing count with
  | nil => exact absurd rfl filled
  | append_singleton front last induction =>
      rw [digits?_concat] at spelled
      obtain ⟨value, before, units⟩ := Option.bind_eq_some_iff.mp spelled
      obtain ⟨unit, digit, rfl⟩ := Option.map_eq_some_iff.mp units
      have small := digit?_lt digit
      have higher : (value * 10 + unit) / 10 = value := by omega
      have lowest : (value * 10 + unit) % 10 = unit := by omega
      rw [List.length_append, List.length_singleton]
      by_cases single : front = []
      · subst single
        cases before
        simp [padded_one small, digitChar_of_digit? digit]
      · rw [padded_succ (List.length_pos_iff.mpr single), higher, lowest,
          induction single before, digitChar_of_digit? digit]

theorem takeDigits_eq_some_iff {width count : Nat} {text rest : List Char} (positive : 0 < width) :
    takeDigits width text = some (count, rest) ↔
      text = padded width count ++ rest ∧ count < 10 ^ width := by
  constructor
  · intro taken
    refine ⟨?_, takeDigits_lt taken⟩
    unfold takeDigits at taken
    dsimp only at taken
    split at taken
    · next long =>
        split at taken
        · next spelled =>
            cases taken
            have filled : text.take width ≠ [] := by
              intro empty
              rw [empty, List.length_nil] at long
              omega
            have printed := padded_of_digits? filled spelled
            rw [long] at printed
            rw [printed, List.take_append_drop]
        · cases taken
    · cases taken
  · rintro ⟨rfl, small⟩
    have long := length_padded positive small
    unfold takeDigits
    rw [List.take_left' long, List.drop_left' long, if_pos long, digits?_padded positive small]

theorem takeMark_eq_some_iff {mark : Char} {text rest : List Char} :
    takeMark mark text = some rest ↔ text = mark :: rest := by
  cases text with
  | nil => simp [takeMark]
  | cons first back =>
      by_cases same : first = mark
      · simp [takeMark, same]
      · simp [takeMark, same]

theorem Instant.ofCivil_eq_moment {civil : Civil} (real : civil.isReal = true)
    (low : 0 ≤ civil.date.year) (high : civil.date.year ≤ 9999) :
    ofCivil civil = .moment civil.toMillis := by
  have valid := isValid_ofCivil real low high
  unfold ofCivil ofMillis at valid ⊢
  split
  · rfl
  · next outside =>
      rw [if_neg outside] at valid
      cases valid

namespace Stamp

structure Fits (civil : Civil) : Prop where
  year : 0 ≤ civil.date.year ∧ civil.date.year < 10000
  month : civil.date.month < 100
  day : civil.date.day < 100
  hour : civil.hour < 100
  minute : civil.minute < 100
  second : civil.second < 100
  milli : civil.milli = 0

theorem yearText_of_fits {year : Int} (above : 0 ≤ year) :
    yearText year = padded 4 year.toNat := by
  have sign : ¬year < 0 := by omega
  have same : year.natAbs = year.toNat := by omega
  simp only [yearText, padded, sign, if_false, same]

theorem readCivil_eq_some_iff {text : List Char} {civil : Civil} :
    readCivil text = some civil ↔ text = writeCivil civil ∧ Fits civil := by
  simp only [readCivil, Option.bind_eq_bind, Option.bind_eq_some_iff, Prod.exists,
    takeDigits_eq_some_iff (show 0 < 2 by decide), takeDigits_eq_some_iff (show 0 < 4 by decide),
    takeMark_eq_some_iff]
  constructor
  · rintro ⟨day, _, ⟨rfl, dayFits⟩, _, rfl, month, _, ⟨rfl, monthFits⟩, _, rfl, year, _,
      ⟨rfl, yearFits⟩, _, rfl, hour, _, ⟨rfl, hourFits⟩, _, rfl, minute, _, ⟨rfl, minuteFits⟩, _,
      rfl, second, rest, ⟨rfl, secondFits⟩, last⟩
    split at last
    · next empty =>
        cases last
        have year : (0 : Int) ≤ year ∧ (year : Int) < 10000 := by omega
        refine ⟨?_, year, monthFits, dayFits, hourFits, minuteFits, secondFits, rfl⟩
        simp [writeCivil, yearText_of_fits, List.isEmpty_iff.mp empty]
    · cases last
  · rintro ⟨rfl, ⟨yearLow, yearHigh⟩, month, day, hour, minute, second, milli⟩
    have year : civil.date.year.toNat < 10 ^ 4 := by omega
    refine ⟨civil.date.day, _, ⟨?_, day⟩, _, rfl, civil.date.month, _, ⟨rfl, month⟩, _, rfl,
      civil.date.year.toNat, _, ⟨rfl, year⟩, _, rfl, civil.hour, _, ⟨rfl, hour⟩, _, rfl,
      civil.minute, _, ⟨rfl, minute⟩, _, rfl, civil.second, [], ⟨rfl, second⟩, ?_⟩
    · simp [writeCivil, yearText_of_fits yearLow]
    · rcases civil with ⟨⟨year, month, day⟩, hour, minute, second, milli⟩
      simp only at yearLow milli
      simp [milli, Int.toNat_of_nonneg yearLow]

theorem fits_of_isReal {civil : Civil} (real : civil.isReal = true) (low : 0 ≤ civil.date.year)
    (high : civil.date.year ≤ 9999) (whole : civil.milli = 0) : Fits civil := by
  obtain ⟨date, hour, minute, second, -⟩ := (Civil.isReal_iff civil).mp real
  have day := Date.day_le_of_isReal date
  have month := ((Date.isReal_iff _).mp date).2.1
  exact ⟨⟨low, by omega⟩, by omega, by omega, by omega, by omega, by omega, whole⟩

/-- A text is read as an instant exactly if it is what the instant prints as, blanks aside. -/
theorem read_eq_some_iff {text : String} {instant : Instant} :
    read text = some instant ↔
      ∃ millis, instant = .moment millis ∧ millis % 1000 = 0 ∧
        100 ≤ (Civil.ofMillis millis).date.year ∧ (Civil.ofMillis millis).date.year ≤ 9999 ∧
        write instant = Text.trim text := by
  constructor
  · intro known
    unfold read at known
    split at known
    · next civil spelled =>
        obtain ⟨printed, fits⟩ := readCivil_eq_some_iff.mp spelled
        split at known
        · next accepted =>
            simp only [Bool.and_eq_true, decide_eq_true_eq] at accepted
            obtain ⟨real, least⟩ := accepted
            have most : civil.date.year ≤ 9999 := by
              have year := fits.year
              omega
            have moment := Instant.ofCivil_eq_moment real fits.year.1 most
            have back := Civil.ofMillis_toMillis real
            have whole : civil.toMillis % 1000 = 0 := by
              have milli := fits.milli
              simp only [Civil.toMillis, dayMillis]
              omega
            obtain rfl := Option.some.inj known
            refine ⟨civil.toMillis, moment, whole, ?_⟩
            rw [moment, write, back, ← printed]
            exact ⟨least, most, rfl⟩
        · cases known
    · cases known
  · rintro ⟨millis, rfl, whole, least, most, printed⟩
    have real := Civil.isReal_ofMillis millis
    have spelled : readCivil (Text.trimList text.toList) = some (Civil.ofMillis millis) := by
      refine readCivil_eq_some_iff.mpr ⟨?_, fits_of_isReal real (by omega) most ?_⟩
      · rw [← Text.toList_trim, ← printed, write, String.toList_ofList]
      · simp only [Civil.ofMillis, dayMillis]
        omega
    have accepted : ((Civil.ofMillis millis).isReal &&
        decide (100 ≤ (Civil.ofMillis millis).date.year)) = true := by
      simp [real, least]
    rw [read, spelled]
    simp only [accepted, if_true]
    rw [Instant.ofCivil_eq_moment real (by omega) most, Civil.toMillis_ofMillis]

theorem padded_two {count : Nat} (small : count < 100) :
    padded 2 count = [Nat.digitChar (count / 10), Nat.digitChar (count % 10)] := by
  rw [padded_succ (by decide), padded_one (by omega), List.singleton_append]

theorem isBlank_digitChar {unit : Nat} (small : unit < 10) :
    Text.isBlank (Nat.digitChar unit) = false := by
  have every : ∀ unit : Fin 10, Text.isBlank (Nat.digitChar unit.val) = false := by decide
  exact every ⟨unit, small⟩

theorem trimList_writeCivil {civil : Civil} (fits : Fits civil) :
    Text.trimList (writeCivil civil) = writeCivil civil := by
  rw [writeCivil, padded_two fits.day, padded_two fits.second]
  refine Text.trimList_of_solid ?_ ?_
  · intro first found
    obtain rfl : Nat.digitChar (civil.date.day / 10) = first := by simpa using found
    exact isBlank_digitChar (by have := fits.day; omega)
  · intro last found
    obtain rfl : Nat.digitChar (civil.second % 10) = last := by
      simpa [List.getLast?_cons, List.getLast?_append] using found
    exact isBlank_digitChar (Nat.mod_lt _ (by decide))

/-- Without its milliseconds, an instant of a year with four digits has a date that fits. -/
theorem fits_ofMillis {millis : Int} (low : 0 ≤ (Civil.ofMillis millis).date.year)
    (high : (Civil.ofMillis millis).date.year ≤ 9999) :
    Fits { Civil.ofMillis millis with milli := 0 } := by
  have real := (Civil.isReal_iff _).mp (Civil.isReal_ofMillis millis)
  refine fits_of_isReal ((Civil.isReal_iff _).mpr ?_) low high rfl
  exact ⟨real.1, real.2.1, real.2.2.1, real.2.2.2.1, Nat.zero_lt_succ _⟩

theorem read_write {millis : Int} (least : 100 ≤ (Civil.ofMillis millis).date.year)
    (most : (Civil.ofMillis millis).date.year ≤ 9999) :
    read (write (.moment millis)) = some (.moment (millis - millis % 1000)) := by
  have dropped := Civil.ofMillis_sub_emod millis
  have printed : write (.moment (millis - millis % 1000)) = write (.moment millis) := by
    rw [write, dropped]
    rfl
  refine read_eq_some_iff.mpr ⟨_, rfl, by omega, ?_, ?_, ?_⟩
  · rw [dropped]
    exact least
  · rw [dropped]
    exact most
  · rw [← printed, write, Text.trim, String.toList_ofList, dropped,
      trimList_writeCivil (fits_ofMillis (by omega) most)]

end Stamp

end Gatehouse.Time
