import Gatehouse.Time.Instant
import Mathlib.Tactic.IntervalCases

/-!
# The calendar and the count of days

A date and its day count determine each other: `Date.ofDays_toDays` and `Date.toDays_ofDays`. Both
ways go through years that start in March and are counted within eras of four hundred years
(`Date.IsMarchDay`), where a leap day is the last day of its year. With the time of day, the same
holds of milliseconds.
-/

namespace Gatehouse.Time

namespace Date

/-- A day of a year that starts in March, counted from zero; a leap day is the last of them. The
year is counted within its era of four hundred years. -/
structure IsMarchDay (year day : Int) : Prop where
  year_nonneg : 0 ≤ year
  year_lt : year < 400
  day_nonneg : 0 ≤ day
  day_le : day ≤ 364 ∨ day = 365 ∧ year % 4 = 3 ∧ (year % 100 ≠ 99 ∨ year = 399)

def daysOfEra (year day : Int) : Int :=
  year * 365 + year / 4 - year / 100 + day

def ofMarch (era year day : Int) : Date :=
  let monthFromMarch := (5 * day + 2) / 153
  let month := (monthFromMarch + 2) % 12 + 1
  { year := year + era * 400 + (if month ≤ 2 then 1 else 0)
    month := month.toNat
    day := (day - (153 * monthFromMarch + 2) / 5 + 1).toNat }

variable {year day : Int}

theorem IsMarchDay.daysOfEra_range (march : IsMarchDay year day) :
    0 ≤ daysOfEra year day ∧ daysOfEra year day < 146097 := by
  obtain ⟨low, high, first, last⟩ := march
  unfold daysOfEra
  omega

/-- Leap days make a year of the era longer than 365 days, which the divisions take out. -/
theorem IsMarchDay.year_eq (march : IsMarchDay year day) :
    let days := daysOfEra year day
    (days - days / 1460 + days / 36524 - days / 146096) / 365 = year := by
  intro days
  obtain ⟨low, high, first, last⟩ := march
  have spelled : days = year * 365 + year / 4 - year / 100 + day := rfl
  have centuries : days / 36524 - days / 146096 = year / 100 := by
    have century : year / 100 = 0 ∨ year / 100 = 1 ∨ year / 100 = 2 ∨ year / 100 = 3 := by omega
    have above : year / 100 * 36524 ≤ days := by omega
    have below : days < (year / 100 + 1) * 36524 ∨ days = 146096 ∧ year / 100 = 3 := by omega
    rcases century with century | century | century | century <;> omega
  have quarters : days / 1460 = year / 4 ∧ day ≤ 364 ∨
      days / 1460 = year / 4 + 1 ∧ 1 ≤ day := by
    have rest : year = 4 * (year / 4) + year % 4 := by omega
    have least : 0 ≤ year / 4 - year / 100 := by omega
    have most : year / 4 - year / 100 ≤ 96 := by omega
    omega
  omega

theorem exists_march {days : Int} (low : 0 ≤ days) (high : days < 146097) :
    ∃ year day, IsMarchDay year day ∧ daysOfEra year day = days := by
  -- Centuries of 36524 days, quarters of 1461, years of 365: the last of each may be a day longer.
  let century := min (days / 36524) 3
  let inCentury := days - century * 36524
  let quarter := inCentury / 1461
  let inQuarter := inCentury - quarter * 1461
  let single := min (inQuarter / 365) 3
  have centuryRange : 0 ≤ century ∧ century ≤ 3 ∧ 0 ≤ inCentury ∧
      (inCentury < 36524 ∨ inCentury = 36524 ∧ century = 3) := by omega
  have quarterRange : 0 ≤ quarter ∧ quarter ≤ 24 ∧ 0 ≤ inQuarter ∧ inQuarter ≤ 1460 ∧
      (inQuarter = 1460 → quarter ≠ 24 ∨ century = 3) := by omega
  have singleRange : 0 ≤ single ∧ single ≤ 3 ∧ 0 ≤ inQuarter - single * 365 ∧
      (inQuarter - single * 365 ≤ 364 ∨
        inQuarter - single * 365 = 365 ∧ single = 3 ∧ inQuarter = 1460) := by omega
  refine ⟨century * 100 + quarter * 4 + single, inQuarter - single * 365, ⟨?_, ?_, ?_, ?_⟩, ?_⟩
  · omega
  · omega
  · omega
  · omega
  · unfold daysOfEra
    omega

theorem ofDays_march (march : IsMarchDay year day) (era : Int) :
    ofDays (era * 146097 + daysOfEra year day - 719468) = ofMarch era year day := by
  have range := march.daysOfEra_range
  have shifted : era * 146097 + daysOfEra year day - 719468 + 719468 =
      era * 146097 + daysOfEra year day := by omega
  have whole : (era * 146097 + daysOfEra year day) / 146097 = era := by omega
  have rest : era * 146097 + daysOfEra year day - era * 146097 = daysOfEra year day := by omega
  have ofYear : daysOfEra year day - (365 * year + year / 4 - year / 100) = day := by
    unfold daysOfEra
    omega
  simp only [ofDays, shifted, whole, rest, march.year_eq, ofYear]
  rfl

theorem toDays_ofMarch (march : IsMarchDay year day) (era : Int) :
    (ofMarch era year day).toDays = era * 146097 + daysOfEra year day - 719468 := by
  obtain ⟨low, high, first, last⟩ := march
  unfold ofMarch
  have monthRange : 0 ≤ (5 * day + 2) / 153 ∧ (5 * day + 2) / 153 ≤ 11 := by omega
  generalize month : (5 * day + 2) / 153 = monthFromMarch at monthRange
  obtain ⟨lowMonth, highMonth⟩ := monthRange
  simp only [toDays, daysOfEra]
  interval_cases monthFromMarch <;> simp <;> omega

theorem isReal_iff (date : Date) :
    date.isReal = true ↔ 1 ≤ date.month ∧ date.month ≤ 12 ∧ 1 ≤ date.day ∧
      date.day ≤ daysInMonth date.year date.month := by
  simp [isReal, and_assoc]

theorem daysInMonth_eq (year : Int) {month : Nat} (low : 1 ≤ month) (high : month ≤ 12)
    {fromMarch : Int} (shifted : fromMarch = if month ≤ 2 then (month : Int) + 9 else month - 3) :
    (daysInMonth year month : Int) =
      if month = 2 then
        (if year % 4 = 0 ∧ (year % 100 ≠ 0 ∨ year % 400 = 0) then 29 else 28)
      else (153 * (fromMarch + 1) + 2) / 5 - (153 * fromMarch + 2) / 5 := by
  subst shifted
  interval_cases month <;> simp [daysInMonth, isLeap]

theorem day_le_of_isReal {date : Date} (real : date.isReal = true) : date.day ≤ 31 := by
  obtain ⟨low, high, -, last⟩ := (isReal_iff date).mp real
  have length := daysInMonth_eq date.year low high rfl
  omega

theorem isReal_ofMarch (march : IsMarchDay year day) (era : Int) :
    (ofMarch era year day).isReal = true := by
  obtain ⟨low, high, first, last⟩ := march
  simp only [isReal_iff, ofMarch]
  generalize fromMarch : (5 * day + 2) / 153 = shifted
  have shiftedRange : 0 ≤ shifted ∧ shifted ≤ 11 := by omega
  have monthRange : 1 ≤ (shifted + 2) % 12 + 1 ∧ (shifted + 2) % 12 + 1 ≤ 12 := by omega
  have back : shifted = if (shifted + 2) % 12 + 1 ≤ 2 then (shifted + 2) % 12 + 1 + 9
      else (shifted + 2) % 12 + 1 - 3 := by omega
  generalize (shifted + 2) % 12 + 1 = month at monthRange back
  obtain ⟨month, rfl⟩ := Int.eq_ofNat_of_zero_le (show 0 ≤ month by omega)
  rw [Int.toNat_natCast]
  have length := daysInMonth_eq (year + era * 400 + if (month : Int) ≤ 2 then 1 else 0)
    (show 1 ≤ month by omega) (by omega) (show shifted = _ by omega)
  refine ⟨by omega, by omega, by omega, ?_⟩
  by_cases february : month = 2
  · subst february
    simp only [if_true] at length
    omega
  · rw [if_neg february] at length
    omega

theorem exists_ofMarch {date : Date} (real : date.isReal = true) :
    ∃ era year day, IsMarchDay year day ∧ ofMarch era year day = date := by
  rcases date with ⟨year, month, day⟩
  obtain ⟨lowMonth, highMonth, firstDay, lastDay⟩ := (isReal_iff _).mp real
  simp only at lowMonth highMonth firstDay lastDay
  generalize march : (if month ≤ 2 then year - 1 else year) = marchYear
  generalize fromMarch : (if month ≤ 2 then (month : Int) + 9 else month - 3) = shifted
  have length := daysInMonth_eq year lowMonth highMonth fromMarch.symm
  have back : (shifted + 2) % 12 + 1 = month := by omega
  have inEra : marchYear = marchYear / 400 * 400 + marchYear % 400 := by omega
  have inYear : (5 * ((153 * shifted + 2) / 5 + day - 1) + 2) / 153 = shifted := by omega
  refine ⟨marchYear / 400, marchYear % 400,
    (153 * shifted + 2) / 5 + day - 1, ⟨by omega, by omega, by omega, ?_⟩, ?_⟩
  · by_cases february : month = 2
    · subst february
      simp only [if_true] at length
      omega
    · rw [if_neg february] at length
      omega
  · simp only [ofMarch, inYear, back, Date.mk.injEq]
    omega

theorem ofDays_toDays {date : Date} (real : date.isReal = true) : ofDays date.toDays = date := by
  obtain ⟨era, year, day, march, rfl⟩ := exists_ofMarch real
  rw [toDays_ofMarch march, ofDays_march march]

theorem ofDays_eq_ofMarch (days : Int) :
    ∃ era year day, IsMarchDay year day ∧ ofDays days = ofMarch era year day ∧
      days = era * 146097 + daysOfEra year day - 719468 := by
  obtain ⟨year, day, march, spelled⟩ :=
    exists_march (show 0 ≤ (days + 719468) % 146097 by omega) (by omega)
  have counted : days = (days + 719468) / 146097 * 146097 + daysOfEra year day - 719468 := by
    omega
  refine ⟨(days + 719468) / 146097, year, day, march, ?_, counted⟩
  rw [← ofDays_march march, ← counted]

theorem toDays_ofDays (days : Int) : (ofDays days).toDays = days := by
  obtain ⟨era, year, day, march, same, counted⟩ := ofDays_eq_ofMarch days
  rw [same, toDays_ofMarch march, ← counted]

theorem isReal_ofDays (days : Int) : (ofDays days).isReal = true := by
  obtain ⟨era, year, day, march, same, -⟩ := ofDays_eq_ofMarch days
  rw [same]
  exact isReal_ofMarch march era

end Date

namespace Civil

theorem isReal_iff (civil : Civil) :
    civil.isReal = true ↔ civil.date.isReal = true ∧ civil.hour < 24 ∧ civil.minute < 60 ∧
      civil.second < 60 ∧ civil.milli < 1000 := by
  simp [isReal, and_assoc]

theorem isReal_ofMillis (millis : Int) : (ofMillis millis).isReal = true := by
  refine (isReal_iff _).mpr ⟨Date.isReal_ofDays _, ?_⟩
  simp only [ofMillis, dayMillis]
  omega

theorem toMillis_ofMillis (millis : Int) : (ofMillis millis).toMillis = millis := by
  simp only [toMillis, ofMillis, Date.toDays_ofDays, dayMillis]
  omega

theorem ofMillis_toMillis {civil : Civil} (real : civil.isReal = true) :
    ofMillis civil.toMillis = civil := by
  obtain ⟨date, hour, minute, second, milli⟩ := (isReal_iff civil).mp real
  have days : civil.toMillis / dayMillis = civil.date.toDays := by
    simp only [toMillis, dayMillis]
    omega
  have ofDay : (civil.toMillis % dayMillis).toNat =
      civil.hour * 3600000 + civil.minute * 60000 + civil.second * 1000 + civil.milli := by
    simp only [toMillis, dayMillis]
    omega
  rcases civil with ⟨day, hours, minutes, seconds, millis⟩
  simp only [ofMillis, days, ofDay, Date.ofDays_toDays date, Civil.mk.injEq, true_and]
  simp only at hour minute second milli
  omega

theorem ofMillis_sub_emod (millis : Int) :
    ofMillis (millis - millis % 1000) = { ofMillis millis with milli := 0 } := by
  have day : (millis - millis % 1000) / dayMillis = millis / dayMillis := by
    unfold dayMillis
    omega
  simp only [ofMillis, day, Civil.mk.injEq, true_and]
  unfold dayMillis
  omega

end Civil

end Gatehouse.Time
