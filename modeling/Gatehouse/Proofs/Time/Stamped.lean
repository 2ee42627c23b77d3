import Gatehouse.Time.Stamp

/-!
# The times of readers

A reader writes a year with four digits, and every day of such a year is within the range of
instants. So whatever time can be read from a reader is a valid one: `isValid_read`.
-/

namespace Gatehouse.Time

-- Powers of natural numbers are those of the core library, whatever else is imported.
attribute [local instance (2000)] instPowNat

theorem digit?_lt {character : Char} {unit : Nat} (digit : digit? character = some unit) :
    unit < 10 := by
  unfold digit? at digit
  split at digit
  · next decimal =>
      simp only [Bool.and_eq_true, decide_eq_true_eq, Char.le_def] at decimal
      have largest : character.toNat ≤ '9'.toNat := decimal.2
      have nine : '9'.toNat = 57 := rfl
      have zero : '0'.toNat = 48 := rfl
      cases digit
      omega
  · cases digit

/-- A number that grows by a digit at each character stays below a power of ten: each digit that
follows leaves it so far below the next one. -/
theorem foldlM_digits_lt {step : Nat → Char → Option Nat}
    (grows : ∀ value character next, step value character = some next → next ≤ value * 10 + 9)
    {characters : List Char} {value count : Nat}
    (spelled : characters.foldlM step value = some count) :
    count < (value + 1) * 10 ^ characters.length := by
  induction characters generalizing value with
  | nil =>
      cases spelled
      simp
  | cons first rest induction =>
      rw [List.foldlM_cons, Option.bind_eq_bind, Option.bind_eq_some_iff] at spelled
      rcases spelled with ⟨next, step, spelled⟩
      have small := grows value first next step
      calc
        count < (next + 1) * 10 ^ rest.length := induction spelled
        _ ≤ ((value + 1) * 10) * 10 ^ rest.length := Nat.mul_le_mul_right _ (by omega)
        _ = (value + 1) * 10 ^ (first :: rest).length := by
          rw [List.length_cons, Nat.pow_succ, Nat.mul_assoc, Nat.mul_comm 10]

theorem digits?_lt {characters : List Char} {count : Nat}
    (digits : digits? characters = some count) : count < 10 ^ characters.length := by
  have bound := foldlM_digits_lt (fun value character next step => by
    cases digit : digit? character with
    | none =>
        rw [digit] at step
        cases step
    | some unit =>
        rw [digit] at step
        cases step
        have small := digit?_lt digit
        omega) digits
  omega

theorem takeDigits_lt {width count : Nat} {text rest : List Char}
    (taken : takeDigits width text = some (count, rest)) : count < 10 ^ width := by
  unfold takeDigits at taken
  dsimp only at taken
  split at taken
  · next long =>
      split at taken
      · next digits =>
          cases taken
          rw [← long]
          exact digits?_lt digits
      · cases taken
  · cases taken

theorem Date.toDays_range {date : Date} (real : date.isReal = true) (low : 0 ≤ date.year)
    (high : date.year ≤ 9999) : -800000 ≤ date.toDays ∧ date.toDays ≤ 3000000 := by
  have month_end (year : Int) (month : Nat) : daysInMonth year month ≤ 31 := by
    unfold daysInMonth
    split
    · split <;> omega
    all_goals omega
  simp only [isReal, Bool.and_eq_true, decide_eq_true_eq] at real
  have day := Nat.le_trans real.2 (month_end _ _)
  unfold toDays
  dsimp only
  split <;> omega

theorem Instant.isValid_ofCivil {civil : Civil} (real : civil.isReal = true)
    (low : 0 ≤ civil.date.year) (high : civil.date.year ≤ 9999) :
    (Instant.ofCivil civil).isValid = true := by
  simp only [Civil.isReal, Bool.and_eq_true, decide_eq_true_eq] at real
  rcases real with ⟨⟨⟨⟨date, hour⟩, minute⟩, second⟩, milli⟩
  rcases Date.toDays_range date low high with ⟨above, below⟩
  unfold ofCivil
  rw [ofMillis_of_range]
  · rfl
  · unfold farthest Civil.toMillis dayMillis
    omega
  · unfold farthest Civil.toMillis dayMillis
    omega

namespace Stamp

theorem year_readCivil {text : List Char} {civil : Civil} (spelled : readCivil text = some civil) :
    0 ≤ civil.date.year ∧ civil.date.year ≤ 9999 := by
  simp only [readCivil, Option.bind_eq_bind, Option.bind_eq_some_iff] at spelled
  rcases spelled with ⟨⟨day, _⟩, _, _, _, ⟨month, _⟩, _, _, _, ⟨year, _⟩, four, rest⟩
  have bound := takeDigits_lt four
  rcases rest with ⟨_, _, ⟨hour, _⟩, _, _, _, ⟨minute, _⟩, _, _, _, ⟨second, _⟩, _, last⟩
  split at last
  · cases last
    dsimp only
    omega
  · cases last

theorem isValid_read {text : String} {instant : Instant} (known : read text = some instant) :
    instant.isValid = true := by
  unfold read at known
  split at known
  · next civil spelled =>
      rcases year_readCivil spelled with ⟨low, high⟩
      split at known
      · next real =>
          cases known
          rw [Bool.and_eq_true] at real
          exact Instant.isValid_ofCivil real.1 low high
      · cases known
  · cases known

end Stamp

end Gatehouse.Time
