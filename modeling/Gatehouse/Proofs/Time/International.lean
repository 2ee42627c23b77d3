import Gatehouse.Proofs.Time.Spelled
import Gatehouse.Time.Reading
import Mathlib.Data.Rat.Floor

/-!
# Reading spelled instants

A spelled instant falls apart into the tokens of its parts (`ofText_of_spelled`), and these are read
as the international form. What is named is the moment that is spelled, up to the millisecond, if
the offset of the zone is real, and no moment otherwise: `read_of_spelled`.

Of the digits of a fraction only nine count that come after leading zeros, but the leading zeros
still count for the length. So of more than nine digits that begin with a zero more milliseconds may
be read than are spelled.
-/

namespace Gatehouse.Time

-- Powers of natural numbers are those of the core library, whatever else is imported.
attribute [local instance (2000)] instPowNat

section Tokens

def FallsInto (text : List Char) (tokens : List Token) : Prop :=
  ∀ steps, text.length ≤ steps → Token.within steps text = tokens

variable {rest : List Char} {tokens : List Token}

theorem fallsInto_nil : FallsInto [] [] := by
  rintro (_ | steps) - <;> rfl

theorem within_digit {first : Char} (decimal : Token.isDigit first = true) (steps : Nat)
    (rest : List Char) :
    Token.within (steps + 1) (first :: rest) =
      Token.ofDigits (first :: rest.takeWhile Token.isDigit) ::
        Token.within steps (rest.dropWhile Token.isDigit) := by
  rw [Token.within.eq_def]
  exact if_pos decimal

theorem fallsInto_number {digits : List Char} (filled : digits ≠ [])
    (decimal : ∀ character ∈ digits, (digit? character).isSome)
    (stops : ∀ character ∈ rest.head?, digit? character = none) (falls : FallsInto rest tokens) :
    FallsInto (digits ++ rest) (Token.ofDigits digits :: tokens) := by
  rintro steps enough
  cases digits with
  | nil => exact absurd rfl filled
  | cons first others =>
      obtain ⟨steps, rfl⟩ : ∃ fewer, steps = fewer + 1 := ⟨steps - 1, by simp at enough; omega⟩
      have first_decimal : Token.isDigit first = true := decimal first List.mem_cons_self
      have others_decimal : ∀ character ∈ others, Token.isDigit character = true :=
        fun character member => decimal character (List.mem_cons_of_mem _ member)
      have behind : rest.takeWhile Token.isDigit = [] ∧ rest.dropWhile Token.isDigit = rest := by
        cases rest with
        | nil => exact ⟨rfl, rfl⟩
        | cons next others =>
            have not_digit : Token.isDigit next = false := by
              rw [Token.isDigit, stops next rfl]
              rfl
            simp [not_digit]
      rw [List.cons_append, within_digit first_decimal,
        List.takeWhile_append_of_pos others_decimal, List.dropWhile_append_of_pos others_decimal,
        behind.1, behind.2, List.append_nil, falls steps]
      simp at enough
      omega

theorem fallsInto_mark {mark : Char} {token : Token}
    (listed : (mark, token) ∈
      [('-', Token.sign false), ('+', .sign true), (':', .colon), ('.', .point)])
    (falls : FallsInto rest tokens) : FallsInto (mark :: rest) (token :: tokens) := by
  rintro (_ | steps) enough
  · simp at enough
  · have fewer : rest.length ≤ steps := by simpa using enough
    simp only [List.mem_cons, Prod.mk.injEq, List.not_mem_nil, or_false] at listed
    rcases listed with ⟨rfl, rfl⟩ | ⟨rfl, rfl⟩ | ⟨rfl, rfl⟩ | ⟨rfl, rfl⟩ <;>
      exact congrArg (_ :: ·) (falls steps fewer)

theorem fallsInto_letter {letter : Char} {meaning : Word}
    (undecimal : Token.isDigit letter = false) (is_letter : Token.isLetter letter = true)
    (means : Word.ofText [letter] = meaning)
    (stops : ∀ character ∈ rest.head?, Token.isLetter character = false)
    (falls : FallsInto rest tokens) : FallsInto (letter :: rest) (.word meaning 1 :: tokens) := by
  rintro (_ | steps) enough
  · simp at enough
  · have behind : rest.takeWhile Token.isLetter = [] ∧ rest.dropWhile Token.isLetter = rest := by
      cases rest with
      | nil => exact ⟨rfl, rfl⟩
      | cons next others => simp [stops next rfl]
    have split : Token.within (steps + 1) (letter :: rest) =
        .word (.ofText (letter :: rest.takeWhile Token.isLetter))
          (letter :: rest.takeWhile Token.isLetter).length ::
            Token.within steps (rest.dropWhile Token.isLetter) := by
      rw [Token.within.eq_def]
      exact (if_neg (by simp [undecimal])).trans (if_pos is_letter)
    rw [split, behind.1, behind.2, falls steps (by simpa using enough), means]
    rfl

theorem fallsInto_timeMark (stops : ∀ character ∈ rest.head?, Token.isLetter character = false)
    (falls : FallsInto rest tokens) : FallsInto ('T' :: rest) (.word .timeMark 1 :: tokens) :=
  fallsInto_letter (by decide) (by decide) (by decide +kernel) stops falls

theorem fallsInto_universal : FallsInto ['Z'] [.word (.zone 0) 1] :=
  fallsInto_letter (by decide) (by decide) (by decide +kernel) (by simp) fallsInto_nil

theorem length_dropWhile_zero_le (digits : List Char) :
    (digits.dropWhile (· == '0')).length ≤ digits.length :=
  (List.dropWhile_sublist _).length_le

theorem digits?_cons_zero (rest : List Char) : digits? ('0' :: rest) = digits? rest :=
  rfl

theorem digits?_dropWhile_zero (digits : List Char) :
    digits? (digits.dropWhile (· == '0')) = digits? digits := by
  induction digits with
  | nil => rfl
  | cons first rest induction =>
      by_cases zero : first = '0'
      · subst zero
        rw [digits?_cons_zero]
        exact induction
      · rw [List.dropWhile_cons_of_neg (by simpa using zero)]

theorem ofDigits_of_few {digits : List Char} {count : Nat}
    (few : digits.length ≤ Token.significantDigits) (spelled : digits? digits = some count) :
    Token.ofDigits digits = .number count digits.length := by
  have all_kept := Nat.le_trans (length_dropWhile_zero_le digits) few
  rw [Token.ofDigits, List.take_of_length_le all_kept, digits?_dropWhile_zero, spelled]
  rfl

theorem isSome_digit?_of_mem_padded {width count : Nat} (positive : 0 < width)
    (small : count < 10 ^ width) : ∀ character ∈ padded width count, (digit? character).isSome := by
  induction width, positive using Nat.le_induction generalizing count with
  | base =>
      intro character member
      rw [padded_one small] at member
      obtain rfl := List.mem_singleton.mp member
      rw [digit?_digitChar small]
      rfl
  | succ width positive induction =>
      intro character member
      rw [padded_succ positive] at member
      rcases List.mem_append.mp member with front | last
      · refine induction ?_ character front
        rw [Nat.pow_succ] at small
        omega
      · obtain rfl := List.mem_singleton.mp last
        rw [digit?_digitChar (Nat.mod_lt _ (by decide))]
        rfl

theorem fallsInto_padded {width count : Nat} (positive : 0 < width)
    (few : width ≤ Token.significantDigits) (small : count < 10 ^ width)
    (stops : ∀ character ∈ rest.head?, digit? character = none) (falls : FallsInto rest tokens) :
    FallsInto (padded width count ++ rest) (.number count width :: tokens) := by
  have long := length_padded positive small
  have filled : padded width count ≠ [] := by
    intro empty
    rw [empty, List.length_nil] at long
    omega
  have number := ofDigits_of_few (long.trans_le few) (digits?_padded positive small)
  rw [long] at number
  rw [← number]
  exact fallsInto_number filled (isSome_digit?_of_mem_padded positive small) stops falls

theorem stops_mark {mark : Char} (undecimal : digit? mark = none) (rest : List Char) :
    ∀ character ∈ (mark :: rest).head?, digit? character = none := by
  rintro character ⟨⟩
  exact undecimal

end Tokens

def Zone.tokens : Zone → List Token
  | .universal => [.word (.zone 0) 1]
  | .offset plus hours minutes true => [.sign plus, .number hours 2, .colon, .number minutes 2]
  | .offset plus hours minutes false => [.sign plus, .number (hours * 100 + minutes) 4]

def secondsTokens : Option (Nat × List Char) → List Token
  | none => []
  | some (second, digits) =>
      .colon :: .number second 2 ::
        if digits.isEmpty then [] else [.point, Token.ofDigits digits]

def Spelling.tokens (spelling : Spelling) : List Token :=
  .number spelling.date.year.toNat 4 :: .sign false :: .number spelling.date.month 2 ::
    .sign false :: .number spelling.date.day 2 :: .word .timeMark 1 :: .number spelling.hour 2 ::
    .colon :: .number spelling.minute 2 :: (secondsTokens spelling.seconds ++ spelling.zone.tokens)

theorem Zone.stops (zone : Zone) : ∀ character ∈ zone.text.head?, digit? character = none := by
  cases zone with
  | universal => exact stops_mark rfl _
  | offset plus hours minutes colon => cases plus <;> exact stops_mark rfl _

theorem fallsInto_two {count : Nat} {rest : List Char} {tokens : List Token} (small : count < 100)
    (stops : ∀ character ∈ rest.head?, digit? character = none) (falls : FallsInto rest tokens) :
    FallsInto (padded 2 count ++ rest) (.number count 2 :: tokens) :=
  fallsInto_padded (by decide) (by decide) small stops falls

theorem isLetter_digitChar {unit : Nat} (small : unit < 10) :
    Token.isLetter (Nat.digitChar unit) = false := by
  have every : ∀ unit : Fin 10, Token.isLetter (Nat.digitChar unit.val) = false := by decide
  exact every ⟨unit, small⟩

theorem padded_two_two {hours minutes : Nat} (small : minutes < 100) :
    padded 2 hours ++ padded 2 minutes = padded 4 (hours * 100 + minutes) := by
  have tens : (hours * 100 + minutes) / 10 % 10 = minutes / 10 := by omega
  have units : (hours * 100 + minutes) % 10 = minutes % 10 := by omega
  have hundreds : (hours * 100 + minutes) / 10 / 10 = hours := by omega
  rw [padded_succ (show 0 < 3 by decide), padded_succ (show 0 < 2 by decide), hundreds, tens,
    units, Stamp.padded_two small, List.append_assoc]
  rfl

theorem fallsInto_zone {zone : Zone} (fits : zone.Fits) : FallsInto zone.text zone.tokens := by
  cases zone with
  | universal => exact fallsInto_universal
  | offset plus hours minutes colon =>
      rcases fits with ⟨hours_fit, minutes_fit⟩
      have minutes_fall : FallsInto (padded 2 minutes) [.number minutes 2] := by
        simpa using fallsInto_two minutes_fit (by simp) fallsInto_nil
      have offset_falls : FallsInto
          (padded 2 hours ++ (if colon then [':'] else []) ++ padded 2 minutes)
          (if colon then [.number hours 2, .colon, .number minutes 2]
            else [.number (hours * 100 + minutes) 4]) := by
        cases colon with
        | true =>
            simpa using fallsInto_two hours_fit (stops_mark rfl _)
              (fallsInto_mark (by simp) minutes_fall)
        | false =>
            have joined : hours * 100 + minutes < 10 ^ 4 := by omega
            have together := fallsInto_padded (by decide) (by decide) joined (by simp) fallsInto_nil
            simpa [padded_two_two minutes_fit] using together
      cases plus <;> cases colon <;> exact fallsInto_mark (by simp) offset_falls

theorem fallsInto_seconds {seconds : Option (Nat × List Char)} {zone : Zone} (fits : zone.Fits)
    (small : (seconds.map Prod.fst).getD 0 < 100)
    (decimal : ∀ character ∈ (seconds.map Prod.snd).getD [], (digit? character).isSome) :
    FallsInto (secondsText seconds ++ zone.text) (secondsTokens seconds ++ zone.tokens) := by
  cases seconds with
  | none => exact fallsInto_zone fits
  | some parts =>
      rcases parts with ⟨second, digits⟩
      rw [secondsText, secondsTokens, List.cons_append, List.cons_append, List.cons_append,
        List.append_assoc]
      refine fallsInto_mark (by simp) ?_
      cases digits with
      | nil => exact fallsInto_two small zone.stops (fallsInto_zone fits)
      | cons first others =>
          refine fallsInto_two small (stops_mark rfl _) (fallsInto_mark (by simp) ?_)
          exact fallsInto_number (List.cons_ne_nil _ _) decimal zone.stops (fallsInto_zone fits)

theorem Spelling.IsReal.fits {spelling : Spelling} (real : spelling.IsReal) :
    (spelling.date.year.toNat < 10 ^ 4 ∧ spelling.date.month < 100 ∧ spelling.date.day < 100) ∧
      spelling.hour < 100 ∧ spelling.minute < 100 ∧ spelling.second < 100 := by
  have year := real.year
  have month := real.month
  have day := real.day
  have clock := real.clock
  omega

theorem fallsInto_spelling {spelling : Spelling} (real : spelling.IsReal) :
    FallsInto spelling.text spelling.tokens := by
  obtain ⟨⟨year, month, day⟩, hour, minute, second⟩ := real.fits
  refine fallsInto_padded (by decide) (by decide) year (stops_mark rfl _)
    (fallsInto_mark (by simp) ?_)
  refine fallsInto_two month (stops_mark rfl _) (fallsInto_mark (by simp) ?_)
  refine fallsInto_two day (stops_mark rfl _) (fallsInto_timeMark ?_ ?_)
  · rw [Stamp.padded_two hour]
    rintro character ⟨⟩
    exact isLetter_digitChar (by omega)
  refine fallsInto_two hour (stops_mark rfl _) (fallsInto_mark (by simp) ?_)
  refine fallsInto_two minute ?_ (fallsInto_seconds real.zone second real.fraction)
  cases spelling.seconds with
  | none => exact spelling.zone.stops
  | some parts => exact stops_mark rfl _

theorem ne_null_of_digit {character : Char} (decimal : (digit? character).isSome) :
    (character != '\x00') = true := by
  refine bne_iff_ne.mpr ?_
  rintro rfl
  cases decimal

theorem ne_null_of_mem_padded {width count : Nat} (positive : 0 < width)
    (small : count < 10 ^ width) :
    ∀ character ∈ padded width count, (character != '\x00') = true :=
  fun character member =>
    ne_null_of_digit (isSome_digit?_of_mem_padded positive small character member)

theorem ne_null_of_mem_zone {zone : Zone} (fits : zone.Fits) :
    ∀ character ∈ zone.text, (character != '\x00') = true := by
  cases zone with
  | universal => simp [Zone.text]
  | offset plus hours minutes colon =>
      have hours_solid := ne_null_of_mem_padded (show 0 < 2 by decide) fits.1
      have minutes_solid := ne_null_of_mem_padded (show 0 < 2 by decide) fits.2
      simp only [Zone.text, List.forall_mem_cons, List.forall_mem_append]
      refine ⟨by cases plus <;> decide, ⟨hours_solid, ?_⟩, minutes_solid⟩
      cases colon <;> simp

theorem ne_null_of_mem_spelling {spelling : Spelling} (real : spelling.IsReal) :
    ∀ character ∈ spelling.text, (character != '\x00') = true := by
  obtain ⟨⟨year, month, day⟩, hour, minute, second⟩ := real.fits
  have two {count : Nat} (small : count < 100) := ne_null_of_mem_padded (show 0 < 2 by decide) small
  simp only [Spelling.text, List.forall_mem_cons, List.forall_mem_append]
  refine ⟨ne_null_of_mem_padded (by decide) year, by decide, two month, by decide, two day,
    by decide, two hour, by decide, two minute, ?_, ne_null_of_mem_zone real.zone⟩
  have decimal := real.fraction
  simp only [Spelling.second, Spelling.fraction] at second decimal
  cases seconds : spelling.seconds with
  | none => simp [secondsText]
  | some parts =>
      simp only [seconds, Option.map_some, Option.getD_some] at second decimal
      simp only [secondsText, List.forall_mem_cons, List.forall_mem_append]
      refine ⟨by decide, two second, ?_⟩
      split
      · simp
      · refine List.forall_mem_cons.mpr ⟨by decide, fun character member => ?_⟩
        exact ne_null_of_digit (decimal character member)

theorem ofText_of_spelled {text : String} {spelling : Spelling} (real : spelling.IsReal)
    (spelled : text.toList = spelling.text) : Token.ofText text = spelling.tokens := by
  rw [Token.ofText, spelled, List.takeWhile_eq_self_iff.mpr (ne_null_of_mem_spelling real)]
  exact fallsInto_spelling real _ (Nat.le_refl _)

/-- The number that is heard of the digits of a fraction. -/
def heard (digits : List Char) : Nat :=
  (digits? ((digits.dropWhile (· == '0')).take Token.significantDigits)).getD 0

def readMilli (digits : List Char) : Nat :=
  Reading.fraction (heard digits) digits.length

@[simp] theorem readMilli_nil : readMilli [] = 0 := by
  simp [readMilli, heard, digits?, Reading.fraction]

def Zone.fill (draft : Draft) : Zone → Draft
  | .universal => { draft with plus := some true, hours := some 0, minutes := some 0 }
  | .offset plus hours minutes _ =>
      { draft with plus := some plus, hours := some hours, minutes := some minutes }

theorem zone?_tokens {zone : Zone} (fits : zone.Fits) (draft : Draft) :
    Reading.zone? draft zone.tokens = if zone.isReal then some (zone.fill draft) else none := by
  cases zone with
  | universal => rfl
  | offset plus hours minutes colon =>
      rcases fits with ⟨-, minutes_fit⟩
      cases colon with
      | true => simp [Zone.tokens, Reading.zone?, Zone.isReal, Zone.fill]
      | false =>
          have hundreds : (hours * 100 + minutes) / 100 = hours := by omega
          have rest : (hours * 100 + minutes) % 100 = minutes := by omega
          simp [Zone.tokens, Reading.zone?, Zone.isReal, Zone.fill, hundreds, rest]

/-- The numbers of a time of day that are spelled. -/
def Spelling.clock (spelling : Spelling) : List Nat :=
  [spelling.hour, spelling.minute] ++
    match spelling.seconds with
    | none => []
    | some (second, digits) => second :: if digits.isEmpty then [] else [readMilli digits]

theorem timed?_tokens {spelling : Spelling} (real : spelling.IsReal) (draft : Draft) :
    Reading.timed? draft (.number spelling.hour 2 :: .colon :: .number spelling.minute 2 ::
        (secondsTokens spelling.seconds ++ spelling.zone.tokens)) =
      Reading.zone? { draft with time := spelling.clock } spelling.zone.tokens := by
  obtain ⟨hour, minute, second⟩ := real.clock
  simp only [Spelling.second] at second
  cases seconds : spelling.seconds with
  | none =>
      have is_time : Reading.isTime spelling.hour [spelling.minute] = true := by
        simp [Reading.isTime, hour, minute]
      rcases spelling.zone with - | ⟨plus, hours, minutes, - | -⟩ <;>
        simp [secondsTokens, Zone.tokens, Reading.timed?, is_time, Spelling.clock, seconds]
  | some parts =>
      rcases parts with ⟨whole, digits⟩
      simp only [seconds, Option.map_some, Option.getD_some] at second
      have is_time : Reading.isTime spelling.hour [spelling.minute, whole] = true := by
        simp [Reading.isTime, hour, minute, second]
      cases digits with
      | nil =>
          rcases spelling.zone with - | ⟨plus, hours, minutes, - | -⟩ <;>
            simp [secondsTokens, Zone.tokens, Reading.timed?, is_time, Spelling.clock, seconds]
      | cons first others =>
          simp [secondsTokens, Reading.timed?, is_time, Spelling.clock, seconds, hour,
            Token.ofDigits, readMilli, heard]

def Spelling.draft (spelling : Spelling) : Draft :=
  { Draft.empty with
    day := [spelling.date.year, spelling.date.month, spelling.date.day]
    time := spelling.clock
    international := true }

theorem draft?_tokens {spelling : Spelling} (real : spelling.IsReal) :
    Reading.draft? spelling.tokens =
      if spelling.zone.isReal then some (spelling.zone.fill spelling.draft) else none := by
  have month := real.month
  have day := real.day
  have year : ((spelling.date.year.toNat : Nat) : Int) = spelling.date.year :=
    Int.toNat_of_nonneg real.year.1
  have month_fits : ¬ (spelling.date.month < 1 || 12 < spelling.date.month) = true := by
    simp
    omega
  have day_fits : ¬ (spelling.date.day < 1 || 31 < spelling.date.day) = true := by
    simp
    omega
  -- A real month and day are what the international form asks for behind the year.
  rw [Spelling.tokens, Reading.draft?]
  simp only [Reading.afterYear, if_neg month_fits, if_neg day_fits, Reading.afterDate, year]
  rw [timed?_tokens real, zone?_tokens real.zone]
  rfl

theorem fraction_lt {value length : Nat} (small : value < 10 ^ min length Token.significantDigits) :
    Reading.fraction value length < 1000 := by
  unfold Reading.fraction
  split
  · have one : min 1 Token.significantDigits = 1 := rfl
    rw [one] at small
    omega
  · have two : min 2 Token.significantDigits = 2 := rfl
    rw [two] at small
    omega
  · refine Nat.div_lt_of_lt_mul (Nat.lt_of_lt_of_le small ?_)
    rw [show 1000 = 10 ^ 3 from rfl, ← Nat.pow_add]
    exact Nat.pow_le_pow_right (by decide) (by omega)

theorem heard_lt (digits : List Char) :
    heard digits < 10 ^ min digits.length Token.significantDigits := by
  rw [heard]
  cases spelled : digits? ((digits.dropWhile (· == '0')).take Token.significantDigits) with
  | none => exact Nat.pow_pos (by decide)
  | some count =>
      refine Nat.lt_of_lt_of_le (digits?_lt spelled) (Nat.pow_le_pow_right (by decide) ?_)
      have shorter := length_dropWhile_zero_le digits
      rw [List.length_take]
      omega

theorem readMilli_lt (digits : List Char) : readMilli digits < 1000 :=
  fraction_lt (heard_lt digits)

theorem Zone.date?_fill (zone : Zone) (draft : Draft) : (zone.fill draft).date? = draft.date? := by
  cases zone <;> rfl

theorem Zone.clock?_fill (zone : Zone) (draft : Draft) :
    (zone.fill draft).clock? = draft.clock? := by
  cases zone <;> rfl

theorem shift?_of_offset (draft : Draft) (plus : Bool) {hours minutes : Nat} (hour : hours < 24)
    (minute : minutes < 60) :
    { draft with plus := some plus, hours := some hours, minutes := some minutes }.shift? =
      some (if plus then (hours * 60 + minutes : Int) * 60000
        else -((hours * 60 + minutes : Int) * 60000)) := by
  have word : (2 : Nat) ^ (32 : Nat) = 4294967296 := by decide
  have half : (2 : Nat) ^ (31 : Nat) = 2147483648 := by decide
  have small : (hours * 3600 + minutes * 60) % 4294967296 = hours * 3600 + minutes * 60 :=
    Nat.mod_eq_of_lt (by omega)
  have fits : ¬ 2147483648 ≤ hours * 3600 + minutes * 60 := by omega
  simp only [Draft.shift?, Option.getD_some, word, half, small, if_neg fits]
  refine congrArg some ?_
  cases plus
  · simp only [Bool.false_eq_true, if_false]
    push_cast
    omega
  · simp only [if_true]
    push_cast
    omega

theorem Zone.shift?_fill {zone : Zone} (real : zone.isReal = true) (draft : Draft) :
    (zone.fill draft).shift? = some zone.shift := by
  cases zone with
  | universal => exact shift?_of_offset draft true (by decide) (by decide)
  | offset plus hours minutes colon =>
      simp only [Zone.isReal, Bool.and_eq_true, decide_eq_true_eq] at real
      exact shift?_of_offset draft plus real.1 real.2

theorem Spelling.date?_draft {spelling : Spelling} (real : spelling.IsReal) :
    spelling.draft.date? = some spelling.date := by
  have month := real.month
  have day := real.day
  simp [draft, Draft.empty, Draft.date?]
  omega

theorem Spelling.clock?_draft {spelling : Spelling} (real : spelling.IsReal) :
    spelling.draft.clock? = some (spelling.hour * 3600000 + spelling.minute * 60000 +
      spelling.second * 1000 + readMilli spelling.fraction) := by
  obtain ⟨hour, minute, second⟩ := real.clock
  have milli := readMilli_lt spelling.fraction
  have whole : spelling.draft.time ++ List.replicate (4 - spelling.draft.time.length) 0 =
      [spelling.hour, spelling.minute, spelling.second, readMilli spelling.fraction] := by
    rcases spelling with ⟨date, hour, minute, - | ⟨second, - | ⟨first, others⟩⟩, zone⟩ <;>
      simp [draft, clock, Spelling.second, fraction]
  have no_half : spelling.draft.half = none := rfl
  simp only [Draft.clock?, whole, no_half, hour, minute, second, milli, decide_true, Bool.and_true,
    Bool.true_or, if_true]
  refine congrArg some ?_
  push_cast
  omega

theorem instant_fill {spelling : Spelling} (real : spelling.IsReal)
    (zone_real : spelling.zone.isReal = true) :
    (spelling.zone.fill spelling.draft).instant =
      .moment (spelling.civil.toMillis + readMilli spelling.fraction - spelling.zone.shift) := by
  have clock := real.clock
  have days := Date.toDays_range real.date real.year.1 real.year.2
  have milli := readMilli_lt spelling.fraction
  have shift : -86400000 ≤ spelling.zone.shift ∧ spelling.zone.shift ≤ 86400000 := by
    cases zone : spelling.zone with
    | universal => decide
    | offset plus hours minutes colon =>
        simp only [zone, Zone.isReal, Bool.and_eq_true, decide_eq_true_eq] at zone_real
        simp only [Zone.shift]
        split <;> omega
  rw [Draft.instant, Zone.date?_fill, Zone.clock?_fill, Zone.shift?_fill zone_real,
    Spelling.date?_draft real, Spelling.clock?_draft real]
  refine (Instant.ofMillis_of_range ?_ ?_).trans ?_
  · unfold Instant.farthest dayMillis
    omega
  · unfold Instant.farthest dayMillis
    omega
  · simp only [Civil.toMillis, Spelling.civil, Instant.moment.injEq]
    push_cast
    omega

/-- A spelled instant names the moment that is spelled, by the milliseconds that are read of its
fraction; where the offset of its zone is not real it names none. -/
theorem read_of_spelled {text : String} {spelling : Spelling} (real : spelling.IsReal)
    (spelled : text.toList = spelling.text) :
    Instant.read text =
      if spelling.zone.isReal then
        .moment (spelling.civil.toMillis + readMilli spelling.fraction - spelling.zone.shift)
      else .invalid := by
  rw [Instant.read, ofText_of_spelled real spelled, draft?_tokens real]
  cases zone_real : spelling.zone.isReal with
  | true => exact instant_fill real zone_real
  | false => rfl

def spelledMilli (digits : List Char) : Nat :=
  1000 * (digits? digits).getD 0 / 10 ^ digits.length

/-- The digits of a fraction are read as they are spelled: there are nine at most, or the first one
is no zero. -/
def IsHeard (digits : List Char) : Prop :=
  digits.length ≤ Token.significantDigits ∨ digits.head? ≠ some '0'

theorem digits?_append {front back : List Char} {value rest : Nat}
    (front_spelled : digits? front = some value) (back_spelled : digits? back = some rest) :
    digits? (front ++ back) = some (value * 10 ^ back.length + rest) := by
  induction back using List.reverseRecOn generalizing rest with
  | nil =>
      cases back_spelled
      simpa using front_spelled
  | append_singleton middle last induction =>
      rw [digits?_concat] at back_spelled
      obtain ⟨higher, middle_spelled, units⟩ := Option.bind_eq_some_iff.mp back_spelled
      obtain ⟨unit, digit, rfl⟩ := Option.map_eq_some_iff.mp units
      rw [← List.append_assoc, digits?_concat, induction middle_spelled, Option.bind_some, digit,
        Option.map_some, List.length_append, List.length_singleton, Nat.pow_succ]
      refine congrArg some ?_
      rw [← Nat.mul_assoc]
      omega

theorem digits?_take {digits : List Char} {value : Nat}
    (decimal : ∀ character ∈ digits, (digit? character).isSome)
    (spelled : digits? digits = some value) (count : Nat) :
    digits? (digits.take count) = some (value / 10 ^ (digits.length - count)) := by
  rcases exists_digits? fun character member => decimal character (List.mem_of_mem_take member) with
    ⟨kept, kept_spelled⟩
  rcases exists_digits? fun character member => decimal character (List.mem_of_mem_drop member) with
    ⟨rest, rest_spelled⟩
  have whole := digits?_append kept_spelled rest_spelled
  have small := digits?_lt rest_spelled
  rw [List.take_append_drop, spelled] at whole
  rw [List.length_drop] at whole small
  rw [kept_spelled, Option.some.inj whole, Nat.mul_comm, Nat.mul_add_div (Nat.pow_pos (by decide)),
    Nat.div_eq_of_lt small, Nat.add_zero]

section Fractions

variable {digits : List Char} {value : Nat}

theorem heard_eq (decimal : ∀ character ∈ digits, (digit? character).isSome)
    (spelled : digits? digits = some value) :
    heard digits =
      value / 10 ^ ((digits.dropWhile (· == '0')).length - Token.significantDigits) := by
  have kept_decimal : ∀ character ∈ digits.dropWhile (· == '0'), (digit? character).isSome :=
    fun character member => decimal character ((List.dropWhile_sublist _).mem member)
  rw [heard, digits?_take kept_decimal ((digits?_dropWhile_zero digits).trans spelled),
    Option.getD_some]

/-- As many digits as are kept are divided off, and behind them as many as were not heard. -/
theorem readMilli_of_three (decimal : ∀ character ∈ digits, (digit? character).isSome)
    (spelled : digits? digits = some value) (three : 3 ≤ digits.length) :
    readMilli digits = value / 10 ^ (min digits.length Token.significantDigits - 3 +
      ((digits.dropWhile (· == '0')).length - Token.significantDigits)) := by
  obtain ⟨more, long⟩ := Nat.exists_eq_add_of_le' three
  rw [readMilli, heard_eq decimal spelled, Nat.pow_add, Nat.mul_comm (10 ^ _) (10 ^ _),
    ← Nat.div_div_eq_div_mul, long]
  rfl

theorem spelledMilli_of_three (spelled : digits? digits = some value) (three : 3 ≤ digits.length) :
    spelledMilli digits = value / 10 ^ (digits.length - 3) := by
  rw [spelledMilli, spelled, Option.getD_some, ← Nat.sub_add_cancel three, Nat.pow_add,
    Nat.mul_comm, Nat.add_sub_cancel]
  exact Nat.mul_div_mul_right _ _ (by decide)

theorem readMilli_of_few (few : digits.length < 3) (spelled : digits? digits = some value) :
    readMilli digits = spelledMilli digits := by
  have shorter := length_dropWhile_zero_le digits
  have all : heard digits = value := by
    rw [heard, List.take_of_length_le (show _ ≤ Token.significantDigits by
      unfold Token.significantDigits; omega), digits?_dropWhile_zero, spelled, Option.getD_some]
  have small := digits?_lt spelled
  rw [readMilli, spelledMilli, all, spelled, Option.getD_some]
  match digits, few with
  | [], _ =>
      obtain rfl : value = 0 := by simpa using small
      rfl
  | [_], _ => simp [Reading.fraction]; omega
  | [_, _], _ => simp [Reading.fraction]; omega

theorem readMilli_eq_spelledMilli (decimal : ∀ character ∈ digits, (digit? character).isSome)
    (is_heard : IsHeard digits) : readMilli digits = spelledMilli digits := by
  rcases exists_digits? decimal with ⟨value, spelled⟩
  rcases Nat.lt_or_ge digits.length 3 with few | three
  · exact readMilli_of_few few spelled
  · rw [readMilli_of_three decimal spelled three, spelledMilli_of_three spelled three]
    -- Both divide off the same number of digits.
    congr 2
    unfold IsHeard Token.significantDigits at *
    rcases is_heard with nine | leading
    · have shorter := length_dropWhile_zero_le digits
      omega
    · cases digits with
      | nil => rfl
      | cons first others =>
          rw [List.dropWhile_cons_of_neg (by simpa using leading)]
          omega

theorem spelledMilli_le_readMilli (decimal : ∀ character ∈ digits, (digit? character).isSome) :
    spelledMilli digits ≤ readMilli digits := by
  rcases exists_digits? decimal with ⟨value, spelled⟩
  rcases Nat.lt_or_ge digits.length 3 with few | three
  · exact (readMilli_of_few few spelled).ge
  · have shorter := length_dropWhile_zero_le digits
    rw [readMilli_of_three decimal spelled three, spelledMilli_of_three spelled three]
    refine Nat.div_le_div_left (Nat.pow_le_pow_right (by decide) ?_) (Nat.pow_pos (by decide))
    unfold Token.significantDigits
    omega

end Fractions

namespace Spelling

/-- The point in time that is spelled, in milliseconds since the start of 1970. -/
def stated (spelling : Spelling) : Rat :=
  (spelling.civil.toMillis - spelling.zone.shift : Int) +
    (1000 * (digits? spelling.fraction).getD 0 : Nat) / (10 ^ spelling.fraction.length : Nat)

theorem floor_stated (spelling : Spelling) :
    ⌊spelling.stated⌋ =
      spelling.civil.toMillis - spelling.zone.shift + spelledMilli spelling.fraction := by
  rw [stated, Int.floor_intCast_add, Rat.floor_natCast_div_natCast, spelledMilli]
  rfl

/-- A moment that is kept for a spelled point in time: it is less than a second later, and differs
from it by no whole millisecond if the fraction is heard. -/
structure Keeps (spelling : Spelling) (millis : Int) : Prop where
  above : ⌊spelling.stated⌋ ≤ millis
  below : millis < spelling.stated + 1000
  heard : IsHeard spelling.fraction → millis = ⌊spelling.stated⌋

theorem keeps_readMilli {spelling : Spelling} (real : spelling.IsReal) :
    spelling.Keeps
      (spelling.civil.toMillis + readMilli spelling.fraction - spelling.zone.shift) := by
  have least := spelledMilli_le_readMilli real.fraction
  have below := readMilli_lt spelling.fraction
  have floor := spelling.floor_stated
  refine ⟨by omega, ?_, fun is_heard => ?_⟩
  · have behind : spelling.civil.toMillis + readMilli spelling.fraction - spelling.zone.shift <
        ⌊spelling.stated⌋ + 1000 := by omega
    have floor_le := Int.floor_le spelling.stated
    exact lt_of_lt_of_le (Int.cast_lt.mpr behind) (by push_cast; linarith)
  · have same := readMilli_eq_spelledMilli real.fraction is_heard
    omega

end Spelling

end Gatehouse.Time
