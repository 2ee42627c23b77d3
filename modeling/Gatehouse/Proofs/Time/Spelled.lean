import Gatehouse.Proofs.Time.Printed
import Gatehouse.Time.Iso

/-!
# Spelled instants

How the instants of documents are spelled: a day and a time of day, of which the seconds and their
fraction may be missing, and a zone. Whatever meets the pattern for instants is spelled so, with a
real day and time of day (`exists_spelling`); only the offset of the zone need not be real.
-/

namespace Gatehouse.Time

inductive Zone where
  | universal
  | offset (plus : Bool) (hours minutes : Nat) (colon : Bool)
  deriving DecidableEq

namespace Zone

def text : Zone → List Char
  | .universal => ['Z']
  | .offset plus hours minutes colon =>
      (if plus then '+' else '-') ::
        (padded 2 hours ++ (if colon then [':'] else []) ++ padded 2 minutes)

def Fits : Zone → Prop
  | .universal => True
  | .offset _ hours minutes _ => hours < 100 ∧ minutes < 100

/-- The offset is one of hours and minutes of a day. -/
def isReal : Zone → Bool
  | .universal => true
  | .offset _ hours minutes _ => hours < 24 && minutes < 60

def shift : Zone → Int
  | .universal => 0
  | .offset plus hours minutes _ =>
      let ahead : Int := (hours * 60 + minutes) * 60000
      if plus then ahead else -ahead

end Zone

/-- An instant as a document spells it: the seconds may be missing, and so may the digits of their
fraction. -/
structure Spelling where
  date : Date
  hour : Nat
  minute : Nat
  seconds : Option (Nat × List Char)
  zone : Zone
  deriving DecidableEq

def secondsText : Option (Nat × List Char) → List Char
  | none => []
  | some (second, digits) =>
      ':' :: (padded 2 second ++ if digits.isEmpty then [] else '.' :: digits)

namespace Spelling

def second (spelling : Spelling) : Nat :=
  (spelling.seconds.map Prod.fst).getD 0

def fraction (spelling : Spelling) : List Char :=
  (spelling.seconds.map Prod.snd).getD []

def text (spelling : Spelling) : List Char :=
  padded 4 spelling.date.year.toNat ++ '-' :: (padded 2 spelling.date.month ++
    '-' :: (padded 2 spelling.date.day ++ 'T' :: (padded 2 spelling.hour ++
      ':' :: (padded 2 spelling.minute ++ (secondsText spelling.seconds ++ spelling.zone.text)))))

def civil (spelling : Spelling) : Civil :=
  ⟨spelling.date, spelling.hour, spelling.minute, spelling.second, 0⟩

/-- A real day of a year with four digits, a real time of day, and digits where they belong. -/
structure IsReal (spelling : Spelling) : Prop where
  civil : spelling.civil.isReal = true
  year : 0 ≤ spelling.date.year ∧ spelling.date.year ≤ 9999
  fraction : ∀ character ∈ spelling.fraction, (digit? character).isSome
  zone : spelling.zone.Fits

namespace IsReal

variable {spelling : Spelling} (real : spelling.IsReal)

include real

theorem date : spelling.date.isReal = true :=
  ((Civil.isReal_iff _).mp real.civil).1

theorem month : 1 ≤ spelling.date.month ∧ spelling.date.month ≤ 12 :=
  ⟨((Date.isReal_iff _).mp real.date).1, ((Date.isReal_iff _).mp real.date).2.1⟩

theorem day : 1 ≤ spelling.date.day ∧ spelling.date.day ≤ 31 :=
  ⟨((Date.isReal_iff _).mp real.date).2.2.1, Date.day_le_of_isReal real.date⟩

theorem clock : spelling.hour < 24 ∧ spelling.minute < 60 ∧ spelling.second < 60 :=
  let ⟨_, hour, minute, second, _⟩ := (Civil.isReal_iff _).mp real.civil
  ⟨hour, minute, second⟩

end IsReal

end Spelling

theorem exists_digits? {characters : List Char}
    (digits : ∀ character ∈ characters, (digit? character).isSome) :
    ∃ count, digits? characters = some count := by
  induction characters using List.reverseRecOn with
  | nil => exact ⟨0, rfl⟩
  | append_singleton front last induction =>
      rcases induction fun character member => digits character (List.mem_append_left _ member) with
        ⟨value, spelled⟩
      rcases Option.isSome_iff_exists.mp (digits last (by simp)) with ⟨unit, digit⟩
      exact ⟨value * 10 + unit, by rw [digits?_concat, spelled, digit]; rfl⟩

theorem exists_padded_two {first second : Char} (first_digit : (digit? first).isSome)
    (second_digit : (digit? second).isSome) :
    ∃ count, [first, second] = padded 2 count ∧ count < 100 := by
  have both : ∀ character ∈ [first, second], (digit? character).isSome := by
    simp [first_digit, second_digit]
  rcases exists_digits? both with ⟨count, spelled⟩
  exact ⟨count, (padded_of_digits? (List.cons_ne_nil _ _) spelled).symm, digits?_lt spelled⟩

namespace Iso

theorem exists_zone {text : List Char} (zone : isZone text = true) :
    ∃ zone : Zone, text = zone.text ∧ zone.Fits := by
  unfold isZone at zone
  split at zone
  · exact ⟨.universal, rfl, trivial⟩
  · next sign rest _ =>
      simp only [Bool.and_eq_true, Bool.or_eq_true, beq_iff_eq] at zone
      rcases zone with ⟨⟨signed, four⟩, digits⟩
      have sign_is : sign = if sign == '+' then '+' else '-' := by
        rcases signed with rfl | rfl <;> rfl
      -- With or without a colon there are four digits.
      split at four
      · next first second others _ =>
          obtain ⟨third, fourth, rfl⟩ : ∃ third fourth, others = [third, fourth] :=
            List.length_eq_two.mp (by simpa using four)
          simp only [List.all_cons, List.all_nil, Bool.and_eq_true] at digits
          rcases exists_padded_two digits.1 digits.2.1 with ⟨hours, front, hours_fit⟩
          rcases exists_padded_two digits.2.2.1 digits.2.2.2.1 with ⟨minutes, back, minutes_fit⟩
          refine ⟨.offset (sign == '+') hours minutes true, ?_, hours_fit, minutes_fit⟩
          rw [Zone.text, ← front, ← back, ← sign_is]
          rfl
      · obtain ⟨first, second, third, fourth, rfl⟩ : ∃ first second third fourth,
            rest = [first, second, third, fourth] :=
          match rest, four with
          | [first, second, third, fourth], _ => ⟨first, second, third, fourth, rfl⟩
        simp only [List.all_cons, List.all_nil, Bool.and_eq_true] at digits
        rcases exists_padded_two digits.1 digits.2.1 with ⟨hours, front, hours_fit⟩
        rcases exists_padded_two digits.2.2.1 digits.2.2.2.1 with ⟨minutes, back, minutes_fit⟩
        refine ⟨.offset (sign == '+') hours minutes false, ?_, hours_fit, minutes_fit⟩
        rw [Zone.text, ← front, ← back, ← sign_is]
        rfl
  · cases zone

theorem exists_seconds {text rest : List Char} {second : Nat}
    (taken : takeSeconds text = some (second, rest)) :
    ∃ seconds : Option (Nat × List Char), text = secondsText seconds ++ rest ∧
      second = (seconds.map Prod.fst).getD 0 ∧
      ∀ character ∈ (seconds.map Prod.snd).getD [], (digit? character).isSome := by
  unfold takeSeconds at taken
  split at taken
  · next behind =>
      cases found : takeDigits 2 behind with
      | none => simp [found] at taken
      | some parts =>
          rcases parts with ⟨whole, back⟩
          obtain ⟨rfl, -⟩ := (takeDigits_eq_some_iff (by decide)).mp found
          rw [found] at taken
          split at taken
          · next _ behind_point point =>
              -- Behind the point stands at least one digit, and all that follow are taken.
              obtain ⟨rfl, rfl⟩ := Prod.mk.inj (Option.some.inj point)
              let digits := behind_point.takeWhile fun character => (digit? character).isSome
              have whole_text : digits ++ behind_point.drop digits.length = behind_point :=
                (List.prefix_iff_eq_append.mp (List.takeWhile_prefix _))
              dsimp only at taken
              split at taken
              · cases taken
              · next filled =>
                  obtain ⟨rfl, rfl⟩ := Prod.mk.inj (Option.some.inj taken)
                  refine ⟨some (whole, digits), ?_, rfl, fun character member =>
                    List.mem_takeWhile_imp (p := fun character => (digit? character).isSome) member⟩
                  rw [secondsText, if_neg filled]
                  simp [digits, whole_text]
          · obtain ⟨rfl, rfl⟩ := Prod.mk.inj (Option.some.inj taken)
            exact ⟨some (whole, []), by simp [secondsText], rfl, by simp⟩
  · obtain ⟨rfl, rfl⟩ := Prod.mk.inj (Option.some.inj taken)
    exact ⟨none, rfl, rfl, by simp⟩

/-- What meets the pattern is spelled out, with a real day and a real time of day. -/
theorem exists_spelling {text : String} (datetime : isDatetime text = true) :
    ∃ spelling : Spelling, spelling.IsReal ∧ text.toList = spelling.text := by
  obtain ⟨civil, spelled, real⟩ := (Option.any_eq_true ..).mp datetime
  simp only [readCivil, Option.bind_eq_bind, Option.bind_eq_some_iff, Prod.exists,
    takeDigits_eq_some_iff (show 0 < 2 by decide), takeDigits_eq_some_iff (show 0 < 4 by decide),
    takeMark_eq_some_iff] at spelled
  rcases spelled with ⟨year, _, ⟨whole, yearFits⟩, _, rfl, month, _, ⟨rfl, -⟩, _, rfl, day, _,
    ⟨rfl, -⟩, _, rfl, hour, _, ⟨rfl, -⟩, _, rfl, minute, _, ⟨rfl, -⟩, second, _, taken, last⟩
  split at last
  · next zoned =>
      cases last
      rcases exists_zone zoned with ⟨zone, rfl, fits⟩
      rcases exists_seconds taken with ⟨seconds, rfl, rfl, digits⟩
      refine ⟨⟨⟨year, month, day⟩, hour, minute, seconds, zone⟩, ⟨real, ?_, digits, fits⟩, ?_⟩
      · simp only
        omega
      · rw [whole]
        rfl
  · cases last

end Iso

end Gatehouse.Time
