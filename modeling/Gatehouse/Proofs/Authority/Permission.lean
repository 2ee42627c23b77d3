import Gatehouse.Authority.Verdict
import Gatehouse.Proofs.Text.UpperCase

/-!
# When an authority permits

What a reply has to hold for it to let a person in, said of the reply itself: its truth value, or
the first text in it that is recognised. Nothing else lets a person in, apart from a text that
denies and grants at once, which counts as a grant: `granted_iff_permits_or_contradicts`.
-/

namespace Gatehouse.Authority.Verdict

def Carries (phrase text : String) : Prop :=
  phrase.toList <:+: (Text.upper text).toList

/-- Whether a text is one of some words, in any letter case and with any blanks around it. -/
def IsOneOf (words : List String) (text : String) : Prop :=
  Text.upper (Text.trim text) ∈ words

def SaysGrant (text : String) : Prop :=
  IsOneOf grantWords text ∨ Carries grantPhrase text

def SaysDenial (text : String) : Prop :=
  IsOneOf denialWords text ∨ Carries denialPhrase text

def IsRecognised (text : String) : Prop :=
  SaysGrant text ∨ SaysDenial text

/-- The truth value of a reply: that of one member, and of another only if the first has none. -/
inductive Flagged (reply : Json) (value : Bool) : Prop
  | granted (given : reply.member? "granted" = some (.truth value))
  | accepted (missing : ∀ other, reply.member? "granted" ≠ some (.truth other))
      (given : reply.member? "accepted" = some (.truth value))

/-- A text decides for a reply: it is recognised, and no text under an earlier name is. -/
def Decides (reply : Json) (text : String) : Prop :=
  ∃ before name after,
    ["status", "result", "decision", "message", "details"] = before ++ name :: after ∧
      reply.member? name = some (.text text) ∧ IsRecognised text ∧
      ∀ earlier ∈ before, ∀ other, reply.member? earlier = some (.text other) →
        ¬ IsRecognised other

/-- A reply permits: its truth value says so, or it has none and the deciding text grants and does
not deny. -/
def Permits (reply : Json) : Prop :=
  Flagged reply true ∨
    (∀ value, ¬ Flagged reply value) ∧
      ∃ text, Decides reply text ∧ SaysGrant text ∧ ¬ Carries denialPhrase text

/-- A reply without a truth value, of which the deciding text carries both phrases. -/
def Contradicts (reply : Json) : Prop :=
  (∀ value, ¬ Flagged reply value) ∧
    ∃ text, Decides reply text ∧ Carries grantPhrase text ∧ Carries denialPhrase text

theorem holdsPhrase_iff (phrase characters : List Char) :
    holdsPhrase phrase characters = true ↔ phrase <:+: characters := by
  induction characters with
  | nil => simp [holdsPhrase]
  | cons first rest induction =>
      rw [holdsPhrase, Bool.or_eq_true, induction, List.infix_cons_iff, List.isPrefixOf_iff_prefix]

section Words

variable {text : String}

theorem holdsPhrase_normalize_iff {phrase : String} (filled : phrase.toList ≠ [])
    (front_solid : ∀ first ∈ phrase.toList.head?, Text.isBlank first = false)
    (back_solid : ∀ last ∈ phrase.toList.getLast?, Text.isBlank last = false) :
    holdsPhrase phrase.toList (normalize text).toList = true ↔ Carries phrase text := by
  rw [holdsPhrase_iff, normalize, Text.infix_upper_trim filled front_solid back_solid, Carries]

theorem holdsPhrase_grant_iff :
    holdsPhrase grantPhrase.toList (normalize text).toList = true ↔ Carries grantPhrase text :=
  holdsPhrase_normalize_iff (by decide) (by rintro first ⟨⟩; decide) (by rintro last ⟨⟩; decide)

theorem holdsPhrase_denial_iff :
    holdsPhrase denialPhrase.toList (normalize text).toList = true ↔ Carries denialPhrase text :=
  holdsPhrase_normalize_iff (by decide) (by rintro first ⟨⟩; decide) (by rintro last ⟨⟩; decide)

theorem saysGrant_iff :
    (grantWords.contains (normalize text) ||
      holdsPhrase grantPhrase.toList (normalize text).toList) = true ↔ SaysGrant text := by
  rw [Bool.or_eq_true, List.contains_iff_mem, holdsPhrase_grant_iff, SaysGrant, IsOneOf, normalize]

theorem saysDenial_iff :
    (denialWords.contains (normalize text) ||
      holdsPhrase denialPhrase.toList (normalize text).toList) = true ↔ SaysDenial text := by
  rw [Bool.or_eq_true, List.contains_iff_mem, holdsPhrase_denial_iff, SaysDenial, IsOneOf,
    normalize]

instance : Decidable (SaysGrant text) :=
  decidable_of_iff _ saysGrant_iff

instance : Decidable (SaysDenial text) :=
  decidable_of_iff _ saysDenial_iff

variable (text) in
theorem ofWord?_eq :
    ofWord? text =
      if SaysGrant text then some true else if SaysDenial text then some false else none := by
  simp only [ofWord?, saysGrant_iff, saysDenial_iff]

theorem ofWord?_eq_some_true_iff : ofWord? text = some true ↔ SaysGrant text := by
  rw [ofWord?_eq]
  split
  · next grants => simp [grants]
  · next ungranting => split <;> simp [ungranting]

theorem ofWord?_eq_none_iff : ofWord? text = none ↔ ¬ IsRecognised text := by
  rw [ofWord?_eq, IsRecognised, not_or]
  split
  · next grants => simp [grants]
  · next ungranting => split <;> simp [*]

theorem isRecognised_of_ofWord? {value : Bool} (found : ofWord? text = some value) :
    IsRecognised text := by
  by_contra unread
  simp [ofWord?_eq_none_iff.mpr unread] at found

theorem carries_grant_of_contradiction (grants : SaysGrant text)
    (denies : Carries denialPhrase text) : Carries grantPhrase text := by
  rcases grants with word | phrase
  · have held := holdsPhrase_denial_iff.mpr denies
    have apart : ∀ word ∈ grantWords, holdsPhrase denialPhrase.toList word.toList = false := by
      decide
    rw [normalize, apart _ word] at held
    cases held
  · exact phrase

end Words

section Replies

variable {reply : Json}

theorem textMember?_eq_some_iff {name text : String} :
    textMember? reply name = some text ↔ reply.member? name = some (.text text) := by
  rw [textMember?]
  cases reply.member? name with
  | none => simp
  | some value => cases value <;> simp [Json.text?]

theorem truth_eq_some_iff {name : String} {value : Bool} :
    (reply.member? name).bind Json.truth? = some value ↔
      reply.member? name = some (.truth value) := by
  cases reply.member? name with
  | none => simp
  | some value => cases value <;> simp [Json.truth?]

theorem flag?_eq_some_iff {value : Bool} : flag? reply = some value ↔ Flagged reply value := by
  rw [flag?]
  cases granted : (reply.member? "granted").bind Json.truth? with
  | some flag =>
      rw [truth_eq_some_iff] at granted
      constructor
      · rintro ⟨⟩
        exact .granted granted
      · intro flagged
        cases flagged with
        | granted given => simpa [granted] using given
        | accepted missing => exact absurd granted (missing flag)
  | none =>
      have missing : ∀ other, reply.member? "granted" ≠ some (.truth other) := by
        intro other given
        simp [truth_eq_some_iff.mpr given] at granted
      rw [Option.orElse_none, truth_eq_some_iff]
      constructor
      · exact .accepted missing
      · intro flagged
        cases flagged with
        | granted given => exact absurd given (missing value)
        | accepted _ given => exact given

theorem flag?_eq_none_iff : flag? reply = none ↔ ∀ value, ¬ Flagged reply value := by
  simp only [← flag?_eq_some_iff, Option.eq_none_iff_forall_not_mem, Option.mem_def]

theorem word?_eq_some_iff {value : Bool} :
    word? reply = some value ↔ ∃ text, Decides reply text ∧ ofWord? text = some value := by
  have unread_iff (name : String) : (textMember? reply name).bind ofWord? = none ↔
      ∀ other, reply.member? name = some (.text other) → ¬ IsRecognised other := by
    simp only [Option.bind_eq_none_iff, textMember?_eq_some_iff, ofWord?_eq_none_iff]
  have searched : word? reply =
      wordMembers.findSome? fun name => (textMember? reply name).bind ofWord? := by
    rw [word?, ← List.head?_filterMap, List.filterMap_filterMap, List.head?_filterMap]
  rw [searched, List.findSome?_eq_some_iff]
  constructor
  · rintro ⟨before, name, after, split, found, earlier⟩
    rcases Option.bind_eq_some_iff.mp found with ⟨text, given, read⟩
    refine ⟨text, ⟨before, name, after, split, textMember?_eq_some_iff.mp given,
      isRecognised_of_ofWord? read, fun other member => ?_⟩, read⟩
    exact (unread_iff other).mp (earlier other member)
  · rintro ⟨text, ⟨before, name, after, split, given, -, earlier⟩, read⟩
    refine ⟨before, name, after, split, ?_, fun other member => ?_⟩
    · rw [textMember?_eq_some_iff.mpr given, Option.bind_some, read]
    · exact (unread_iff other).mpr (earlier other member)

theorem word?_eq_some_true_iff :
    word? reply = some true ↔ ∃ text, Decides reply text ∧ SaysGrant text := by
  simp only [word?_eq_some_iff, ofWord?_eq_some_true_iff]

/-- A reply with members grants by its truth value, or, without one, by its word. -/
theorem granted_object_iff (members : List (String × Json)) :
    (interpret (some (.object members))).granted = true ↔
      flag? (.object members) = some true ∨
        flag? (.object members) = none ∧ word? (.object members) = some true := by
  rw [interpret]
  cases flag? (.object members) with
  | some flag => simp
  | none =>
      cases word? (.object members) with
      | some word => simp
      | none => simp

theorem permits_or_contradicts_iff :
    Permits reply ∨ Contradicts reply ↔
      Flagged reply true ∨
        (∀ value, ¬ Flagged reply value) ∧ ∃ text, Decides reply text ∧ SaysGrant text := by
  rw [Permits, Contradicts]
  constructor
  · rintro ((flagged | ⟨unflagged, text, decides, grants, -⟩) |
      ⟨unflagged, text, decides, grants, -⟩)
    · exact .inl flagged
    · exact .inr ⟨unflagged, text, decides, grants⟩
    · exact .inr ⟨unflagged, text, decides, .inr grants⟩
  · rintro (flagged | ⟨unflagged, text, decides, grants⟩)
    · exact .inl (.inl flagged)
    · by_cases denies : Carries denialPhrase text
      · exact .inr ⟨unflagged, text, decides, carries_grant_of_contradiction grants denies, denies⟩
      · exact .inl (.inr ⟨unflagged, text, decides, grants, denies⟩)

end Replies

/-- A reply lets a person in exactly if it has members and these permit, or if the text that
decides carries both the phrase that grants and the one that denies. -/
theorem granted_iff_permits_or_contradicts (reply : Option Json) :
    (interpret reply).granted = true ↔
      ∃ members, reply = some (.object members) ∧
        (Permits (.object members) ∨ Contradicts (.object members)) := by
  match reply with
  | some (.object members) =>
      rw [granted_object_iff, flag?_eq_some_iff, flag?_eq_none_iff, word?_eq_some_true_iff,
        ← permits_or_contradicts_iff]
      simp
  | none | some .null | some (.truth _) | some (.number _) | some (.text _) | some (.array _) =>
      simp [interpret]

/-- A denial that mentions when access is granted lets a person in. -/
theorem granted_by_denial :
    let reply : Json := .object [("message", .text "Acesso negado. Acesso liberado as 8h.")]
    (interpret (some reply)).granted = true ∧ ¬ Permits reply := by
  refine ⟨by decide +kernel, ?_⟩
  rintro ((given | ⟨-, given⟩) | ⟨-, text, ⟨before, name, after, split, given, -⟩, -, undenying⟩)
  · simp [Json.member?] at given
  · simp [Json.member?] at given
  · have same : text = "Acesso negado. Acesso liberado as 8h." := by
      rw [Json.member?] at given
      simp at given
      exact given.2.symm
    refine undenying (holdsPhrase_denial_iff.mp ?_)
    rw [same]
    decide +kernel

end Gatehouse.Authority.Verdict
