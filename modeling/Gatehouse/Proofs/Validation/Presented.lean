import Gatehouse.Proofs.Register.Filled
import Gatehouse.Proofs.Validation.Requirements

/-!
# Presenting a credential

Which record of the register a request comes to. Card numbers are kept and looked up in one normal
form, so each card can be presented; codes are kept as they are given but looked up without blanks,
so a code with blanks at its ends is never found. `credentials_resolve` says both.
-/

namespace Gatehouse.Validation.Offline

open Gatehouse.Access Gatehouse.Register

/-- How a request goes on when a register has answered its first question. -/
def resolved (settings : Settings) (memory : Memory) (now started : Time.Instant)
    (request : Request) : Next :=
  match start request with
  | .ask query stage => resume settings now started request stage (memory.answer query).2
  | other => other

section

variable {settings : Settings} {memory : Memory} {now started : Time.Instant} {request : Request}

theorem resolved_keypad (keypad : request.reader = .keypad) :
    resolved settings memory now started request =
      match memory.userByCode? (Text.trim request.credential) with
      | some user => .rest (.checks (personOf request user) user.view)
      | none => deny settings now request (nobody request) .codeNotFound .resolving := by
  simp only [resolved, start, keypad, Memory.answer, personOf, nobody, credentialOf]
  cases memory.userByCode? (Text.trim request.credential) <;> rfl

theorem resolved_card (shown : request.reader ≠ .keypad) :
    resolved settings memory now started request =
      match memory.card? (normalizeCard request.credential) with
      | some card =>
          checkCard settings now started request (normalizeCard request.credential) card.view
      | none => deny settings now request (nobody request) .cardNotFound .resolving := by
  cases reader : request.reader with
  | keypad => exact absurd reader shown
  | card =>
      simp only [resolved, start, reader, Memory.answer, nobody, credentialOf]
      cases memory.card? (normalizeCard request.credential) <;> rfl
  | biometric =>
      simp only [resolved, start, reader, Memory.answer, nobody, credentialOf]
      cases memory.card? (normalizeCard request.credential) <;> rfl

end

variable {additions : List Addition} {memory : Memory}

/-- Users are told apart by their numbers, so whom a request comes to is the one that was found. -/
theorem userByCode?_of_resolved (filled : FilledBy additions memory) {settings : Settings}
    {now started : Time.Instant} {request : Request} (keypad : request.reader = .keypad)
    {user : User} (known : user ∈ memory.users)
    (reached : resolved settings memory now started request =
      .rest (.checks (personOf request user) user.view)) :
    memory.userByCode? (Text.trim request.credential) = some user := by
  rw [resolved_keypad keypad] at reached
  cases found : memory.userByCode? (Text.trim request.credential) with
  | none =>
      simp only [found, deny] at reached
      split at reached <;> cases reached
  | some other =>
      have same_person : personOf request other = personOf request user := by
        simp only [found, Next.rest.injEq, Stage.checks.injEq] at reached
        exact reached.1
      have same_id : other.id = user.id := by
        have same_reference := congrArg (fun subject => subject.user.toInt) same_person
        simpa only [personOf, Json.toInt_ofInt] using same_reference
      rw [filled.eq_of_id (List.mem_of_find?_eq_some found) known same_id]

/-- A request for a stored card comes to the earliest one with its number, and a request with a code
comes to the earliest user who has it. No code with blanks at its ends brings anybody in. -/
theorem credentials_resolve (filled : FilledBy additions memory) (settings : Settings)
    (now started : Time.Instant) (request : Request) :
    (∀ stored ∈ memory.cards, request.reader ≠ .keypad →
      normalizeCard request.credential = normalizeCard stored.cardNumber →
      ∃ card, Memory.EarliestCard additions stored.cardNumber card ∧
        resolved settings memory now started request =
          checkCard settings now started request stored.cardNumber card.view) ∧
    (∀ stored ∈ memory.users, ∀ code, stored.code = some code → request.reader = .keypad →
      (Text.trim request.credential = code →
        ∃ user, Memory.EarliestUser additions code user ∧
          resolved settings memory now started request =
            .rest (.checks (personOf request user) user.view)) ∧
      (Text.trim code ≠ code →
        resolved settings memory now started request ≠
          .rest (.checks (personOf request stored) stored.view))) := by
  obtain rfl := filled.eq_ofAdditions
  refine ⟨fun stored known shown same => ?_, fun stored known code has_code keypad =>
    ⟨fun presented => ?_, fun blanks reached => ?_⟩⟩
  · rw [filled.normalizeCard_cardNumber known] at same
    rcases Memory.exists_card? known with ⟨card, found⟩
    refine ⟨card, Memory.earliest_card? found, ?_⟩
    rw [resolved_card shown, same, found]
  · rcases Memory.exists_userByCode? known has_code with ⟨user, found⟩
    refine ⟨user, Memory.earliest_userByCode? found, ?_⟩
    rw [resolved_keypad keypad, presented, found]
  · have found := userByCode?_of_resolved filled keypad known reached
    have user_code : stored.code = some (Text.trim request.credential) := by
      simpa using List.find?_some found
    obtain rfl : code = Text.trim request.credential :=
      Option.some.inj (has_code.symm.trans user_code)
    exact blanks (Text.trim_trim request.credential)

/-- A card is found by its number in another letter case and with blanks around. -/
theorem credentials_resolve_padded :
    let additions : List Addition := [.card ⟨"straße 1", "T100", true, none, none⟩ none]
    let memory := Memory.ofAdditions additions
    let request : Request :=
      { credential := "\u00a0STRASSE 1 ", timestamp := .invalid, direction := .entry
        reader := .card }
    FilledBy additions memory ∧
      ∃ card, Memory.EarliestCard additions "STRASSE 1" card ∧
        resolved ⟨defaultWindow, true, .finite 0⟩ memory (.moment 0) (.moment 0) request =
          checkCard ⟨defaultWindow, true, .finite 0⟩ (.moment 0) (.moment 0) request "STRASSE 1"
            card.view := by
  intro additions memory request
  have filled : FilledBy additions memory := .added _ .empty
  let stored : Card := ⟨⟨"STRASSE 1", "T100", true, none, none⟩, 1, .ofInt 0⟩
  have known : stored ∈ memory.cards := by decide +kernel
  exact ⟨filled, (credentials_resolve filled _ (.moment 0) (.moment 0) request).1 stored known
    (by decide) (by decide +kernel)⟩

/-- A code with blanks, typed exactly as it was given, brings in somebody else. -/
theorem resolved_to_another :
    let padded : UserDetails := ⟨"T100", "Ana", true, none, none, true, false, true, some " 12 "⟩
    let bare : UserDetails := ⟨"T200", "Bruno", true, none, none, true, false, true, some "12"⟩
    let additions : List Addition := [.user padded, .user bare]
    let memory := Memory.ofAdditions additions
    let request : Request :=
      { credential := " 12 ", timestamp := .invalid, direction := .entry, reader := .keypad }
    let bruno : User := { bare with id := 2 }
    padded.code = some request.credential ∧ bruno.code ≠ some request.credential ∧
      resolved ⟨defaultWindow, true, .finite 0⟩ memory (.moment 0) (.moment 0) request =
        .rest (.checks (personOf request bruno) bruno.view) := by
  intro padded bare additions memory request bruno
  have found : memory.userByCode? (Text.trim request.credential) = some bruno := by decide +kernel
  refine ⟨rfl, by decide, ?_⟩
  rw [resolved_keypad rfl, found]

end Gatehouse.Validation.Offline
