import Gatehouse.Register.Seed
import Gatehouse.Proofs.Text.UpperCase
import Mathlib.Data.List.Induction
import Mathlib.Data.List.Nodup

/-!
# How a register is filled

Users and cards are added one by one; a seed adds its users first (`FilledBy`). Each record was made
by one of the additions, and looking up by number or code finds the record of the earliest one that
fits (`earliest_card?`, `earliest_userByCode?`).
-/

namespace Gatehouse.Register

/-- An addition to the users and cards of a register. -/
inductive Addition where
  | user (details : UserDetails)
  | card (details : CardDetails) (holder : Option Reference)
  deriving DecidableEq

namespace Memory

def add (memory : Memory) : Addition → Memory
  | .user details => (memory.addUser details).1
  | .card details holder => (memory.addCard details holder).1

/-- The register after some additions to an empty one. -/
def ofAdditions (additions : List Addition) : Memory :=
  additions.foldl add .empty

def newUser? (memory : Memory) : Addition → Option User
  | .user details => some (memory.addUser details).2
  | .card .. => none

def newCard? (memory : Memory) : Addition → Option Card
  | .user _ => none
  | .card details holder => some (memory.addCard details holder).2

theorem users_add (memory : Memory) (addition : Addition) :
    (memory.add addition).users = memory.users ++ (memory.newUser? addition).toList := by
  cases addition with
  | user details => rfl
  | card details holder => exact (List.append_nil _).symm

theorem cards_add (memory : Memory) (addition : Addition) :
    (memory.add addition).cards = memory.cards ++ (memory.newCard? addition).toList := by
  cases addition with
  | user details => exact (List.append_nil _).symm
  | card details holder => rfl

theorem ofAdditions_concat (additions : List Addition) (addition : Addition) :
    ofAdditions (additions ++ [addition]) = (ofAdditions additions).add addition := by
  simp [ofAdditions]

/-- A card was added before every other one with its number. -/
def EarliestCard (additions : List Addition) (number : String) (card : Card) : Prop :=
  ∃ before details holder after, additions = before ++ .card details holder :: after ∧
    card = ((ofAdditions before).addCard details holder).2 ∧ card.cardNumber = number ∧
    ∀ earlier ∈ (ofAdditions before).cards, earlier.cardNumber ≠ number

/-- A user was added before every other one with the same code. -/
def EarliestUser (additions : List Addition) (code : String) (user : User) : Prop :=
  ∃ before details after, additions = before ++ .user details :: after ∧
    user = ((ofAdditions before).addUser details).2 ∧ user.code = some code ∧
    ∀ earlier ∈ (ofAdditions before).users, earlier.code ≠ some code

section Search

-- Users and cards are added and looked up alike.
variable {Record : Type} {records : Memory → List Record}
  {made : Memory → Addition → Option Record}

theorem exists_addition_of_find? (empty : records .empty = [])
    (grows : ∀ memory addition,
      records (memory.add addition) = records memory ++ (made memory addition).toList)
    {additions : List Addition} {meets : Record → Bool} {record : Record}
    (found : (records (ofAdditions additions)).find? meets = some record) :
    ∃ before addition after, additions = before ++ addition :: after ∧
      made (ofAdditions before) addition = some record ∧ meets record = true ∧
      ∀ earlier ∈ records (ofAdditions before), meets earlier = false := by
  induction additions using List.reverseRecOn with
  | nil => simp [ofAdditions, empty] at found
  | append_singleton front last induction =>
      -- The last addition comes behind all others, so its record is found only if none of them is.
      rw [ofAdditions_concat, grows, List.find?_append] at found
      cases early : (records (ofAdditions front)).find? meets with
      | some earlier =>
          obtain rfl : earlier = record := by simpa [early] using found
          rcases induction early with ⟨before, addition, after, split, rest⟩
          exact ⟨before, addition, after ++ [last], by simp [split], rest⟩
      | none =>
          rw [early, Option.none_or] at found
          have is_made : made (ofAdditions front) last = some record :=
            Option.mem_toList.mp (List.mem_of_find?_eq_some found)
          refine ⟨front, last, [], rfl, is_made, List.find?_some found, ?_⟩
          simpa using List.find?_eq_none.mp early

end Search

variable {additions : List Addition}

theorem earliest_card? {number : String} {card : Card}
    (found : (ofAdditions additions).card? number = some card) :
    EarliestCard additions number card := by
  rcases exists_addition_of_find? rfl cards_add found with
    ⟨before, addition, after, split, made, matching, earlier⟩
  cases addition with
  | user details => cases made
  | card details holder =>
      refine ⟨before, details, holder, after, split, (Option.some.inj made).symm, ?_, ?_⟩
      · simpa using matching
      · simpa using earlier

theorem earliest_userByCode? {code : String} {user : User}
    (found : (ofAdditions additions).userByCode? code = some user) :
    EarliestUser additions code user := by
  rcases exists_addition_of_find? rfl users_add found with
    ⟨before, addition, after, split, made, matching, earlier⟩
  cases addition with
  | user details =>
      refine ⟨before, details, after, split, (Option.some.inj made).symm, ?_, ?_⟩
      · simpa using matching
      · simpa using earlier
  | card details holder => cases made

end Memory

theorem Memory.exists_card? {memory : Memory} {stored : Card} (known : stored ∈ memory.cards) :
    ∃ card, memory.card? stored.cardNumber = some card :=
  Option.isSome_iff_exists.mp
    (List.find?_isSome.mpr ⟨stored, known, beq_self_eq_true stored.cardNumber⟩)

theorem Memory.exists_userByCode? {memory : Memory} {stored : User} {code : String}
    (known : stored ∈ memory.users) (has_code : stored.code = some code) :
    ∃ user, memory.userByCode? code = some user :=
  Option.isSome_iff_exists.mp (List.find?_isSome.mpr ⟨stored, known, by simp [has_code]⟩)

theorem normalizeCard_normalizeCard (number : String) :
    normalizeCard (normalizeCard number) = normalizeCard number := by
  rw [normalizeCard, normalizeCard, Text.trim_upper_trim, Text.upper_upper]

namespace Seed

/-- What a seed adds to a register: its users, and then its cards. -/
def additions (seed : Seed) : List Addition :=
  seed.users.map .user ++ seed.cards.map (.card · none)

theorem toMemory_eq_ofAdditions (seed : Seed) : seed.toMemory = .ofAdditions seed.additions := by
  rw [toMemory, additions, Memory.ofAdditions, List.foldl_append, List.foldl_map, List.foldl_map]
  rfl

theorem register_eq_ok_iff {document : Json} {memory : Memory} :
    register document = .ok memory ↔
      ∃ seed, ofJson document = .ok seed ∧ memory = seed.toMemory := by
  rw [register]
  cases ofJson document with
  | ok seed => simp [eq_comm]
  | error issues => simp

end Seed

/-- A register that was filled by additions, of which a seed may have made the first ones. -/
inductive FilledBy : List Addition → Memory → Prop
  | empty : FilledBy [] .empty
  | seeded {document : Json} {seed : Seed} {memory : Memory}
      (accepted : Seed.ofJson document = .ok seed)
      (registered : Seed.register document = .ok memory) : FilledBy seed.additions memory
  | added {additions : List Addition} {memory : Memory} (addition : Addition) :
      FilledBy additions memory → FilledBy (additions ++ [addition]) (memory.add addition)

namespace FilledBy

variable {additions : List Addition} {memory : Memory}

theorem eq_ofAdditions (filled : FilledBy additions memory) :
    memory = .ofAdditions additions := by
  induction filled with
  | empty => rfl
  | @seeded document seed memory accepted registered =>
      rcases Seed.register_eq_ok_iff.mp registered with ⟨other, same, rfl⟩
      obtain rfl : seed = other := Except.ok.inj (accepted.symm.trans same)
      exact seed.toMemory_eq_ofAdditions
  | added addition _ induction => rw [Memory.ofAdditions_concat, induction]

theorem normalizeCard_cardNumber (filled : FilledBy additions memory) {card : Card}
    (known : card ∈ memory.cards) : normalizeCard card.cardNumber = card.cardNumber := by
  obtain rfl := filled.eq_ofAdditions
  rcases Memory.exists_card? known with ⟨same, found⟩
  rcases Memory.earliest_card? found with ⟨before, details, holder, after, -, rfl, number, -⟩
  rw [← number]
  exact normalizeCard_normalizeCard details.cardNumber

theorem id_users (filled : FilledBy additions memory) :
    memory.users.map (·.id) =
      (List.range memory.users.length).map fun place : Nat => (place : Int) + 1 := by
  obtain rfl := filled.eq_ofAdditions
  clear filled
  induction additions using List.reverseRecOn with
  | nil => rfl
  | append_singleton front last induction =>
      rw [Memory.ofAdditions_concat, Memory.users_add]
      cases last with
      | user details =>
          rw [List.map_append, induction, Memory.newUser?, Option.toList_some, List.length_append,
            List.length_singleton, List.range_succ, List.map_append]
          rfl
      | card details holder => simpa [Memory.newUser?] using induction

theorem eq_of_id (filled : FilledBy additions memory) {user other : User}
    (known : user ∈ memory.users) (other_known : other ∈ memory.users) (same : user.id = other.id) :
    user = other := by
  have distinct : (memory.users.map (·.id)).Nodup := by
    rw [filled.id_users]
    exact List.nodup_range.map fun place other (same : (place : Int) + 1 = other + 1) => by omega
  exact List.inj_on_of_nodup_map distinct known other_known same

end FilledBy

end Gatehouse.Register
