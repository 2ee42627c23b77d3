import Gatehouse.Proofs.Register.Filled
import Gatehouse.Proofs.Time.International

/-!
# Periods of seeds

What an accepted seed says of the periods of its users and cards, and what the register keeps of it.
Each bound that is stated is kept as an instant, and moments outside of what is stated do not count
as within the period: `Seed.follows_users`, `Seed.follows_cards`. A bound is lost where the offset
of its zone is not real: then an instant is kept that limits nothing.
-/

namespace Gatehouse

namespace Json.Schema

theorem join_eq_ok_iff {α β : Type} {function : Checked (α → β)} {value : Checked α} {result : β} :
    join function value = .ok result ↔
      ∃ applied argument, function = .ok applied ∧ value = .ok argument ∧
        applied argument = result := by
  cases function <;> cases value <;> simp [join]

theorem map_eq_ok_iff {α β : Type} {function : α → β} {value : Checked α} {result : β} :
    value.map function = .ok result ↔
      ∃ argument, value = .ok argument ∧ function argument = result := by
  cases value <;> simp [Except.map]

theorem forall₂_of_elements {α : Type} {read : List String → Json → Checked α} {path : List String}
    {document : Json} {name : String} {accepted : List α}
    (reads : elements read path (document.member? name) = .ok accepted) :
    List.Forall₂ (fun entry result => ∃ place, read place entry = .ok result)
      (document.elementsAt name) accepted := by
  -- Places count on from element to element, so the first one may be any.
  have of_array (values : List Json) (first : Nat) (accepted : List α)
      (reads : (values.zipIdx first).foldr (fun placed rest =>
        join ((read (path ++ [toString placed.2]) placed.1).map List.cons) rest) (.ok []) =
          .ok accepted) :
      List.Forall₂ (fun entry result => ∃ place, read place entry = .ok result) values
        accepted := by
    induction values generalizing first accepted with
    | nil =>
        cases reads
        exact .nil
    | cons value values induction =>
        rcases join_eq_ok_iff.mp reads with ⟨applied, rest, head, tail, rfl⟩
        rcases map_eq_ok_iff.mp head with ⟨result, here, rfl⟩
        exact .cons ⟨_, here⟩ (induction (first + 1) rest tail)
  cases member : document.member? name with
  | none =>
      rw [member] at reads
      cases reads
      simp [elementsAt, partAt, given?, member, Json.elements]
  | some part =>
      rw [member] at reads
      cases part with
      | array values =>
          simpa [elementsAt, partAt, given?, member, Json.elements] using
            of_array values 0 accepted reads
      | _ => cases reads

end Json.Schema

namespace Register

def Addition.userDetails? : Addition → Option UserDetails
  | .user details => some details
  | .card .. => none

def Addition.cardDetails? : Addition → Option CardDetails
  | .user _ => none
  | .card details _ => some details

def CardDetails.normalized (details : CardDetails) : CardDetails :=
  { details with cardNumber := normalizeCard details.cardNumber }

@[simp] theorem CardDetails.validFrom_normalized (details : CardDetails) :
    details.normalized.validFrom = details.validFrom := by
  simp only [normalized]

@[simp] theorem CardDetails.validUntil_normalized (details : CardDetails) :
    details.normalized.validUntil = details.validUntil := by
  simp only [normalized]

/-- An entry of a seed spells an instant out. -/
def Seed.States (entry : Json) (name : String) (spelling : Time.Spelling) : Prop :=
  spelling.IsReal ∧ ∃ text, entry.member? name = some (.text text) ∧ text.toList = spelling.text

namespace Seed

inductive KeepsBound (entry : Json) (name : String) : Option Time.Instant → Prop
  | unstated : (∀ text, entry.member? name ≠ some (.text text)) → KeepsBound entry name none
  | moment {spelling : Time.Spelling} {millis : Int} :
      States entry name spelling → spelling.zone.isReal = true → spelling.Keeps millis →
      KeepsBound entry name (some (.moment millis))
  | lost {spelling : Time.Spelling} :
      States entry name spelling → spelling.zone.isReal = false →
      KeepsBound entry name (some .invalid)

/-- A moment lies between the bounds that an entry states with real offsets. The first bound counts
from its millisecond on. The last one counts up to a second longer if its fraction is not heard. -/
structure WithinStated (entry : Json) (now : Int) : Prop where
  start : ∀ spelling, States entry "validFrom" spelling → spelling.zone.isReal = true →
    ⌊spelling.stated⌋ ≤ now
  stop : ∀ spelling, States entry "validUntil" spelling → spelling.zone.isReal = true →
    now < spelling.stated + 1000 ∧ (Time.IsHeard spelling.fraction → now ≤ spelling.stated)

structure Follows (entry : Json) (validFrom validUntil : Option Time.Instant) : Prop where
  start : KeepsBound entry "validFrom" validFrom
  stop : KeepsBound entry "validUntil" validUntil
  within : ∀ now, isWithin validFrom validUntil (.moment now) = true → WithinStated entry now

section Bounds

variable {path : List String} {entry : Json} {name : String} {instant : Option Time.Instant}

theorem keepsBound_of_accepted (accepted : bound path (entry.member? name) = .ok instant) :
    KeepsBound entry name instant := by
  cases member : entry.member? name with
  | none =>
      rw [member] at accepted
      cases accepted
      exact .unstated (by simp [member])
  | some value =>
      rw [member] at accepted
      cases value with
      | null =>
          cases accepted
          exact .unstated (by simp [member])
      | text text =>
          simp only [bound] at accepted
          split at accepted
          · next datetime =>
              cases accepted
              rcases Time.Iso.exists_spelling datetime with ⟨spelling, real, spelled⟩
              have states : States entry name spelling := ⟨real, text, member, spelled⟩
              rw [Time.read_of_spelled real spelled]
              cases zone : spelling.zone.isReal with
              | true => exact .moment states zone (Time.Spelling.keeps_readMilli real)
              | false => exact .lost states zone
          · cases accepted
      | _ => cases accepted

theorem exists_keeps (accepted : bound path (entry.member? name) = .ok instant)
    {spelling : Time.Spelling} (states : States entry name spelling)
    (zone : spelling.zone.isReal = true) :
    ∃ millis, instant = some (.moment millis) ∧ spelling.Keeps millis := by
  rcases states with ⟨real, text, member, spelled⟩
  simp only [member, bound] at accepted
  split at accepted
  · cases accepted
    rw [Time.read_of_spelled real spelled, if_pos zone]
    exact ⟨_, rfl, Time.Spelling.keeps_readMilli real⟩
  · cases accepted

end Bounds

theorem follows_of_accepted {path other : List String} {entry : Json}
    {validFrom validUntil : Option Time.Instant}
    (start : bound path (entry.member? "validFrom") = .ok validFrom)
    (stop : bound other (entry.member? "validUntil") = .ok validUntil) :
    Follows entry validFrom validUntil := by
  refine ⟨keepsBound_of_accepted start, keepsBound_of_accepted stop, fun now within => ?_⟩
  simp only [isWithin, Bool.and_eq_true, Bool.not_eq_true'] at within
  refine ⟨fun spelling states zone => ?_, fun spelling states zone => ?_⟩
  · rcases exists_keeps start states zone with ⟨millis, rfl, keeps⟩
    have not_early : millis ≤ now := by simpa [Time.Instant.before] using within.1
    exact keeps.above.trans not_early
  · rcases exists_keeps stop states zone with ⟨millis, rfl, keeps⟩
    have not_late : now ≤ millis := by simpa [Time.Instant.before] using within.2
    refine ⟨lt_of_le_of_lt (Int.cast_le.mpr not_late) keeps.below, fun is_heard => ?_⟩
    exact Int.le_floor.mp (keeps.heard is_heard ▸ not_late)

open Json.Schema in
theorem follows_of_user {path : List String} {entry : Json} {details : UserDetails}
    (accepted : user path entry = .ok details) :
    Follows entry details.validFrom details.validUntil := by
  cases entry with
  | object members =>
      simp only [user, join_eq_ok_iff] at accepted
      -- The members come apart from the last one to the first.
      rcases accepted with ⟨_, code, ⟨_, allowKeypad, ⟨_, allowBiometric, ⟨_, allowCard,
        ⟨_, validUntil, ⟨_, validFrom, ⟨_, active, ⟨_, shown, ⟨_, registration, first, -, rfl⟩, -,
          rfl⟩, -, rfl⟩, start, rfl⟩, stop, rfl⟩, -, rfl⟩, -, rfl⟩, -, rfl⟩, -, rfl⟩
      cases first
      exact follows_of_accepted start stop
  | _ => cases accepted

open Json.Schema in
theorem follows_of_card {path : List String} {entry : Json} {details : CardDetails}
    (accepted : card path entry = .ok details) :
    Follows entry details.validFrom details.validUntil := by
  cases entry with
  | object members =>
      simp only [card, join_eq_ok_iff] at accepted
      rcases accepted with ⟨_, validUntil, ⟨_, validFrom, ⟨_, active, ⟨_, registration, ⟨_, number,
        first, -, rfl⟩, -, rfl⟩, -, rfl⟩, start, rfl⟩, stop, rfl⟩
      cases first
      exact follows_of_accepted start stop
  | _ => cases accepted

open Json.Schema in
theorem exists_details_of_ofJson {document : Json} {seed : Seed}
    (accepted : ofJson document = .ok seed) :
    List.Forall₂ (fun entry details => ∃ place, user place entry = .ok details)
        (document.elementsAt "users") seed.users ∧
      List.Forall₂ (fun entry details => ∃ place, card place entry = .ok details)
        (document.elementsAt "cards") seed.cards := by
  cases document with
  | object members =>
      simp only [ofJson, join_eq_ok_iff] at accepted
      rcases accepted with ⟨_, cards, ⟨_, users, first, users_read, rfl⟩, cards_read, rfl⟩
      cases first
      exact ⟨forall₂_of_elements users_read, forall₂_of_elements cards_read⟩
  | _ => cases accepted

theorem users_toMemory (seed : Seed) : seed.toMemory.users.map User.toUserDetails = seed.users := by
  have grown (additions : List Addition) :
      (Memory.ofAdditions additions).users.map User.toUserDetails =
        additions.filterMap Addition.userDetails? := by
    induction additions using List.reverseRecOn with
    | nil => rfl
    | append_singleton front last induction =>
        rw [Memory.ofAdditions_concat, Memory.users_add, List.map_append, induction,
          List.filterMap_append]
        cases last <;> rfl
  rw [toMemory_eq_ofAdditions, grown]
  simp [additions, List.filterMap_map, Function.comp_def, Addition.userDetails?]

theorem cards_toMemory (seed : Seed) :
    seed.toMemory.cards.map Card.toCardDetails = seed.cards.map CardDetails.normalized := by
  have grown (additions : List Addition) :
      (Memory.ofAdditions additions).cards.map Card.toCardDetails =
        (additions.filterMap Addition.cardDetails?).map CardDetails.normalized := by
    induction additions using List.reverseRecOn with
    | nil => rfl
    | append_singleton front last induction =>
        rw [Memory.ofAdditions_concat, Memory.cards_add, List.map_append, induction,
          List.filterMap_append, List.map_append]
        cases last <;> rfl
  rw [toMemory_eq_ofAdditions, grown]
  simp [additions, List.filterMap_map, Function.comp_def, Addition.cardDetails?]

section Registers

variable {document : Json} {memory : Memory}

theorem follows_users (registered : register document = .ok memory) :
    List.Forall₂ (fun entry user => Follows entry user.validFrom user.validUntil)
      (document.elementsAt "users") memory.users := by
  rcases register_eq_ok_iff.mp registered with ⟨seed, accepted, rfl⟩
  have read := (exists_details_of_ofJson accepted).1
  rw [← users_toMemory, List.forall₂_map_right_iff] at read
  exact read.imp fun entry user ⟨place, same⟩ => follows_of_user same

theorem follows_cards (registered : register document = .ok memory) :
    List.Forall₂ (fun entry card => Follows entry card.validFrom card.validUntil)
      (document.elementsAt "cards") memory.cards := by
  rcases register_eq_ok_iff.mp registered with ⟨seed, accepted, rfl⟩
  have read : List.Forall₂ (fun entry details => Follows entry details.validFrom details.validUntil)
      (document.elementsAt "cards") (seed.toMemory.cards.map Card.toCardDetails) := by
    rw [cards_toMemory, List.forall₂_map_right_iff]
    simp only [CardDetails.validFrom_normalized, CardDetails.validUntil_normalized]
    exact (exists_details_of_ofJson accepted).2.imp fun entry details ⟨place, same⟩ =>
      follows_of_card same
  exact List.forall₂_map_right_iff.mp read

end Registers

end Seed

end Register

end Gatehouse
