import Gatehouse.Text.UpperCase
import Gatehouse.Proofs.Text.Trimmed

/-!
# Upper-case texts

The table of upper-case forms leads out of itself: no character that it gives is one that it
changes, and neither side of it holds a blank. So a text in upper case stays as it is
(`upper_upper`), and it makes no difference whether blanks are trimmed before or after
(`trim_upper_trim`, `infix_upper_trim`). Codes are compared run by run, as the table lists them.
-/

namespace Gatehouse.Text

structure CodeRun where
  first : Nat
  last : Nat
  step : Nat

namespace CodeRun

def Holds (run : CodeRun) (code : Nat) : Prop :=
  run.first ≤ code ∧ code ≤ run.last ∧ (code - run.first) % run.step = 0

def isOneSided (run : CodeRun) : Bool :=
  run.first.beq run.last || (run.step % 2).beq 0

/-- Whether two runs have no code in common: one ends before the other, or one is even and the
other odd. -/
def isApart (left right : CodeRun) : Bool :=
  left.last.blt right.first || right.last.blt left.first ||
    (left.isOneSided && right.isOneSided && ((left.first + right.first) % 2).beq 1)

def isScalar (run : CodeRun) : Bool :=
  run.last.blt 0xd800 || (Nat.blt 0xdfff run.first && run.last.blt 0x110000)

theorem Holds.even_distance {run : CodeRun} {code : Nat} (holds : run.Holds code)
    (one_sided : run.isOneSided = true) : (code - run.first) % 2 = 0 := by
  rcases holds with ⟨from_first, to_last, on_step⟩
  rcases Bool.or_eq_true_iff.mp one_sided with single | even
  · have same := Nat.eq_of_beq_eq_true single
    omega
  · have divides : 2 ∣ run.step := Nat.dvd_of_mod_eq_zero (Nat.eq_of_beq_eq_true even)
    rw [← Nat.mod_mod_of_dvd _ divides, on_step]

theorem Holds.not_of_isApart {left right : CodeRun} {code : Nat} (holds : left.Holds code)
    (apart : left.isApart right = true) : ¬ right.Holds code := by
  intro other
  simp only [isApart, Bool.or_eq_true, Bool.and_eq_true, Nat.blt_eq] at apart
  rcases apart with (before | behind) | ⟨⟨one_sided, other_sided⟩, odd⟩
  · exact absurd (Nat.le_trans other.1 holds.2.1) (by omega)
  · exact absurd (Nat.le_trans holds.1 other.2.1) (by omega)
  · have distance := holds.even_distance one_sided
    have other_distance := other.even_distance other_sided
    have mixed := Nat.eq_of_beq_eq_true odd
    have from_first := holds.1
    have from_other := other.1
    omega

theorem Holds.isValidChar {run : CodeRun} {code : Nat} (holds : run.Holds code)
    (scalar : run.isScalar = true) : code.isValidChar := by
  rcases holds with ⟨from_first, to_last, -⟩
  simp only [isScalar, Bool.or_eq_true, Bool.and_eq_true, Nat.blt_eq] at scalar
  rw [Nat.isValidChar]
  omega

end CodeRun

def lowerRuns : List CodeRun :=
  upperRuns.map (fun (first, last, step, _) => ⟨first, last, step⟩) ++
    upperExpansions.map fun (code, _) => ⟨code, code, 1⟩

def imageRuns : List CodeRun :=
  upperRuns.map (fun (first, last, step, distance) =>
      ⟨(first + distance).toNat, (last + distance).toNat, step⟩) ++
    (upperExpansions.flatMap Prod.snd).map fun code => ⟨code, code, 1⟩

def blankRuns : List CodeRun := [
  ⟨0x09, 0x0d, 1⟩, ⟨0x20, 0x20, 1⟩, ⟨0xa0, 0xa0, 1⟩, ⟨0x1680, 0x1680, 1⟩, ⟨0x2000, 0x200a, 1⟩,
  ⟨0x2028, 0x2029, 1⟩, ⟨0x202f, 0x202f, 1⟩, ⟨0x205f, 0x205f, 1⟩, ⟨0x3000, 0x3000, 1⟩,
  ⟨0xfeff, 0xfeff, 1⟩]

theorem images_apart : (imageRuns.all fun image =>
    image.isScalar && lowerRuns.all image.isApart) = true := by
  decide +kernel

theorem blanks_apart : (blankRuns.all fun blank =>
    lowerRuns.all blank.isApart && imageRuns.all blank.isApart) = true := by
  decide +kernel

theorem shifts_positive : (upperRuns.all fun (first, _, _, distance) =>
    decide (0 ≤ (first : Int) + distance)) = true := by
  decide +kernel

theorem expansions_filled : (upperExpansions.all fun (_, expansion) =>
    !expansion.isEmpty) = true := by
  decide +kernel

theorem upperChar_basic {character : Char} (basic : character.toNat < 0x80) :
    upperChar character = [character.toUpper] ∧
      upperChar character.toUpper = [character.toUpper] ∧
      isBlank character.toUpper = isBlank character ∧
      (character.toUpper = character ∨ 0x61 ≤ character.toNat ∧ character.toNat ≤ 0x7a) := by
  have every : ∀ code : Fin 128,
      upperChar (Char.ofNat code) = [(Char.ofNat code).toUpper] ∧
        upperChar (Char.ofNat code).toUpper = [(Char.ofNat code).toUpper] ∧
        isBlank (Char.ofNat code).toUpper = isBlank (Char.ofNat code) ∧
        ((Char.ofNat code).toUpper = Char.ofNat code ∨ 0x61 ≤ code.val ∧ code.val ≤ 0x7a) := by
    decide +kernel
  simpa only [Char.ofNat_toNat] using every ⟨character.toNat, basic⟩

theorem isBlank_iff {character : Char} :
    isBlank character = true ↔ ∃ run ∈ blankRuns, run.Holds character.toNat := by
  simp only [isBlank, blankRuns, CodeRun.Holds, Bool.or_eq_true, Bool.and_eq_true,
    decide_eq_true_eq, beq_iff_eq, List.exists_mem_cons_iff, List.not_mem_nil, false_and,
    exists_false, or_false]
  omega

theorem holds_single {code : Nat} : CodeRun.Holds ⟨code, code, 1⟩ code :=
  ⟨Nat.le_refl code, Nat.le_refl code, Nat.mod_one _⟩

theorem toNat_ofNat_of_image {run : CodeRun} {code : Nat} (image : run ∈ imageRuns)
    (holds : run.Holds code) : (Char.ofNat code).toNat = code := by
  have scalar := (Bool.and_eq_true_iff.mp (List.all_eq_true.mp images_apart run image)).1
  rw [Char.ofNat, dif_pos (holds.isValidChar scalar)]
  rfl

/-- What the table makes of a character: characters of its images if it lists it, and else the
character itself. -/
inductive Raised (character : Char) : List Char → Prop
  | kept (unlisted : ∀ run ∈ lowerRuns, ¬ run.Holds character.toNat) : Raised character [character]
  | changed {characters : List Char} (listed : ∃ run ∈ lowerRuns, run.Holds character.toNat)
      (filled : characters ≠ [])
      (images : ∀ image ∈ characters, ∃ run ∈ imageRuns, run.Holds image.toNat) :
      Raised character characters

theorem raised_of_expansion {character : Char} {expansion : List Nat}
    (found : upperExpansions.lookup character.toNat = some expansion) :
    Raised character (expansion.map Char.ofNat) := by
  have member : (character.toNat, expansion) ∈ upperExpansions := by
    rcases List.lookup_eq_some_iff.mp found with ⟨front, back, split, -⟩
    simp [split]
  refine .changed ⟨_, List.mem_append_right _ (List.mem_map_of_mem member), holds_single⟩ ?_ ?_
  · have filled := List.all_eq_true.mp expansions_filled _ member
    simpa using filled
  · rintro image listed
    rcases List.mem_map.mp listed with ⟨code, code_listed, rfl⟩
    have run_image : (⟨code, code, 1⟩ : CodeRun) ∈ imageRuns :=
      List.mem_append_right _ (List.mem_map_of_mem
        (List.mem_flatMap.mpr ⟨_, member, code_listed⟩))
    refine ⟨_, run_image, ?_⟩
    -- A listed code is that of a character, so it is not replaced on the way there and back.
    rw [toNat_ofNat_of_image run_image holds_single]
    exact holds_single

theorem raised_of_shift {character : Char} {first last step : Nat} {distance : Int}
    (member : (first, last, step, distance) ∈ upperRuns)
    (holds : CodeRun.Holds ⟨first, last, step⟩ character.toNat) :
    Raised character [Char.ofNat (character.toNat + distance).toNat] := by
  have image : (⟨(first + distance).toNat, (last + distance).toNat, step⟩ : CodeRun) ∈ imageRuns :=
    List.mem_append_left _ (List.mem_map_of_mem member)
  have shifted : CodeRun.Holds ⟨(first + distance).toNat, (last + distance).toNat, step⟩
      (character.toNat + distance).toNat := by
    have positive : 0 ≤ (first : Int) + distance :=
      of_decide_eq_true (List.all_eq_true.mp shifts_positive _ member)
    rcases holds with ⟨from_first, to_last, on_step⟩
    have same_distance : (character.toNat + distance).toNat - (first + distance).toNat =
        character.toNat - first := by
      simp only at from_first
      omega
    refine ⟨?_, ?_, by rw [same_distance, on_step]⟩
    · simp only at from_first ⊢
      omega
    · simp only at to_last ⊢
      omega
  refine .changed ⟨_, List.mem_append_left _ (List.mem_map_of_mem member), holds⟩
    (List.cons_ne_nil _ _) ?_
  rintro upper listed
  obtain rfl := List.mem_singleton.mp listed
  refine ⟨_, image, ?_⟩
  rw [toNat_ofNat_of_image image shifted]
  exact shifted

theorem raised_upperBeyondBasic (character : Char) :
    Raised character (upperBeyondBasic character) := by
  rw [upperBeyondBasic]
  split
  · next expansion found => exact raised_of_expansion found
  · next unexpanded =>
      split
      · next first last step distance found =>
          refine raised_of_shift (List.mem_of_find?_eq_some found) ?_
          simpa [CodeRun.Holds, and_assoc] using List.find?_some found
      · next unshifted =>
          refine .kept fun run member holds => ?_
          rcases List.mem_append.mp member with shift | expansion
          · rcases List.mem_map.mp shift with ⟨⟨first, last, step, distance⟩, listed, rfl⟩
            have missed := List.find?_eq_none.mp unshifted _ listed
            simp only [CodeRun.Holds] at holds
            simp [holds] at missed
          · rcases List.mem_map.mp expansion with ⟨⟨code, expanded⟩, listed, rfl⟩
            have missed := List.lookup_eq_none_iff.mp unexpanded _ listed
            have same : character.toNat = code := Nat.le_antisymm holds.2.1 holds.1
            simp [same] at missed

theorem unlisted_of_image {image : Char} (found : ∃ run ∈ imageRuns, run.Holds image.toNat) :
    ∀ run ∈ lowerRuns, ¬ run.Holds image.toNat := by
  rcases found with ⟨run, member, holds⟩
  intro lower lower_member
  have apart := (Bool.and_eq_true_iff.mp (List.all_eq_true.mp images_apart run member)).2
  exact holds.not_of_isApart (List.all_eq_true.mp apart lower lower_member)

theorem isBlank_of_listed {character : Char}
    (found : ∃ run ∈ lowerRuns ++ imageRuns, run.Holds character.toNat) :
    isBlank character = false := by
  rcases found with ⟨run, member, holds⟩
  refine Bool.eq_false_iff.mpr fun blank => ?_
  rcases isBlank_iff.mp blank with ⟨blanks, blanks_member, blanks_hold⟩
  have apart := Bool.and_eq_true_iff.mp (List.all_eq_true.mp blanks_apart blanks blanks_member)
  rcases List.mem_append.mp member with lower | image
  · exact blanks_hold.not_of_isApart (List.all_eq_true.mp apart.1 run lower) holds
  · exact blanks_hold.not_of_isApart (List.all_eq_true.mp apart.2 run image) holds

theorem upperChar_of_unlisted {character : Char}
    (unlisted : ∀ run ∈ lowerRuns, ¬ run.Holds character.toNat) :
    upperChar character = [character] := by
  by_cases basic : character.toNat < 0x80
  · rcases upperChar_basic basic with ⟨raised, -, -, same | letter⟩
    · rw [raised, same]
    · have listed : (⟨0x61, 0x7a, 1⟩ : CodeRun) ∈ lowerRuns := List.mem_cons_self
      exact absurd ⟨letter.1, letter.2, Nat.mod_one _⟩ (unlisted _ listed)
  · rw [upperChar, if_neg basic]
    have raised := raised_upperBeyondBasic character
    generalize upperBeyondBasic character = characters at raised ⊢
    cases raised with
    | kept => rfl
    | changed listed =>
        rcases listed with ⟨run, member, holds⟩
        exact absurd holds (unlisted run member)

theorem upperChar_of_blank {character : Char} (blank : isBlank character = true) :
    upperChar character = [character] := by
  refine upperChar_of_unlisted fun run member holds => ?_
  have solid := isBlank_of_listed ⟨run, List.mem_append_left _ member, holds⟩
  exact Bool.false_ne_true (solid.symm.trans blank)

theorem upperChar_ne_nil (character : Char) : upperChar character ≠ [] := by
  rw [upperChar]
  split
  · exact List.cons_ne_nil _ _
  · have raised := raised_upperBeyondBasic character
    generalize upperBeyondBasic character = characters at raised ⊢
    cases raised with
    | kept => exact List.cons_ne_nil _ _
    | changed _ filled => exact filled

/-- What the upper-case form of a character holds is in upper case, and a blank only where the
character is one. -/
theorem upperChar_of_mem {character image : Char} (member : image ∈ upperChar character) :
    upperChar image = [image] ∧ isBlank image = isBlank character := by
  by_cases basic : character.toNat < 0x80
  · rcases upperChar_basic basic with ⟨raised, settled, same_blank, -⟩
    obtain rfl := List.mem_singleton.mp (raised ▸ member)
    exact ⟨settled, same_blank⟩
  · rw [upperChar, if_neg basic] at member
    -- Only what the table does counts here, so the look-up itself is forgotten.
    have raised := raised_upperBeyondBasic character
    generalize upperBeyondBasic character = characters at raised member
    cases raised with
    | kept unlisted =>
        obtain rfl := List.mem_singleton.mp member
        exact ⟨upperChar_of_unlisted unlisted, rfl⟩
    | changed listed _ images =>
        have found := images image member
        refine ⟨upperChar_of_unlisted (unlisted_of_image found), ?_⟩
        rcases listed with ⟨lower, lower_member, lower_holds⟩
        rcases found with ⟨run, run_member, holds⟩
        rw [isBlank_of_listed ⟨lower, List.mem_append_left _ lower_member, lower_holds⟩,
          isBlank_of_listed ⟨run, List.mem_append_right _ run_member, holds⟩]

@[simp] theorem toList_upper (text : String) :
    (upper text).toList = text.toList.flatMap upperChar := by
  simp [upper]

theorem flatMap_upperChar_of_settled {characters : List Char}
    (settled : ∀ character ∈ characters, upperChar character = [character]) :
    characters.flatMap upperChar = characters := by
  induction characters with
  | nil => rfl
  | cons first rest induction =>
      rw [List.flatMap_cons, settled first List.mem_cons_self,
        induction fun character member => settled character (List.mem_cons_of_mem _ member)]
      rfl

theorem upper_upper (text : String) : upper (upper text) = upper text := by
  refine String.toList_inj.mp ?_
  rw [toList_upper, toList_upper]
  refine flatMap_upperChar_of_settled fun image member => ?_
  rcases List.mem_flatMap.mp member with ⟨character, -, listed⟩
  exact (upperChar_of_mem listed).1

theorem isBlank_head?_flatMap_upperChar {characters : List Char}
    (solid : ∀ first ∈ characters.head?, isBlank first = false) :
    ∀ first ∈ (characters.flatMap upperChar).head?, isBlank first = false := by
  intro first found
  cases characters with
  | nil => simp at found
  | cons head rest =>
      have listed : first ∈ upperChar head := by
        rw [List.flatMap_cons, List.head?_append_of_ne_nil _ (upperChar_ne_nil head)] at found
        exact List.mem_of_head? found
      rw [(upperChar_of_mem listed).2, solid head rfl]

theorem isBlank_getLast?_flatMap_upperChar {characters : List Char}
    (solid : ∀ last ∈ characters.getLast?, isBlank last = false) :
    ∀ last ∈ (characters.flatMap upperChar).getLast?, isBlank last = false := by
  intro last found
  rcases List.eq_nil_or_concat characters with rfl | ⟨front, tail, rfl⟩
  · simp at found
  · have listed : last ∈ upperChar tail := by
      rw [List.concat_eq_append, List.flatMap_append, List.flatMap_singleton,
        List.getLast?_append_of_ne_nil _ (upperChar_ne_nil tail)] at found
      exact List.mem_of_getLast? found
    rw [(upperChar_of_mem listed).2, solid tail (by simp)]

theorem trim_upper_trim (text : String) : trim (upper (trim text)) = upper (trim text) := by
  refine String.toList_inj.mp ?_
  rw [toList_trim, toList_upper, toList_trim]
  exact trimList_of_solid
    (isBlank_head?_flatMap_upperChar (isBlank_head?_trimList text.toList))
    (isBlank_getLast?_flatMap_upperChar (isBlank_getLast?_trimList text.toList))

/-- What begins and ends with something other than a blank stands in a text in upper case whether
its blanks are trimmed or not. -/
theorem infix_upper_trim {phrase : List Char} {text : String} (filled : phrase ≠ [])
    (front_solid : ∀ first ∈ phrase.head?, isBlank first = false)
    (back_solid : ∀ last ∈ phrase.getLast?, isBlank last = false) :
    phrase <:+: (upper (trim text)).toList ↔ phrase <:+: (upper text).toList := by
  rcases exists_blanks_around text.toList with ⟨front, back, whole, front_blank, back_blank⟩
  have unchanged {blanks : List Char} (blank : ∀ character ∈ blanks, isBlank character = true) :
      blanks.flatMap upperChar = blanks :=
    flatMap_upperChar_of_settled fun character member => upperChar_of_blank (blank character member)
  rw [toList_upper, toList_upper, toList_trim, whole, List.flatMap_append, List.flatMap_append,
    unchanged front_blank, unchanged back_blank, ← whole,
    infix_between_blanks filled front_solid back_solid front_blank back_blank]

end Gatehouse.Text
