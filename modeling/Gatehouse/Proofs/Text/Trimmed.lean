import Gatehouse.Text.Blank
import Mathlib.Data.List.Infix
import Mathlib.Data.List.TakeWhile

/-!
# Trimmed texts

A text is what trimming leaves of it, with blanks around (`exists_blanks_around`); what is left has
no blank at either end, and a text without these is left as it is (`trimList_of_solid`).
-/

namespace Gatehouse.Text

theorem trimFront_sublist (characters : List Char) : (trimFront characters).Sublist characters :=
  List.dropWhile_sublist isBlank

theorem begins_trimBack (characters : List Char) : trimBack characters <+: characters := by
  have reversed : trimFront characters.reverse <:+ characters.reverse := List.dropWhile_suffix _
  simpa [trimBack] using List.reverse_prefix.mpr reversed

theorem begins_trimList (characters : List Char) : trimList characters <+: trimFront characters :=
  begins_trimBack (trimFront characters)

theorem isBlank_head?_trimFront {characters : List Char} :
    ∀ first ∈ (trimFront characters).head?, isBlank first = false := by
  intro first found
  cases shape : trimFront characters with
  | nil => simp [shape] at found
  | cons head rest =>
      have same : head = first := by simpa [shape] using found
      rw [← same]
      exact isBlank_head_trimFront shape

theorem isBlank_getLast?_trimBack {characters : List Char} :
    ∀ last ∈ (trimBack characters).getLast?, isBlank last = false := by
  intro last found
  rw [trimBack, List.getLast?_reverse] at found
  exact isBlank_head?_trimFront last found

theorem trimBack_trimBack (characters : List Char) :
    trimBack (trimBack characters) = trimBack characters := by
  rw [trimBack, trimBack, List.reverse_reverse, trimFront_trimFront]

theorem trimList_of_solid {characters : List Char}
    (front : ∀ first ∈ characters.head?, isBlank first = false)
    (back : ∀ last ∈ characters.getLast?, isBlank last = false) :
    trimList characters = characters := by
  have kept {text : List Char} (solid : ∀ first ∈ text.head?, isBlank first = false) :
      trimFront text = text := by
    cases text with
    | nil => rfl
    | cons first rest => exact trimFront_of_not_blank (solid first rfl)
  rw [trimList, kept front, trimBack, kept, List.reverse_reverse]
  simpa using back

variable (characters : List Char)

theorem isBlank_head?_trimList :
    ∀ first ∈ (trimList characters).head?, isBlank first = false := by
  intro first found
  rcases begins_trimList characters with ⟨rest, whole⟩
  have first_of_front : first ∈ (trimFront characters).head? := by
    rw [← whole, List.head?_append, Option.mem_def.mp found]
    rfl
  exact isBlank_head?_trimFront first first_of_front

theorem isBlank_getLast?_trimList :
    ∀ last ∈ (trimList characters).getLast?, isBlank last = false :=
  isBlank_getLast?_trimBack

theorem trimList_trimList : trimList (trimList characters) = trimList characters :=
  trimList_of_solid (isBlank_head?_trimList characters) (isBlank_getLast?_trimList characters)

theorem trim_trim (text : String) : trim (trim text) = trim text :=
  String.toList_inj.mp (by simp [trimList_trimList])

theorem exists_blanks_in_front :
    ∃ front, characters = front ++ trimFront characters ∧
      ∀ character ∈ front, isBlank character = true :=
  ⟨characters.takeWhile isBlank, List.takeWhile_append_dropWhile.symm,
    fun _ member => List.mem_takeWhile_imp member⟩

theorem exists_blanks_around :
    ∃ front back, characters = front ++ trimList characters ++ back ∧
      (∀ character ∈ front, isBlank character = true) ∧
      ∀ character ∈ back, isBlank character = true := by
  rcases exists_blanks_in_front characters with ⟨front, whole, blank⟩
  rcases exists_blanks_in_front (trimFront characters).reverse with ⟨back, reversed, blank_behind⟩
  refine ⟨front, back.reverse, ?_, blank, by simpa using blank_behind⟩
  have rest : trimFront characters = trimList characters ++ back.reverse := by
    rw [trimList, trimBack, ← List.reverse_append, ← reversed, List.reverse_reverse]
  rw [List.append_assoc, ← rest]
  exact whole

variable {characters}

/-- What begins and ends with something other than a blank stands between the blanks. -/
theorem infix_append_of_blank {phrase front : List Char}
    (solid : ∀ first ∈ phrase.head?, isBlank first = false) (filled : phrase ≠ [])
    (blank : ∀ character ∈ front, isBlank character = true) :
    phrase <:+: front ++ characters ↔ phrase <:+: characters := by
  induction front with
  | nil => rfl
  | cons first rest induction =>
      have later := induction fun character member =>
        blank character (List.mem_cons_of_mem _ member)
      rw [List.cons_append, List.infix_cons_iff, later]
      refine or_iff_right fun begins => ?_
      cases phrase with
      | nil => exact filled rfl
      | cons head tail =>
          obtain rfl : head = first := (List.cons_prefix_cons.mp begins).1
          cases (solid head rfl).symm.trans (blank head List.mem_cons_self)

theorem infix_between_blanks {phrase front back : List Char} (filled : phrase ≠ [])
    (front_solid : ∀ first ∈ phrase.head?, isBlank first = false)
    (back_solid : ∀ last ∈ phrase.getLast?, isBlank last = false)
    (front_blank : ∀ character ∈ front, isBlank character = true)
    (back_blank : ∀ character ∈ back, isBlank character = true) :
    phrase <:+: front ++ characters ++ back ↔ phrase <:+: characters := by
  rw [List.append_assoc, infix_append_of_blank front_solid filled front_blank,
    ← List.reverse_infix, List.reverse_append, infix_append_of_blank (by simpa using back_solid)
      (by simpa using filled) (by simpa using back_blank), List.reverse_infix]

end Gatehouse.Text
