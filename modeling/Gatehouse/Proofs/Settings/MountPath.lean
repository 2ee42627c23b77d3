import Gatehouse.Proofs.Settings.Bounds
import Mathlib.Data.List.DropRight

/-!
# Mount paths

A mount path is a lone slash, or it has a slash in front and none at its end (`IsMountPath`). What
is made of a text differs from it by a slash in front and slashes at the end alone
(`exists_slashes_around_mountOf`). It is a mount path unless the text is a run of two slashes or
more; of these nothing is left (`basePath_isMountPath_iff`).
-/

namespace Gatehouse.Settings

/-- A lone slash, or a path with a slash in front and none at its end. -/
inductive IsMountPath : List Char → Prop
  | root : IsMountPath ['/']
  | rooted {path : List Char} :
      path.head? = some '/' → path.getLast? ≠ some '/' → IsMountPath path

/-- Two slashes or more, and nothing else. -/
def IsSlashRun (text : List Char) : Prop :=
  ∃ more, text = List.replicate (more + 2) '/'

variable {text path : List Char}

theorem not_isMountPath_nil : ¬IsMountPath [] := by
  rintro ⟨⟩
  next first _ => cases first

theorem isSlashRun_iff :
    IsSlashRun text ↔ 2 ≤ text.length ∧ ∀ character ∈ text, character = '/' := by
  constructor
  · rintro ⟨more, rfl⟩
    exact ⟨by simp, fun _ member => List.eq_of_mem_replicate member⟩
  · rintro ⟨long, slashes⟩
    refine ⟨text.length - 2, ?_⟩
    rw [Nat.sub_add_cancel long]
    exact List.eq_replicate_iff.mpr ⟨rfl, slashes⟩

theorem dropSlashes_eq (path : List Char) : dropSlashes path = path.rdropWhile (· == '/') :=
  rfl

theorem dropSlashes_eq_nil_iff :
    dropSlashes path = [] ↔ ∀ character ∈ path, character = '/' := by
  simp [dropSlashes_eq, List.rdropWhile_eq_nil_iff]

theorem getLast?_dropSlashes (path : List Char) : (dropSlashes path).getLast? ≠ some '/' := by
  rw [dropSlashes_eq]
  intro last
  obtain ⟨filled, slash⟩ := List.mem_getLast?_eq_getLast last
  have kept := List.rdropWhile_last_not (· == '/') path filled
  exact kept (by simpa using slash.symm)

theorem head?_dropSlashes (filled : dropSlashes path ≠ []) :
    (dropSlashes path).head? = path.head? := by
  obtain ⟨back, whole⟩ := List.rdropWhile_prefix (· == '/') path
  conv_rhs => rw [← whole]
  exact (List.head?_append_of_ne_nil _ filled).symm

theorem exists_slashes_behind (path : List Char) :
    ∃ back, path = dropSlashes path ++ back ∧ ∀ character ∈ back, character = '/' := by
  refine ⟨path.rtakeWhile (· == '/'), ?_, fun character member => ?_⟩
  · exact (List.rdropWhile_append_rtakeWhile ..).symm
  · simpa using List.mem_rtakeWhile_imp member

/-- A path with a slash in front and something behind it loses the slashes at its end, and with them
the one in front if nothing else is there. -/
theorem dropSlashes_spec (rooted : path.head? = some '/') (long : 2 ≤ path.length) :
    (IsMountPath (dropSlashes path) ↔ ¬IsSlashRun path) ∧
      (IsSlashRun path → dropSlashes path = []) := by
  have emptied : dropSlashes path = [] ↔ IsSlashRun path := by
    rw [dropSlashes_eq_nil_iff, isSlashRun_iff]
    exact ⟨fun slashes => ⟨long, slashes⟩, And.right⟩
  refine ⟨⟨fun mounted run => ?_, fun other => ?_⟩, emptied.mpr⟩
  · rw [emptied.mpr run] at mounted
    exact not_isMountPath_nil mounted
  · have filled : dropSlashes path ≠ [] := fun empty => other (emptied.mp empty)
    exact .rooted ((head?_dropSlashes filled).trans rooted) (getLast?_dropSlashes path)

theorem mountOf_spec (text : List Char) :
    (IsMountPath (mountOf text) ↔ ¬IsSlashRun text) ∧ (IsSlashRun text → mountOf text = []) := by
  cases text with
  | nil =>
      have other : ¬IsSlashRun [] := by
        rintro ⟨_, same⟩
        cases same
      exact ⟨⟨fun _ => other, fun _ => .root⟩, fun run => absurd run other⟩
  | cons first rest =>
      by_cases slash : first = '/'
      · subst slash
        cases rest with
        | nil =>
            have other : ¬IsSlashRun ['/'] := by
              rw [isSlashRun_iff]
              simp
            exact ⟨⟨fun _ => other, fun _ => .root⟩, fun run => absurd run other⟩
        | cons second rest =>
            have same : mountOf ('/' :: second :: rest) = dropSlashes ('/' :: second :: rest) := by
              simp [mountOf]
            rw [same]
            exact dropSlashes_spec rfl (by simp)
      · -- The slash that is put in front is followed by something else, so it stays.
        have same : mountOf (first :: rest) = dropSlashes ('/' :: first :: rest) := by
          simp [mountOf, slash]
        have other (front : List Char) : ¬IsSlashRun (front ++ first :: rest) := fun run =>
          slash ((isSlashRun_iff.mp run).2 first (by simp))
        have rooted : ('/' :: first :: rest).head? = some '/' := rfl
        have spec := dropSlashes_spec rooted (by simp)
        rw [same]
        exact ⟨⟨fun _ => other [], fun _ => spec.1.mpr (other ['/'])⟩,
          fun run => absurd run (other [])⟩

/-- What is mounted is the text, but for a slash in front and slashes at the end. -/
theorem exists_slashes_around_mountOf (text : List Char) :
    ∃ front back, front ++ text = mountOf text ++ back ∧ (front = [] ∨ front = ['/']) ∧
      ∀ character ∈ back, character = '/' := by
  cases text with
  | nil => exact ⟨['/'], [], rfl, .inr rfl, by simp⟩
  | cons first rest =>
      rw [mountOf]
      split
      · next slash =>
          split
          · exact ⟨[], [], by simp, .inl rfl, by simp⟩
          · obtain ⟨back, whole, slashes⟩ := exists_slashes_behind (first :: rest)
            exact ⟨[], back, whole, .inl rfl, slashes⟩
      · obtain ⟨back, whole, slashes⟩ := exists_slashes_behind ('/' :: first :: rest)
        exact ⟨['/'], back, by simpa using whole, .inr rfl, slashes⟩

theorem web_ofEnvironment {named : Environment} {settings : Settings}
    (loaded : Settings.ofEnvironment named = .ok settings) :
    settings.web = .ofEnvironment named := by
  obtain ⟨_, -, rfl⟩ := eq_of_loaded loaded
  rfl

/-- In every environment whose settings are accepted, the base path is the given text without the
blanks at its ends, but for a slash in front and slashes at the end. It is a mount path, unless two
slashes or more are all of that text: then it is empty. -/
theorem basePath_isMountPath_iff {named : Environment} {settings : Settings}
    (loaded : Settings.ofEnvironment named = .ok settings) :
    let text := Text.trimList ((named "BASE_PATH").getD "").toList
    let path := settings.web.basePath.toList
    (IsMountPath path ↔ ¬IsSlashRun text) ∧ (IsSlashRun text → settings.web.basePath = "") ∧
      ∃ front back, front ++ text = path ++ back ∧ (front = [] ∨ front = ['/']) ∧
        ∀ character ∈ back, character = '/' := by
  intro text path
  have same : settings.web.basePath = String.ofList (mountOf text) := by
    rw [web_ofEnvironment loaded]
    rfl
  have chars : path = mountOf text := by
    simp only [path, same, String.toList_ofList]
  obtain ⟨mounted, emptied⟩ := mountOf_spec text
  rw [chars]
  refine ⟨mounted, fun run => ?_, exists_slashes_around_mountOf text⟩
  rw [same, emptied run]

/-- An environment with a base path. -/
def mountedAt (path : String) : Environment := fun name =>
  List.lookup name [("BASE_PATH", path)]

theorem loaded_mountedAt (path : String) :
    ∃ settings, Settings.ofEnvironment (mountedAt path) = .ok settings :=
  ⟨_, rfl⟩

/-- Blanks, a missing slash and slashes at the end are mended. -/
theorem basePath_isMountPath_mended :
    ∃ settings, Settings.ofEnvironment (mountedAt " gateway// ") = .ok settings ∧
      settings.web.basePath = "/gateway" ∧ IsMountPath settings.web.basePath.toList := by
  obtain ⟨settings, loaded⟩ := loaded_mountedAt " gateway// "
  have same : settings.web.basePath = "/gateway" := by
    rw [web_ofEnvironment loaded]
    decide +kernel
  have text : Text.trimList ((mountedAt " gateway// " "BASE_PATH").getD "").toList =
      "gateway//".toList := by
    decide +kernel
  refine ⟨settings, loaded, same, (basePath_isMountPath_iff loaded).1.mpr fun run => ?_⟩
  rw [text, isSlashRun_iff] at run
  exact absurd (run.2 'g' (by decide)) (by decide)

/-- Nothing is left of a path of slashes. -/
theorem basePath_of_slashes :
    ∃ settings, Settings.ofEnvironment (mountedAt "///") = .ok settings ∧
      settings.web.basePath = "" ∧ ¬IsMountPath settings.web.basePath.toList := by
  obtain ⟨settings, loaded⟩ := loaded_mountedAt "///"
  have same : settings.web.basePath = "" := by
    rw [web_ofEnvironment loaded]
    decide +kernel
  refine ⟨settings, loaded, same, ?_⟩
  rw [same]
  exact not_isMountPath_nil

end Gatehouse.Settings
