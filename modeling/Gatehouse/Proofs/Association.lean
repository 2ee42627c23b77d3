import Mathlib.Data.List.Basic

/-!
# Entries by key

How looking a key up in a list of entries goes with adding entries and with taking the entries of a
key away. Of several entries with one key the first is found.
-/

namespace Gatehouse.Association

variable {Key Value : Type} [DecidableEq Key]

theorem lookup_cons_of_ne {key other : Key} (different : key ≠ other) (value : Value)
    (entries : List (Key × Value)) :
    ((other, value) :: entries).lookup key = entries.lookup key := by
  have : (key == other) = false := beq_false_of_ne different
  rw [List.lookup_cons, this]

theorem lookup_eq_none_of_fresh {key : Key} {entries : List (Key × Value)}
    (fresh : key ∉ entries.map Prod.fst) : entries.lookup key = none := by
  induction entries with
  | nil => rfl
  | cons head rest induction =>
      rcases head with ⟨known, value⟩
      rw [List.map_cons, List.mem_cons, not_or] at fresh
      rw [lookup_cons_of_ne fresh.1, induction fresh.2]

theorem lookup_filter_ne (key other : Key) (entries : List (Key × Value)) :
    (entries.filter fun (known, _) => known != other).lookup key =
      if key = other then none else entries.lookup key := by
  induction entries with
  | nil => simp
  | cons head rest induction =>
      rcases head with ⟨known, value⟩
      by_cases taken : known = other
      · subst taken
        simp only [bne_self_eq_false, Bool.false_eq_true, not_false_eq_true,
          List.filter_cons_of_neg, induction]
        split
        · rfl
        · next different => rw [lookup_cons_of_ne different]
      · have kept : (known != other) = true := by simpa using taken
        rw [List.filter_cons_of_pos (by exact kept)]
        by_cases found : key = known
        · subst found
          rw [List.lookup_cons_self, List.lookup_cons_self, if_neg taken]
        · rw [lookup_cons_of_ne found, lookup_cons_of_ne found, induction]

theorem lookup_concat (key other : Key) (value : Value) (entries : List (Key × Value)) :
    (entries ++ [(other, value)]).lookup key =
      (entries.lookup key).or (if key = other then some value else none) := by
  rw [List.lookup_append]
  split
  · next same => rw [same, List.lookup_cons_self]
  · next different => rw [lookup_cons_of_ne different, List.lookup_nil]

theorem lookup_replaced (key other : Key) (value : Value) (entries : List (Key × Value)) :
    ((entries.filter fun (known, _) => known != other) ++ [(other, value)]).lookup key =
      if key = other then some value else entries.lookup key := by
  rw [lookup_concat, lookup_filter_ne]
  split <;> simp

theorem lookup_overwritten (key other : Key) (value : Value) (entries : List (Key × Value)) :
    (entries.map fun (known, old) => if known = other then (known, value) else (known, old)).lookup
        key =
      if key = other then (entries.lookup key).map fun _ => value else entries.lookup key := by
  induction entries with
  | nil => simp
  | cons head rest induction =>
      rcases head with ⟨known, old⟩
      have replaced : (if known = other then (known, value) else (known, old)) =
          (known, if known = other then value else old) := by
        split <;> rfl
      simp only [List.map_cons, replaced]
      by_cases found : key = known
      · subst found
        rw [List.lookup_cons_self, List.lookup_cons_self]
        split <;> rfl
      · rw [lookup_cons_of_ne found, lookup_cons_of_ne found, induction]

end Gatehouse.Association
