import Gatehouse.Lock
import Gatehouse.Proofs.Association
import Mathlib.Data.List.Nodup

/-!
# Who stands in which line

Joining puts a holder at the end of the line of one key and leaving takes the first one off it;
the lines of all other keys stay as they are: `line_acquire` and `line_release`. The second needs
that no key has two lines, which `Sound` says and which every lock keeps to.
-/

namespace Gatehouse.Lock

variable {Key Holder : Type} [DecidableEq Key]

def Sound (lock : Lock Key Holder) : Prop :=
  (lock.lines.map Prod.fst).Nodup

theorem mem_keys_setLine {key other : Key} {line : List Holder}
    {lines : List (Key × List Holder)}
    (member : other ∈ (setLine key line lines).map Prod.fst) :
    other = key ∨ other ∈ lines.map Prod.fst := by
  induction lines with
  | nil =>
      unfold setLine at member
      split at member
      · simp at member
      · simpa using member
  | cons head rest induction =>
      rcases head with ⟨known, waiting⟩
      unfold setLine at member
      simp only [List.map_cons, List.mem_cons]
      split at member
      · split at member
        · exact .inr (.inr member)
        · rcases List.mem_cons.mp member with equal | member
          · exact .inl equal
          · exact .inr (.inr member)
      · rcases List.mem_cons.mp member with equal | member
        · exact .inr (.inl equal)
        · rcases induction member with equal | member
          · exact .inl equal
          · exact .inr (.inr member)

theorem nodup_keys_setLine (key : Key) (line : List Holder) {lines : List (Key × List Holder)}
    (distinct : (lines.map Prod.fst).Nodup) :
    ((setLine key line lines).map Prod.fst).Nodup := by
  induction lines with
  | nil =>
      unfold setLine
      split
      · exact List.nodup_nil
      · simp
  | cons head rest induction =>
      rcases head with ⟨known, waiting⟩
      rcases List.nodup_cons.mp distinct with ⟨fresh, apart⟩
      unfold setLine
      split
      · next same =>
          subst same
          split
          · exact apart
          · exact distinct
      · next different =>
          refine List.nodup_cons.mpr ⟨fun member => ?_, induction apart⟩
          rcases mem_keys_setLine member with equal | member
          · exact different equal.symm
          · exact fresh member

theorem lookup_setLine_of_ne {key other : Key} (different : other ≠ key) (line : List Holder)
    (lines : List (Key × List Holder)) :
    (setLine key line lines).lookup other = lines.lookup other := by
  induction lines with
  | nil =>
      unfold setLine
      split
      · rfl
      · rw [Association.lookup_cons_of_ne different]
  | cons head rest induction =>
      rcases head with ⟨known, waiting⟩
      unfold setLine
      split
      · next same =>
          subst same
          rw [Association.lookup_cons_of_ne different]
          split
          · rfl
          · rw [Association.lookup_cons_of_ne different]
      · rw [List.lookup_cons, List.lookup_cons, induction]

theorem getD_lookup_setLine_self (key : Key) (line : List Holder)
    {lines : List (Key × List Holder)} (distinct : (lines.map Prod.fst).Nodup) :
    ((setLine key line lines).lookup key).getD [] = line := by
  induction lines with
  | nil => cases line <;> simp [setLine]
  | cons head rest induction =>
      rcases head with ⟨known, waiting⟩
      rcases List.nodup_cons.mp distinct with ⟨fresh, apart⟩
      unfold setLine
      split
      · next same =>
          subst same
          cases line with
          | nil => simp [Association.lookup_eq_none_of_fresh fresh]
          | cons holder others => simp
      · next different => rw [Association.lookup_cons_of_ne different, induction apart]

omit [DecidableEq Key] in
theorem sound_free : (free : Lock Key Holder).Sound :=
  List.nodup_nil

theorem line_setLine {lock : Lock Key Holder} (sound : lock.Sound) (key other : Key)
    (line : List Holder) :
    (⟨setLine key line lock.lines⟩ : Lock Key Holder).line other =
      if other = key then line else lock.line other := by
  split
  · next same =>
      subst same
      exact getD_lookup_setLine_self other line sound
  · next different =>
      unfold Lock.line
      rw [lookup_setLine_of_ne different]

theorem Sound.acquire {lock : Lock Key Holder} (sound : lock.Sound) (key : Key)
    (holder : Holder) : (lock.acquire key holder).1.Sound :=
  nodup_keys_setLine key _ sound

theorem Sound.release {lock : Lock Key Holder} (sound : lock.Sound) (key : Key) :
    (lock.release key).1.Sound :=
  nodup_keys_setLine key _ sound

theorem line_acquire {lock : Lock Key Holder} (sound : lock.Sound) (key other : Key)
    (holder : Holder) :
    (lock.acquire key holder).1.line other =
      if other = key then lock.line key ++ [holder] else lock.line other :=
  line_setLine sound key other _

theorem line_release {lock : Lock Key Holder} (sound : lock.Sound) (key other : Key) :
    (lock.release key).1.line other =
      if other = key then (lock.line key).tail else lock.line other :=
  line_setLine sound key other _

theorem nodup_acquire {lock : Lock Key Holder} (sound : lock.Sound)
    (single : ∀ key, (lock.line key).Nodup) {key : Key} {holder : Holder}
    (away : holder ∉ lock.line key) (other : Key) :
    ((lock.acquire key holder).1.line other).Nodup := by
  rw [line_acquire sound]
  split
  · exact (single key).append (List.nodup_singleton holder) (List.disjoint_singleton.mpr away)
  · exact single other

theorem nodup_release {lock : Lock Key Holder} (sound : lock.Sound)
    (single : ∀ key, (lock.line key).Nodup) (key other : Key) :
    ((lock.release key).1.line other).Nodup := by
  rw [line_release sound]
  split
  · exact (single key).tail
  · exact single other

theorem release_next (lock : Lock Key Holder) (key : Key) :
    (lock.release key).2 = (lock.line key).tail.head? :=
  rfl

end Gatehouse.Lock
