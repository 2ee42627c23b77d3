import Gatehouse.Fault

/-!
# Fields

The fields of a message are free text without the three delimiters. A message carries at most 256
fields of at most 256 bytes, so that one hostile frame cannot take much memory.
-/

namespace Gatehouse.Field

/-- The characters that no field holds, in the order in which they are looked for. -/
def delimiters : List Char := [']', '+', '[']

def maxLength : Number := .finite 256

def maxCount : Number := .finite 256

/-- Refuses a field that holds a delimiter. The index is the reporter's, and any number. -/
def check (index : Number) (field : String) : Except Fault Unit :=
  match delimiters.find? fun delimiter => field.toList.contains delimiter with
  | some delimiter => .error (.field index field (.reserved delimiter))
  | none => .ok ()

def checkFrom (index : Nat) : List String → Except Fault Unit
  | [] => .ok ()
  | field :: rest =>
      match check (.ofNat index) field with
      | .ok () => checkFrom (index + 1) rest
      | .error fault => .error fault

def checkAll (fields : List String) : Except Fault Unit :=
  checkFrom 0 fields

def checkSizesFrom (limit : Number) (index : Nat) : List String → Except Fault Unit
  | [] => .ok ()
  | field :: rest =>
      if Number.lt limit (.ofNat field.utf8ByteSize) then
        .error (.field (.ofNat index) field (.tooLong field.utf8ByteSize limit))
      else checkSizesFrom limit (index + 1) rest

def checkSizes (maxLength maxCount : Number) (fields : List String) : Except Fault Unit :=
  if Number.lt maxCount (.ofNat fields.length) then
    .error (.field maxCount "" (.tooMany fields.length maxCount))
  else checkSizesFrom maxLength 0 fields

def IsPlain (field : String) : Prop :=
  ∀ delimiter ∈ delimiters, delimiter ∉ field.toList

theorem check_eq_ok_iff {index : Number} {field : String} :
    check index field = .ok () ↔ IsPlain field := by
  unfold check IsPlain
  cases found : delimiters.find? fun delimiter => field.toList.contains delimiter with
  | none => simpa using found
  | some delimiter =>
      have holds := List.find?_some found
      have member := List.mem_of_find?_eq_some found
      simp only [reduceCtorEq, false_iff]
      intro plain
      exact plain delimiter member (by simpa using holds)

theorem checkFrom_eq_ok_iff {index : Nat} {fields : List String} :
    checkFrom index fields = .ok () ↔ ∀ field ∈ fields, IsPlain field := by
  induction fields generalizing index with
  | nil => simp [checkFrom]
  | cons field rest induction =>
      simp only [checkFrom, List.mem_cons, forall_eq_or_imp]
      rw [← @induction (index + 1), ← @check_eq_ok_iff (.ofNat index) field]
      cases checked : check (.ofNat index) field <;> simp

theorem checkSizesFrom_eq_ok_iff {limit : Number} {index : Nat} {fields : List String} :
    checkSizesFrom limit index fields = .ok () ↔
      ∀ field ∈ fields, Number.lt limit (.ofNat field.utf8ByteSize) = false := by
  induction fields generalizing index with
  | nil => simp [checkSizesFrom]
  | cons field rest induction =>
      simp only [checkSizesFrom, List.mem_cons, forall_eq_or_imp]
      rw [← @induction (index + 1)]
      by_cases long : Number.lt limit (.ofNat field.utf8ByteSize) <;> simp [long]

end Gatehouse.Field
