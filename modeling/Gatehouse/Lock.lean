/-!
# Locks by key

For each key that is in use a line of holders: the first one holds the key, the others wait for it
in the order in which they came. A key without holders has no line.
-/

namespace Gatehouse

structure Lock (Key Holder : Type) where
  lines : List (Key × List Holder)

namespace Lock

variable {Key Holder : Type} [DecidableEq Key]

def free : Lock Key Holder := ⟨[]⟩

def line (lock : Lock Key Holder) (key : Key) : List Holder :=
  (lock.lines.lookup key).getD []

def size (lock : Lock Key Holder) : Nat :=
  lock.lines.length

def setLine (key : Key) (line : List Holder) :
    List (Key × List Holder) → List (Key × List Holder)
  | [] => if line.isEmpty then [] else [(key, line)]
  | (other, known) :: rest =>
      if key = other then (if line.isEmpty then rest else (key, line) :: rest)
      else (other, known) :: setLine key line rest

/-- Joins the line of a key; true when it was empty, so that the key is held at once. -/
def acquire (lock : Lock Key Holder) (key : Key) (holder : Holder) : Lock Key Holder × Bool :=
  let line := lock.line key
  (⟨setLine key (line ++ [holder]) lock.lines⟩, line.isEmpty)

def release (lock : Lock Key Holder) (key : Key) : Lock Key Holder × Option Holder :=
  let rest := (lock.line key).tail
  (⟨setLine key rest lock.lines⟩, rest.head?)

end Lock

end Gatehouse
