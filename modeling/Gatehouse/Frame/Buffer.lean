import Gatehouse.Check
import Gatehouse.Number.Basic

/-!
# Byte buffers

The bytes of one connection that are not decoded yet. Positions are numbers from outside: their
fractions are dropped, negative ones count from the end, and positions outside the buffer mean its
nearer end.
-/

namespace Gatehouse.Frame

structure Buffer where
  bytes : Bytes
  deriving DecidableEq

namespace Buffer

def empty : Buffer := ⟨[]⟩

def size (buffer : Buffer) : Nat :=
  buffer.bytes.length

def append (buffer : Buffer) (chunk : Bytes) : Buffer :=
  ⟨buffer.bytes ++ chunk⟩

/-- The byte at a position, which is whole and does not count from the end. -/
def byteAt? (buffer : Buffer) (position : Number) : Option UInt8 :=
  match position.toInt? with
  | some (.ofNat index) => buffer.bytes[index]?
  | _ => none

def offset (buffer : Buffer) (position : Number) : Nat :=
  match position with
  | .finite value =>
      let whole := Number.truncate value
      if whole < 0 then (whole + buffer.size).toNat else min whole.toNat buffer.size
  | .infinite negative => if negative then 0 else buffer.size
  | .nan => 0

def byteOf : Number → UInt8
  | .finite value => UInt8.ofNat (Number.truncate value % 256).toNat
  | _ => 0

def indexOf? (buffer : Buffer) (byte : UInt8) (start : Number) : Option Nat :=
  let skipped := buffer.offset start
  ((buffer.bytes.drop skipped).findIdx? (· == byte)).map (· + skipped)

def slice (buffer : Buffer) (start stop : Number) : Bytes :=
  (buffer.bytes.take (buffer.offset stop)).drop (buffer.offset start)

def consume (buffer : Buffer) (count : Number) : Bytes × Buffer :=
  (buffer.slice (.finite 0) count, ⟨buffer.bytes.drop (buffer.offset count)⟩)

@[simp] theorem size_empty : empty.size = 0 := rfl

@[simp] theorem bytes_append (buffer : Buffer) (chunk : Bytes) :
    (buffer.append chunk).bytes = buffer.bytes ++ chunk := rfl

theorem offset_ofNat (buffer : Buffer) (count : Nat) (fits : count ≤ buffer.size) :
    buffer.offset (.ofNat count) = count := by
  have whole : Number.truncate (count : Rat) = (count : Int) := by
    simp [Number.truncate]
  simp only [offset, Number.ofNat, whole]
  rw [if_neg (by omega)]
  omega

theorem consume_ofNat (buffer : Buffer) (count : Nat) (fits : count ≤ buffer.size) :
    buffer.consume (.ofNat count) = (buffer.bytes.take count, ⟨buffer.bytes.drop count⟩) := by
  have front : buffer.offset (.finite 0) = 0 := buffer.offset_ofNat 0 (Nat.zero_le _)
  simp [consume, slice, front, offset_ofNat buffer count fits]

example : (Buffer.mk [0, 1, 2]).slice (.finite (mkRat (-3) 2)) (.finite 3) = [2] := by
  decide +kernel
example : byteOf (.finite (-252)) = 4 := by decide +kernel

end Buffer

end Gatehouse.Frame
