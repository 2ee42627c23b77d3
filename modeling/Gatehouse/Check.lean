import Gatehouse.Fault
import Gatehouse.Text.Blank
import Gatehouse.Text.UpperCase

/-!
# Integrity checks

Each frame carries a check over its payload, written in upper-case hexadecimal digits, so that it
never looks like a frame marker.
-/

namespace Gatehouse

abbrev Bytes := List UInt8

inductive Check where
  | xor8
  | sum8
  | crc16
  deriving DecidableEq

namespace Check

def all : List Check := [.xor8, .sum8, .crc16]

def name : Check → String
  | .xor8 => "xor8"
  | .sum8 => "sum8"
  | .crc16 => "crc16"

def width : Check → Nat
  | .xor8 | .sum8 => 2
  | .crc16 => 4

def xorOf (payload : Bytes) : UInt8 :=
  payload.foldl (· ^^^ ·) 0

def sumOf (payload : Bytes) : UInt8 :=
  payload.foldl (· + ·) 0

/-- One bit of polynomial division: a register of sixteen bits, shifted to the left, and reduced by
the generator when a bit falls out. -/
def crcShift (register : BitVec 16) : BitVec 16 :=
  if register.msb then (register <<< 1) ^^^ 0x1021 else register <<< 1

def crcShifts : Nat → BitVec 16 → BitVec 16
  | 0, register => register
  | count + 1, register => crcShifts count (crcShift register)

def crcByte (register : BitVec 16) (byte : UInt8) : BitVec 16 :=
  crcShifts 8 (register ^^^ (byte.toBitVec.setWidth 16 <<< 8))

def crcOf (payload : Bytes) : BitVec 16 :=
  payload.foldl crcByte 0xffff

def hexDigit (value : Nat) : UInt8 :=
  if value < 10 then UInt8.ofNat (0x30 + value) else UInt8.ofNat (0x41 + (value - 10))

def hexDigits : Nat → Nat → Bytes
  | 0, _ => []
  | width + 1, value => hexDigits width (value / 16) ++ [hexDigit (value % 16)]

def value (check : Check) (payload : Bytes) : Nat :=
  match check with
  | .xor8 => (xorOf payload).toNat
  | .sum8 => (sumOf payload).toNat
  | .crc16 => (crcOf payload).toNat

def digits (check : Check) (payload : Bytes) : Bytes :=
  hexDigits check.width (check.value payload)

def ofName? (name : String) : Option Check :=
  all.find? fun check => check.name == name

def named (name : String) : Except Fault Check :=
  match ofName? (Text.lowerBasic (Text.trim name)) with
  | some check => .ok check
  | none => .error (.settings (.unknownCheck name))

@[simp] theorem length_hexDigits (width value : Nat) : (hexDigits width value).length = width := by
  induction width generalizing value with
  | zero => rfl
  | succ width induction => simp [hexDigits, induction]

@[simp] theorem length_digits (check : Check) (payload : Bytes) :
    (check.digits payload).length = check.width := by
  simp [digits]

example : Check.crc16.digits [0x31, 0x32, 0x33, 0x34, 0x35, 0x36, 0x37, 0x38, 0x39] =
    [0x32, 0x39, 0x42, 0x31] := by decide +kernel

end Check

end Gatehouse
