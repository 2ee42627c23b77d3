import Gatehouse.Number.Reading

/-!
# Percent escapes

Bytes written as a percent sign with two hexadecimal digits. A text can be read if each percent sign
has its digits and the bytes of each run of escapes spell characters.
-/

namespace Gatehouse.Text.Percent

def byte? (high low : Char) : Option UInt8 := do
  let high ← Number.digitValue? high
  let low ← Number.digitValue? low
  return UInt8.ofNat (16 * high + low)

def spell (run : List UInt8) : Bool :=
  (ByteArray.mk run.reverse.toArray).validateUTF8

def isReadableAfter : List UInt8 → List Char → Bool
  | run, [] => spell run
  | run, '%' :: high :: low :: rest =>
      match byte? high low with
      | some byte => isReadableAfter (byte :: run) rest
      | none => false
  | _, '%' :: _ => false
  | run, _ :: rest => spell run && isReadableAfter [] rest

def isReadable (text : List Char) : Bool :=
  isReadableAfter [] text

example : isReadable "a%C3%87%".toList = false := by decide +kernel
example : isReadable "a%c3%87/%41".toList = true := by decide +kernel
example : isReadable "%c3a%87".toList = false := by decide +kernel

end Gatehouse.Text.Percent
