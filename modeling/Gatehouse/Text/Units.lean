/-!
# Sixteen-bit units

Lengths and cuts of texts counted in sixteen-bit code units: a character outside the basic plane
counts two. `encode` lists the units, `count` is the length of that list.
-/

namespace Gatehouse.Text

-- The zero that sums start from is that of the core library, whatever else is imported.
attribute [local instance (2000)] Zero.ofOfNat0

def charUnits (character : Char) : Nat :=
  if character.toNat < 0x10000 then 1 else 2

def encodeChar (character : Char) : List Nat :=
  let code := character.toNat
  if code < 0x10000 then [code]
  else [0xd800 + (code - 0x10000) / 0x400, 0xdc00 + (code - 0x10000) % 0x400]

def unitCount (text : String) : Nat :=
  (text.toList.map charUnits).sum

def encodeUnits (text : String) : List Nat :=
  text.toList.flatMap encodeChar

def decodeUnit (unit : Nat) : Char :=
  if 0xd800 ≤ unit && unit < 0xe000 then '\ufffd' else Char.ofNat unit

def pairCode? (lead trail : Nat) : Option Nat :=
  if 0xd800 ≤ lead && lead < 0xdc00 && 0xdc00 ≤ trail && trail < 0xe000 then
    some (0x10000 + (lead - 0xd800) * 0x400 + (trail - 0xdc00))
  else none

/-- The characters that units spell. A surrogate without its partner counts as unreadable. -/
def decodeUnits : List Nat → List Char
  | [] => []
  | [unit] => [decodeUnit unit]
  | lead :: trail :: rest =>
      match pairCode? lead trail with
      | some code => Char.ofNat code :: decodeUnits rest
      | none => decodeUnit lead :: decodeUnits (trail :: rest)

def takeUnits (limit : Nat) : List Char → List Char
  | [] => []
  | first :: rest =>
      if charUnits first ≤ limit then first :: takeUnits (limit - charUnits first) rest else []

theorem length_encodeChar (character : Char) :
    (encodeChar character).length = charUnits character := by
  by_cases basic : character.toNat < 0x10000 <;> simp [encodeChar, charUnits, basic]

theorem length_encodeUnits (text : String) : (encodeUnits text).length = unitCount text := by
  simp [encodeUnits, unitCount, List.length_flatMap, length_encodeChar]

example : unitCount "a😀b" = 4 := by decide +kernel
example : encodeUnits "😀" = [0xd83d, 0xde00] := by decide +kernel
example : decodeUnits [0x61, 0xd83d, 0xde00, 0xd83d] = ['a', '😀', '\ufffd'] := by decide +kernel

end Gatehouse.Text
