/-!
# Fixed digits

Counts written with a fixed least number of digits, and read back from digit characters.
-/

namespace Gatehouse.Time

def padded (width count : Nat) : List Char :=
  let digits := Nat.toDigits 10 count
  List.replicate (width - digits.length) '0' ++ digits

def digit? (character : Char) : Option Nat :=
  if '0' ≤ character && character ≤ '9' then some (character.toNat - '0'.toNat) else none

def digits? (characters : List Char) : Option Nat :=
  characters.foldlM (fun value character =>
    match digit? character with
    | some unit => some (value * 10 + unit)
    | none => none) 0

def takeDigits (width : Nat) (text : List Char) : Option (Nat × List Char) :=
  let front := text.take width
  if front.length = width then
    match digits? front with
    | some count => some (count, text.drop width)
    | none => none
  else none

def takeMark (mark : Char) : List Char → Option (List Char)
  | first :: rest => if first = mark then some rest else none
  | [] => none

example : padded 4 17 = "0017".toList := by decide
example : takeDigits 2 "12:".toList = some (12, [':']) := by decide
example : takeDigits 2 "1:".toList = none := by decide

end Gatehouse.Time
