import Gatehouse.Number.Basic
import Gatehouse.Text.Blank

/-!
# Reading numbers

Two readings of a text as a number. `leadingInteger` takes the digits at the front and ignores
what follows them. `ofText` takes the whole text: nothing is zero, and besides decimals it knows
whole numbers with a base mark and the word for infinity.
-/

namespace Gatehouse.Number

def digitValue? (digit : Char) : Option Nat :=
  if '0' ≤ digit && digit ≤ '9' then some (digit.toNat - '0'.toNat)
  else if 'a' ≤ digit && digit ≤ 'f' then some (digit.toNat - 'a'.toNat + 10)
  else if 'A' ≤ digit && digit ≤ 'F' then some (digit.toNat - 'A'.toNat + 10)
  else none

def isDigit (character : Char) : Bool :=
  '0' ≤ character && character ≤ '9'

def digitsValue (digits : List Char) : Nat :=
  digits.foldl (fun value digit => value * 10 + (digit.toNat - '0'.toNat)) 0

def takeSign : List Char → Bool × List Char
  | '-' :: rest => (true, rest)
  | '+' :: rest => (false, rest)
  | rest => (false, rest)

/-- The whole number at the front of a text, after blanks and a sign; what follows its digits is
ignored, and without digits it is not a number. -/
def leadingInteger (text : String) : Number :=
  let (negative, rest) := takeSign (Text.trimFront text.toList)
  match rest.takeWhile isDigit with
  | [] => .nan
  | digits => ofDecimal negative (digitsValue digits) 0

def takeExponent : List Char → Option (Int × List Char)
  | mark :: rest =>
      if mark == 'e' || mark == 'E' then
        let (negative, rest) := takeSign rest
        match rest.takeWhile isDigit with
        | [] => none
        | digits =>
            let size : Int := digitsValue digits
            some (if negative then -size else size, rest.dropWhile isDigit)
      else none
  | [] => none

/-- A decimal without sign that fills the whole text: digits, a point with digits on at least one
side, and an exponent. -/
def unsignedDecimal? (text : List Char) : Option (Nat × Int) :=
  let whole := text.takeWhile isDigit
  let (fraction, rest, pointed) :=
    match text.dropWhile isDigit with
    | '.' :: rest => (rest.takeWhile isDigit, rest.dropWhile isDigit, true)
    | rest => ([], rest, false)
  if whole.isEmpty && fraction.isEmpty then none
  else
    let digits := digitsValue (whole ++ fraction)
    let places : Int := if pointed then fraction.length else 0
    match rest with
    | [] => some (digits, -places)
    | rest =>
        match takeExponent rest with
        | some (exponent, []) => some (digits, exponent - places)
        | _ => none

def basedDigits? (base : Nat) (digits : List Char) : Option Nat :=
  if digits.isEmpty then none
  else
    digits.foldlM (fun value digit =>
      match digitValue? digit with
      | some unit => if unit < base then some (value * base + unit) else none
      | none => none) 0

/-- The number that a whole text spells; a blank text is zero, an unreadable one not a number. -/
def ofText (text : String) : Number :=
  let read (digits : Option Nat) : Number :=
    match digits with
    | some whole => nearest whole
    | none => .nan
  match Text.trimList text.toList with
  | [] => .finite 0
  | '0' :: 'x' :: digits | '0' :: 'X' :: digits => read (basedDigits? 16 digits)
  | '0' :: 'o' :: digits | '0' :: 'O' :: digits => read (basedDigits? 8 digits)
  | '0' :: 'b' :: digits | '0' :: 'B' :: digits => read (basedDigits? 2 digits)
  | signed =>
      let (negative, rest) := takeSign signed
      if rest == "Infinity".toList then .infinite negative
      else
        match unsignedDecimal? rest with
        | some (digits, exponent) => ofDecimal negative digits exponent
        | none => .nan

example : leadingInteger "  -12px" = .finite (-12) := by decide +kernel
example : leadingInteger "1e3" = .finite 1 := by decide +kernel
example : leadingInteger "x" = .nan := by decide +kernel
example : ofText " 12 " = .finite 12 := by decide +kernel
example : ofText "0x10" = .finite 16 := by decide +kernel
example : ofText "" = .finite 0 := by decide +kernel
example : ofText "1_0" = .nan := by decide +kernel

end Gatehouse.Number
