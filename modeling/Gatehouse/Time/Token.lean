import Gatehouse.Text.Blank
import Gatehouse.Time.Digits

/-!
# Tokens of date texts

A date text falls apart into numbers, signs, marks and words. A number keeps the count of its
characters beside its value, of which only nine digits count after leading zeros. A word is a run of
characters from the capital A on; it means a month, a half of the day, a zone, the mark in front of
a time of day, or nothing. Text in parentheses counts as a single mark without meaning, and a null
character ends the text.
-/

namespace Gatehouse.Time

inductive Word where
  | month (number : Nat)
  | half (hours : Nat)
  | zone (hours : Int)
  | timeMark
  | other
  deriving DecidableEq

namespace Word

def months : List String :=
  ["jan", "feb", "mar", "apr", "may", "jun", "jul", "aug", "sep", "oct", "nov", "dec"]

def table : List (String × Word) := [
  ("am", .half 0), ("pm", .half 12), ("ut", .zone 0), ("utc", .zone 0), ("z", .zone 0),
  ("gmt", .zone 0), ("cdt", .zone (-5)), ("cst", .zone (-6)), ("edt", .zone (-4)),
  ("est", .zone (-5)), ("mdt", .zone (-6)), ("mst", .zone (-7)), ("pdt", .zone (-7)),
  ("pst", .zone (-8)), ("t", .timeMark)]

def lower (character : Char) : Char :=
  if 'A' ≤ character && character ≤ 'Z' then Char.ofNat (character.toNat + 32) else character

def ofText (word : List Char) : Word :=
  let small := word.map lower
  match months.findIdx? (· == String.ofList (small.take 3)) with
  | some index => .month (index + 1)
  | none => (table.lookup (String.ofList small)).getD .other

end Word

inductive Token where
  | number (value length : Nat)
  | sign (plus : Bool)
  | colon
  | point
  | close
  | word (meaning : Word) (length : Nat)
  | blank
  | other
  deriving DecidableEq

namespace Token

def significantDigits : Nat := 9

def ofDigits (digits : List Char) : Token :=
  let kept := (digits.dropWhile (· == '0')).take significantDigits
  .number ((digits? kept).getD 0) digits.length

def isDigit (character : Char) : Bool :=
  (digit? character).isSome

/-- A character of a word; of the blanks from the capital A on, only the separators of lines and of
paragraphs are. -/
def isLetter (character : Char) : Bool :=
  'A' ≤ character &&
    (!Text.isBlank character || character == '\u2028' || character == '\u2029')

/-- The text behind the parenthesis that closes those open so far, or its end. -/
def afterParentheses (depth : Nat) : List Char → List Char
  | [] => []
  | character :: rest =>
      if character == '(' then afterParentheses (depth + 1) rest
      else if character == ')' then
        if depth ≤ 1 then rest else afterParentheses (depth - 1) rest
      else afterParentheses depth rest

def within : Nat → List Char → List Token
  | 0, _ => []
  | _, [] => []
  | steps + 1, first :: rest =>
      if isDigit first then
        ofDigits (first :: rest.takeWhile isDigit) :: within steps (rest.dropWhile isDigit)
      else if isLetter first then
        let word := first :: rest.takeWhile isLetter
        .word (.ofText word) word.length :: within steps (rest.dropWhile isLetter)
      else
        match first with
        | ':' => .colon :: within steps rest
        | '-' => .sign false :: within steps rest
        | '+' => .sign true :: within steps rest
        | '.' => .point :: within steps rest
        | ')' => .close :: within steps rest
        | '(' => .other :: within steps (afterParentheses 1 rest)
        | _ => (if Text.isBlank first then .blank else .other) :: within steps rest

def ofText (text : String) : List Token :=
  let characters := text.toList.takeWhile (· != '\x00')
  within characters.length characters

example : ofText "May 5, 2025" =
    [.word (.month 5) 3, .blank, .number 5 1, .other, .blank, .number 2025 4] := by decide +kernel
example : ofText "0012:(a(b)c)Z" =
    [.number 12 4, .colon, .other, .word (.zone 0) 1] := by decide +kernel

end Token

end Gatehouse.Time
