import Gatehouse.Json.Value
import Gatehouse.Number.Reading

/-!
# Reading documents

A document is one value with white space around it; nothing may follow. Strings hold no control
characters. The reader recurses on a budget that the length of the text bounds: each value, member
and element takes at least one character.
-/

namespace Gatehouse.Json

def isSpace (character : Char) : Bool :=
  character == ' ' || character == '\t' || character == '\n' || character == '\r'

def skipSpace (input : List Char) : List Char :=
  input.dropWhile isSpace

def takeWord : List Char → List Char → Option (List Char)
  | [], input => some input
  | _ :: _, [] => none
  | expected :: word, first :: rest => if first = expected then takeWord word rest else none

def takeUnit : List Char → Option (Nat × List Char)
  | a :: b :: c :: d :: rest =>
      (Number.basedDigits? 16 [a, b, c, d]).map fun value => (value, rest)
  | _ => none

def replacement : Char := Char.ofNat 0xfffd

/-- The character that an escape spells, with the mark already taken. A pair of surrogates spells
one character. -/
def takeEscape : List Char → Option (Char × List Char)
  | '"' :: rest => some ('"', rest)
  | '\\' :: rest => some ('\\', rest)
  | '/' :: rest => some ('/', rest)
  | 'b' :: rest => some (Char.ofNat 8, rest)
  | 'f' :: rest => some (Char.ofNat 12, rest)
  | 'n' :: rest => some ('\n', rest)
  | 'r' :: rest => some ('\r', rest)
  | 't' :: rest => some ('\t', rest)
  | 'u' :: rest =>
      match takeUnit rest with
      | none => none
      | some (unit, rest) =>
          if 0xd800 ≤ unit && unit < 0xdc00 then
            match rest with
            | '\\' :: 'u' :: more =>
                match takeUnit more with
                | some (low, more) =>
                    if 0xdc00 ≤ low && low < 0xe000 then
                      some (Char.ofNat (0x10000 + (unit - 0xd800) * 0x400 + (low - 0xdc00)), more)
                    else some (replacement, rest)
                | none => none
            | _ => some (replacement, rest)
          else if 0xdc00 ≤ unit && unit < 0xe000 then some (replacement, rest)
          else some (Char.ofNat unit, rest)
  | _ => none

def takeString : Nat → List Char → List Char → Option (String × List Char)
  | 0, _, _ => none
  | budget + 1, taken, input =>
      match input with
      | '"' :: rest => some (String.ofList taken.reverse, rest)
      | '\\' :: rest =>
          match takeEscape rest with
          | some (character, rest) => takeString budget (character :: taken) rest
          | none => none
      | character :: rest =>
          if character.toNat < 0x20 then none else takeString budget (character :: taken) rest
      | [] => none

/-- A number: an optional minus, a whole part without superfluous zeros, a fraction with digits,
and an exponent with digits. -/
def takeNumber (input : List Char) : Option (Number × List Char) :=
  let (negative, rest) :=
    match input with
    | '-' :: rest => (true, rest)
    | rest => (false, rest)
  let whole := rest.takeWhile Number.isDigit
  let rest := rest.dropWhile Number.isDigit
  let wholeIsFine :=
    match whole with
    | [] => false
    | ['0'] => true
    | '0' :: _ => false
    | _ => true
  if !wholeIsFine then none
  else
    let fractionAndRest : Option (List Char × List Char) :=
      match rest with
      | '.' :: rest =>
          let fraction := rest.takeWhile Number.isDigit
          if fraction.isEmpty then none else some (fraction, rest.dropWhile Number.isDigit)
      | rest => some ([], rest)
    match fractionAndRest with
    | none => none
    | some (fraction, rest) =>
        let digits := Number.digitsValue (whole ++ fraction)
        let places : Int := fraction.length
        let exponentAndRest : Option (Int × List Char) :=
          match rest with
          | 'e' :: _ | 'E' :: _ => Number.takeExponent rest
          | rest => some (0, rest)
        exponentAndRest.map fun (exponent, rest) =>
          (Number.ofDecimal negative digits (exponent - places), rest)

mutual

def takeValue : Nat → List Char → Option (Json × List Char)
  | 0, _ => none
  | budget + 1, input =>
      match skipSpace input with
      | '"' :: rest =>
          (takeString (rest.length + 1) [] rest).map fun (value, rest) => (.text value, rest)
      | '{' :: rest =>
          match skipSpace rest with
          | '}' :: rest => some (.object [], rest)
          | rest => (takeMembers budget rest).map fun (members, rest) => (.object members, rest)
      | '[' :: rest =>
          match skipSpace rest with
          | ']' :: rest => some (.array [], rest)
          | rest => (takeElements budget rest).map fun (elements, rest) => (.array elements, rest)
      | 't' :: rest => (takeWord "rue".toList rest).map fun rest => (.truth true, rest)
      | 'f' :: rest => (takeWord "alse".toList rest).map fun rest => (.truth false, rest)
      | 'n' :: rest => (takeWord "ull".toList rest).map fun rest => (.null, rest)
      | rest => (takeNumber rest).map fun (value, rest) => (.number value, rest)

def takeElements : Nat → List Char → Option (List Json × List Char)
  | 0, _ => none
  | budget + 1, input =>
      match takeValue budget input with
      | none => none
      | some (value, rest) =>
          match skipSpace rest with
          | ',' :: rest => (takeElements budget rest).map fun (more, rest) => (value :: more, rest)
          | ']' :: rest => some ([value], rest)
          | _ => none

def takeMembers : Nat → List Char → Option (List (String × Json) × List Char)
  | 0, _ => none
  | budget + 1, input =>
      match skipSpace input with
      | '"' :: rest =>
          match takeString (rest.length + 1) [] rest with
          | none => none
          | some (name, rest) =>
              match skipSpace rest with
              | ':' :: rest =>
                  match takeValue budget rest with
                  | none => none
                  | some (value, rest) =>
                      match skipSpace rest with
                      | ',' :: rest =>
                          (takeMembers budget rest).map fun (more, rest) =>
                            ((name, value) :: more, rest)
                      | '}' :: rest => some ([(name, value)], rest)
                      | _ => none
              | _ => none
      | _ => none

end

def read (input : String) : Option Json :=
  let characters := input.toList
  match takeValue (2 * characters.length + 2) characters with
  | some (value, rest) => if (skipSpace rest).isEmpty then some value else none
  | none => none

end Gatehouse.Json
