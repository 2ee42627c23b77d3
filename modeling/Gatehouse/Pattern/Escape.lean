import Gatehouse.Number.Reading
import Gatehouse.Pattern.Basic
import Gatehouse.Pattern.Flaw
import Gatehouse.Text.Name

/-!
# Escapes and classes in patterns

A written pattern is read unit by unit. This module reads what stands behind the mark of an escape,
names of groups, and classes. Whatever cannot be read as an escape with a meaning of its own stands
for itself.
-/

namespace Gatehouse.Pattern

inductive Piece where
  | char (character : Char)
  | half (code : Nat)
  deriving DecidableEq

namespace Piece

def code : Piece → Nat
  | .char character => character.toNat
  | .half code => code

def ofChar (character : Char) : List Piece :=
  match Text.encodeChar character with
  | [_] => [.char character]
  | codes => codes.map .half

def ofText (text : String) : List Piece :=
  text.toList.flatMap ofChar

def textOf (pieces : List Piece) : String :=
  String.ofList (Text.decodeUnits (pieces.map code))

def digit? (base : Nat) : Piece → Option Nat
  | .char character => (Number.digitValue? character).filter (· < base)
  | .half _ => none

end Piece

def takeDigits (base : Nat) : Nat → List Piece → Nat → Nat × List Piece
  | count + 1, piece :: rest, value =>
      match piece.digit? base with
      | some digit => takeDigits base count rest (value * base + digit)
      | none => (value, piece :: rest)
  | _, rest, value => (value, rest)

def takeHex (count : Nat) (text : List Piece) : Option (Nat × List Piece) :=
  let (value, rest) := takeDigits 16 count text 0
  if rest.length + count = text.length then some (value, rest) else none

def takeOctal (text : List Piece) : Nat × List Piece :=
  let (value, rest) := takeDigits 8 2 text 0
  if value < 32 && rest.length + 2 = text.length then takeDigits 8 1 rest value else (value, rest)

/-- A character of a name as the code behind the mark of an escape and its letter. Two surrogates
that belong together count as one, each behind a mark of its own. -/
def takeEscapedName : List Piece → Option (Nat × List Piece)
  | .char '\x7b' :: text =>
      match takeDigits 16 text.length text 0 with
      | (value, .char '\x7d' :: rest) =>
          if rest.length + 1 < text.length && value < 0x110000 then some (value, rest) else none
      | _ => none
  | text => do
      let (lead, rest) ← takeHex 4 text
      match rest with
      | .char '\\' :: .char 'u' :: behind =>
          let joined? := (takeHex 4 behind).bind fun (trail, rest) =>
            (Text.pairCode? lead trail).map fun code => (code, rest)
          return joined?.getD (lead, rest)
      | rest => return (lead, rest)

/-- A character of a name. Two halves that belong together count as one. -/
def takeNameCode : List Piece → Except Flaw (Nat × List Piece)
  | [] => .error .groupName
  | .char '\\' :: .char 'u' :: rest => (takeEscapedName rest).elim (.error .codeEscape) .ok
  | .half lead :: .half trail :: rest =>
      match Text.pairCode? lead trail with
      | some code => .ok (code, rest)
      | none => .ok (lead, .half trail :: rest)
  | piece :: rest => .ok (piece.code, rest)

/-- Takes a name up to the bracket behind it, in a number of steps; `isFirst` says that nothing of
it was taken. -/
def takeName (isFirst : Bool) : Nat → List Piece → Except Flaw (List Nat × List Piece)
  | 0, _ => .error .groupName
  | steps + 1, text => do
      match isFirst, text with
      | false, .char '>' :: rest => return ([], rest)
      | _, _ =>
          let (code, rest) ← takeNameCode text
          if if isFirst then Text.isNameStart code else Text.isNamePart code then
            let (name, rest) ← takeName false steps rest
            return (code :: name, rest)
          else throw .groupName

def name (text : List Piece) : Except Flaw (List Nat × List Piece) :=
  takeName true (text.length + 1) text

def kinds : List (Char × Kind × Bool) := [
  ('d', .digit, false), ('D', .digit, true), ('s', .blank, false), ('S', .blank, true),
  ('w', .word, false), ('W', .word, true)]

def kind? : Piece → Option Item
  | .char letter => (kinds.lookup letter).map fun (kind, negated) => .every kind negated
  | .half _ => none

def controls : List (Char × Nat) := [('f', 12), ('n', 10), ('r', 13), ('t', 9), ('v', 11)]

def isControlName (inClass : Bool) : Piece → Bool
  | .char character =>
      character.isAlpha || (inClass && (character.isDigit || character == '_'))
  | .half _ => false

def escapedUnit (inClass named : Bool) : List Piece → Except Flaw (Nat × List Piece)
  | [] => .error .escapedNothing
  | .char 'c' :: rest =>
      match rest with
      | letter :: behind =>
          if isControlName inClass letter then .ok (letter.code % 32, behind)
          else .ok ('\\'.toNat, .char 'c' :: rest)
      | [] => .ok ('\\'.toNat, .char 'c' :: rest)
  | .char 'x' :: rest => .ok ((takeHex 2 rest).getD ('x'.toNat, rest))
  | .char 'u' :: rest => .ok ((takeHex 4 rest).getD ('u'.toNat, rest))
  | .char 'k' :: rest => if named then .error .escape else .ok ('k'.toNat, rest)
  | .char letter :: rest =>
      match controls.lookup letter with
      | some code => .ok (code, rest)
      | none =>
          if ((Piece.char letter).digit? 8).isSome then .ok (takeOctal (.char letter :: rest))
          else .ok (letter.toNat, rest)
  | .half code :: rest => .ok (code, rest)

def Item.single (code : Nat) : Item := .range code code

def Item.single? : Item → Option Nat
  | .range first _ => some first
  | .every .. => none

def classPart (named : Bool) : List Piece → Except Flaw (Item × List Piece)
  | [] => .error .openClass
  | .char '\\' :: .char 'b' :: rest => .ok (.single 8, rest)
  | .char '\\' :: rest =>
      match rest.head?.bind kind? with
      | some item => .ok (item, rest.drop 1)
      | none => (escapedUnit true named rest).map fun (code, rest) => (.single code, rest)
  | piece :: rest => .ok (.single piece.code, rest)

def classRange (first last : Item) : Except Flaw (List Item) :=
  match first.single?, last.single? with
  | some low, some high => if high < low then .error .rangeReversed else .ok [.range low high]
  | _, _ => .ok [first, .single '-'.toNat, last]

def classParts (named : Bool) : Nat → List Piece → Except Flaw (List Item × List Piece)
  | 0, _ | _, [] => .error .openClass
  | _, .char ']' :: rest => .ok ([], rest)
  | steps + 1, text => do
      let (first, rest) ← classPart named text
      match rest with
      | .char '-' :: .char ']' :: rest => return ([first, .single '-'.toNat], rest)
      | .char '-' :: rest =>
          if rest.isEmpty then throw .openClass
          let (last, rest) ← classPart named rest
          let range ← classRange first last
          let (parts, rest) ← classParts named steps rest
          return (range ++ parts, rest)
      | rest =>
          let (parts, rest) ← classParts named steps rest
          return (first :: parts, rest)

def classOf (named : Bool) (text : List Piece) : Except Flaw (Pattern × List Piece) :=
  let (negated, text) :=
    match text with
    | .char '^' :: rest => (true, rest)
    | text => (false, text)
  (classParts named (text.length + 1) text).map fun (items, rest) => (.oneOf negated items, rest)

end Gatehouse.Pattern
