import Gatehouse.Pattern.Escape

/-!
# Templates of paths

A template of paths is the text of a pattern in which some signs have a meaning of their own: a
colon in front of a word stands for one part of the path, a star for any text, and a point for
itself. The part behind a colon may be given a pattern of its own in parentheses, may be marked to
go on over more parts, and may be missing. A part that follows other text of its section stops where
that text would come again; the text between it and the part or the star before it is what counts.

What a path has for each part goes by a name, and so does what it has for each other group that is
kept. A group that stands where the name of a group might be is overlooked and has none.
-/

namespace Gatehouse.Web.Template

open Pattern (Piece)

/-- A part of the path as it stands in a template: whether a slash and a point come before the
colon, the pattern of the part if one is given, and whether it goes on or may be missing. -/
structure Part where
  slash : Bool
  point : Bool
  form : Option (List Piece)
  goesOn : Bool
  optional : Bool
  deriving DecidableEq

inductive Sign where
  | escape (piece : Piece)
  | part (part : Part)
  | point
  | star
  | group
  | plain (piece : Piece)
  deriving DecidableEq

def isLineEnd (piece : Piece) : Bool :=
  Pattern.lineEnds.contains piece.code

def isWordPart : Piece → Bool
  | .char character => character.isAlphanum || character == '_'
  | .half _ => false

def takeMark (mark : Char) : List Piece → Bool × List Piece
  | [] => (false, [])
  | first :: rest => if first = .char mark then (true, rest) else (false, first :: rest)

def takeForm : List Piece → Option (List Piece) × List Piece
  | .char '(' :: rest =>
      let stops (piece : Piece) : Bool := piece == .char ')' || isLineEnd piece
      match rest.dropWhile (!stops ·) with
      | .char ')' :: behind =>
          (some (.char '(' :: rest.takeWhile (!stops ·) ++ [.char ')']), behind)
      | _ => (none, .char '(' :: rest)
  | rest => (none, rest)

def takePart (text : List Piece) : Option (Part × List Piece) :=
  let (slash, rest) := takeMark '/' text
  let (point, rest) := takeMark '.' rest
  match rest with
  | .char ':' :: rest =>
      if (rest.takeWhile isWordPart).isEmpty then none
      else
        let (form, rest) := takeForm (rest.dropWhile isWordPart)
        let (goesOn, rest) := takeMark '*' rest
        let (optional, rest) := takeMark '?' rest
        some ({ slash, point, form, goesOn, optional }, rest)
  | _ => none

def takeSign (first : Piece) (rest : List Piece) : Sign × List Piece :=
  match first, rest with
  | .char '\\', next :: behind =>
      if isLineEnd next then (.plain first, rest) else (.escape next, behind)
  | _, _ =>
      match takePart (first :: rest) with
      | some (part, behind) => (.part part, behind)
      | none =>
          match first, rest with
          | .char '.', _ => (.point, rest)
          | .char '*', _ => (.star, rest)
          | .char '/', .char '(' :: behind => (.group, behind)
          | _, _ => (.plain first, rest)

/-- What has been written of a pattern, where the parts begin in it, and what a part must not run
into: the text since the last section, part or star. `held` counts the pieces of the template that
this text is known to hold. -/
structure Draft where
  written : List Piece
  parts : List Nat
  barrier : List Piece
  held : Nat
  deriving DecidableEq

/-- The first star of a given pattern stands for any text, unless an escape comes before it. -/
def widen : List Piece → List Piece
  | .char '\\' :: next :: rest =>
      if isLineEnd next then .char '\\' :: widen (next :: rest)
      else .char '\\' :: next :: rest
  | .char '*' :: rest => Piece.ofText "(.*)" ++ rest
  | first :: rest => first :: widen rest
  | [] => []

def writtenPoint : List Piece := Piece.ofText "\\."

def Part.capture (part : Part) (barrier : List Piece) : List Piece :=
  match part.form with
  | some form => widen form
  | none =>
      if barrier.isEmpty then
        Piece.ofText "([^/" ++ (if part.point then writtenPoint else []) ++ Piece.ofText "]+?)"
      else Piece.ofText "((?:(?!/|" ++ barrier ++ Piece.ofText ").)+?)"

def Part.pattern (part : Part) (barrier : List Piece) : List Piece :=
  let point := if part.point then writtenPoint else []
  Piece.ofText "(?:" ++ point ++ (if part.slash then Piece.ofText "/" else []) ++
    part.capture barrier ++
    (if part.goesOn then Piece.ofText "((?:[/" ++ point ++ Piece.ofText "].+?)?)" else []) ++
    Piece.ofText ")" ++ (if part.optional then Piece.ofText "?" else [])

namespace Draft

def start : Draft :=
  { written := [], parts := [], barrier := [], held := 0 }

def write (draft : Draft) (text : List Piece) : Draft :=
  { draft with written := draft.written ++ text }

def unheld (template : List Piece) (draft : Draft) (position : Nat) : List Piece :=
  (template.drop draft.held).take (position - draft.held)

/-- Adds what is not held yet before a position, and holds the template up to another one. -/
def hold (template : List Piece) (draft : Draft) (position after : Nat) : Draft :=
  { draft with barrier := draft.barrier ++ draft.unheld template position, held := after }

def clear (draft : Draft) : Draft :=
  { draft with barrier := [] }

def add (template : List Piece) (draft : Draft) (position after : Nat) : Sign → Draft
  | .plain piece => draft.write [piece]
  | .escape piece =>
      { draft.write [.char '\\', piece] with
        barrier := draft.barrier ++ [.char '\\', piece], held := draft.held + 2 }
  | .point =>
      { draft.write writtenPoint with
        barrier := draft.barrier ++ writtenPoint, held := draft.held + 1 }
  | .star => ((draft.hold template position after).write (Piece.ofText "(.*)")).clear
  | .group =>
      let held := draft.hold template position after
      { held.write (Piece.ofText "/(?:") with barrier := held.barrier ++ [.char '/'] }
  | .part part =>
      let held :=
        if part.slash || part.point then { draft with barrier := [], held := after }
        else draft.hold template position after
      let parts := draft.parts ++ [draft.written.length]
      { (held.write (part.pattern held.barrier)).clear with parts := parts }

end Draft

def writeAll (template : List Piece) : Nat → Draft → List Piece → Draft
  | 0, draft, _ | _, draft, [] => draft
  | steps + 1, draft, first :: rest =>
      let (sign, behind) := takeSign first rest
      let position := template.length - (rest.length + 1)
      let after := template.length - behind.length
      writeAll template steps (draft.add template position after sign) behind

def draft (template : String) : Draft :=
  let pieces := Piece.ofText template
  writeAll pieces pieces.length .start pieces

/-- The written pattern that takes what is at or below a template, with a slash at its end or
without. -/
def pattern (template : String) : List Piece :=
  let written := (draft template).written
  let ending := if written.getLast? = some (.char '/') then "?" else "/?"
  .char '^' :: written ++ Piece.ofText (ending ++ "(?=/|$)")

def patternText (template : String) : String :=
  Piece.textOf (pattern template)

/-- What follows the name of a group: the name goes on to a bracket on its line with no question
mark behind it. -/
def behindName : List Piece → Option (List Piece)
  | [] => none
  | .char '>' :: rest =>
      if rest.head? = some (.char '?') then behindName rest else some rest
  | first :: rest => if isLineEnd first then none else behindName rest

/-- Where groups that are kept open in a written pattern of a length, in a number of steps. -/
def openings (length : Nat) : Nat → List Piece → List Nat
  | 0, _ | _, [] => []
  | steps + 1, .char '\\' :: next :: rest =>
      openings length steps (if isLineEnd next then next :: rest else rest)
  | steps + 1, .char '(' :: rest =>
      let behind? :=
        match rest with
        | .char '?' :: .char '<' :: text => behindName text
        | .char '?' :: _ => none
        | rest => some rest
      match behind? with
      | some behind => (length - (rest.length + 1)) :: openings length steps behind
      | none => openings length steps rest
  | steps + 1, _ :: rest => openings length steps rest

/-- How many names there are for parts and groups that begin at some places: the first group of a
part goes by the name of the part. -/
def countNames : List Nat → List Nat → Nat
  | parts, [] => parts.length
  | [], groups => groups.length
  | part :: parts, group :: groups =>
      if part ≤ group then countNames parts groups + 1 else countNames (part :: parts) groups + 1

def names (template : String) : Nat :=
  let draft := draft template
  countNames draft.parts (openings draft.written.length draft.written.length draft.written)

example : patternText "/gw" = "^/gw/?(?=/|$)" := by decide +kernel
example : patternText "/v1.0/" = "^/v1\\.0/?(?=/|$)" := by decide +kernel
example : patternText "/a-:b?" = "^/a-(?:((?:(?!/|/a-).)+?))?/?(?=/|$)" := by decide +kernel
example : patternText "/.:x(\\d*)*" = "^(?:\\./(\\d*)((?:[/\\.].+?)?))/?(?=/|$)" := by
  decide +kernel
example : patternText "/:a-:b" = "^(?:/([^/]+?))-(?:((?:(?!/|-).)+?))/?(?=/|$)" := by
  decide +kernel

example : names "/:a*-:b(x(y))" = 4 := by decide +kernel
example : names "/x(?<=(a)(b)>)" = 1 := by decide +kernel

end Gatehouse.Web.Template
