import Gatehouse.Pattern.Escape

/-!
# Reading patterns

The pattern that a text writes. The text is read from its front to its end; groups that are open
wait on a stack, the innermost on top, each with the terms read in it so far. The groups are counted
beforehand, because a number behind an escape refers to a group only if there are so many.
-/

namespace Gatehouse.Pattern

/-- The names of the groups that a text opens, in order; a group may have none. `inClass` says that
the text begins within a class. -/
def groupNames (inClass : Bool) : List Piece → List (Option (List Nat))
  | [] => []
  | .char '\\' :: _ :: rest => groupNames inClass rest
  | .char ']' :: rest => groupNames false rest
  | .char '[' :: rest => groupNames true rest
  | .char '(' :: .char '?' :: .char '<' :: rest =>
      match inClass, rest.head? with
      | true, _ | _, some (.char '=') | _, some (.char '!') => groupNames inClass rest
      | _, _ => ((name rest).toOption.map Prod.fst).getD [] :: groupNames inClass rest
  | .char '(' :: .char '?' :: rest => groupNames inClass rest
  | .char '(' :: rest => if inClass then groupNames true rest else none :: groupNames false rest
  | _ :: rest => groupNames inClass rest

/-- What an open group is. The outermost level is no group. -/
inductive Opening where
  | outermost
  | plain
  | capture (number : Nat) (name : Option (List Nat))
  | look (ahead negated : Bool)
  deriving DecidableEq

/-- A group that is being read: the choices that are complete, and the terms of the one that is
not, the last first. -/
structure Level where
  opening : Opening
  choices : List Pattern
  terms : List Pattern
  deriving DecidableEq

namespace Level

def start (opening : Opening) : Level :=
  { opening := opening, choices := [], terms := [] }

def inOrder : List Pattern → Pattern
  | [] => .nothing
  | [term] => term
  | term :: rest => .sequence (inOrder rest) term

def push (level : Level) (term : Pattern) : Level :=
  { level with terms := term :: level.terms }

def next (level : Level) : Level :=
  { level with choices := inOrder level.terms :: level.choices, terms := [] }

def body (level : Level) : Pattern :=
  level.choices.foldl (fun later earlier => .choice earlier later) (inOrder level.terms)

def close (level : Level) : Pattern :=
  match level.opening with
  | .outermost | .plain => level.body
  | .capture number _ => .group number level.body
  | .look ahead negated => .look ahead negated level.body

end Level

/-- A reader of a pattern: the innermost level, the levels around it, how many groups were opened,
the names of those that were closed, and the names that were referred to. -/
structure Reader where
  level : Level
  outer : List Level
  opened : Nat
  closed : List (List Nat)
  asked : List (List Nat)
  deriving DecidableEq

namespace Reader

def start : Reader :=
  { level := .start .outermost, outer := [], opened := 0, closed := [], asked := [] }

def push (reader : Reader) (term : Pattern) : Reader :=
  { reader with level := reader.level.push term }

def openGroup (reader : Reader) (opening : Opening) : Reader :=
  { reader with level := .start opening, outer := reader.level :: reader.outer }

def openCapture (reader : Reader) (name : Option (List Nat)) : Reader :=
  let number := reader.opened + 1
  { reader.openGroup (.capture number name) with opened := number }

def close (reader : Reader) : Except Flaw (Reader × Pattern) :=
  match reader.outer with
  | [] => .error .closedNothing
  | around :: outer =>
      let closed :=
        match reader.level.opening with
        | .capture _ (some name) => name :: reader.closed
        | _ => reader.closed
      if closed.eraseDups.length < closed.length then .error .repeatedName
      else .ok ({ reader with level := around, outer := outer, closed := closed },
        reader.level.close)

end Reader

def takeOpening (reader : Reader) : List Piece → Except Flaw (Reader × List Piece)
  | .char '?' :: .char ':' :: rest => .ok (reader.openGroup .plain, rest)
  | .char '?' :: .char '=' :: rest => .ok (reader.openGroup (.look true false), rest)
  | .char '?' :: .char '!' :: rest => .ok (reader.openGroup (.look true true), rest)
  | .char '?' :: .char '<' :: .char '=' :: rest =>
      .ok (reader.openGroup (.look false false), rest)
  | .char '?' :: .char '<' :: .char '!' :: rest =>
      .ok (reader.openGroup (.look false true), rest)
  | .char '?' :: .char '<' :: rest =>
      (name rest).map fun (name, rest) => (reader.openCapture (some name), rest)
  | .char '?' :: _ => .error .groupKind
  | rest => .ok (reader.openCapture none, rest)

/-- The greatest number of repetitions that can be counted; more are without end. -/
def endless : Nat := 2147483647

def takeBounds (text : List Piece) : Option ((Nat × Nat) × List Piece) :=
  let (least, rest) := takeDigits 10 text.length text 0
  if rest.length = text.length then none
  else
    match rest with
    | .char '\x7d' :: rest => some ((min least endless, min least endless), rest)
    | .char ',' :: .char '\x7d' :: rest => some ((min least endless, endless), rest)
    | .char ',' :: rest =>
        match takeDigits 10 rest.length rest 0 with
        | (most, .char '\x7d' :: rest) => some ((min least endless, min most endless), rest)
        | _ => none
    | _ => none

def takeMark : List Piece → Option ((Nat × Nat) × List Piece)
  | .char '*' :: rest => some ((0, endless), rest)
  | .char '+' :: rest => some ((1, endless), rest)
  | .char '?' :: rest => some ((0, 1), rest)
  | .char '\x7b' :: rest => takeBounds rest
  | _ => none

def Opening.looksBack : Opening → Bool
  | .look false _ => true
  | _ => false

/-- A term repeated within bounds. One that takes nothing need not be matched more than once. -/
def repeated (least most : Nat) (greedy : Bool) (term : Pattern) : Pattern :=
  if 0 < least && !term.takes then term
  else .times least (if most < endless then some most else none) greedy term

/-- Adds a term with the mark of repetition that may follow it, unless the term is fixed. -/
def addTerm (fixed : Bool) (reader : Reader) (term : Pattern) (text : List Piece) :
    Except Flaw (Reader × List Piece) :=
  match takeMark text with
  | none => .ok (reader.push term, text)
  | some ((least, most), rest) =>
      if most < least then .error .boundsReversed
      else if fixed then .error .unrepeatable
      else
        match rest with
        | .char '?' :: rest => .ok (reader.push (repeated least most false term), rest)
        | rest => .ok (reader.push (repeated least most true term), rest)

def quantify : Reader → Pattern → List Piece → Except Flaw (Reader × List Piece) :=
  addTerm false

def numbered (names : List (Option (List Nat))) : List (List Nat × Nat) :=
  names.zipIdx.filterMap fun (name, index) => name.map fun name => (name, index + 1)

def takeReference (names : List (Option (List Nat))) (text : List Piece) :
    Option (Pattern × List Piece) :=
  let (number, rest) := takeDigits 10 text.length text 0
  if 0 < number && number ≤ names.length then some (.again number, rest) else none

/-- A reference to a group by its name. One whose name is not known is noted. -/
def readNamed (names : List (Option (List Nat))) (reader : Reader) :
    List Piece → Except Flaw (Reader × List Piece)
  | .char '<' :: text => do
      let (name, rest) ← name text
      match (numbered names).lookup name with
      | some number => quantify reader (.again number) rest
      | none => quantify { reader with asked := name :: reader.asked } .nothing rest
  | _ => .error .referenceForm

def isNamed (names : List (Option (List Nat))) : Bool :=
  names.any Option.isSome

def readEscape (names : List (Option (List Nat))) (reader : Reader) (text : List Piece) :
    Except Flaw (Reader × List Piece) :=
  match text with
  | .char 'b' :: rest => .ok (reader.push (.edge false), rest)
  | .char 'B' :: rest => .ok (reader.push (.edge true), rest)
  | .char 'k' :: rest =>
      if isNamed names then readNamed names reader rest
      else quantify reader (.unit 'k'.toNat) rest
  | text =>
      match text.head?.bind kind? with
      | some item => quantify reader (.oneOf false [item]) (text.drop 1)
      | none =>
          let reference :=
            if text.head?.bind (Piece.digit? 10) = some 0 then none else takeReference names text
          match reference with
          | some (term, rest) => quantify reader term rest
          | none => do
              let (code, rest) ← escapedUnit false (isNamed names) text
              quantify reader (.unit code) rest

def readNext (names : List (Option (List Nat))) (reader : Reader) (first : Piece)
    (rest : List Piece) : Except Flaw (Reader × List Piece) :=
  match first with
  | .char ')' => do
      let (closed, term) ← reader.close
      addTerm reader.level.opening.looksBack closed term rest
  | .char '|' => .ok ({ reader with level := reader.level.next }, rest)
  | .char '*' | .char '+' | .char '?' => .error .nothingToRepeat
  | .char '^' => .ok (reader.push .start, rest)
  | .char '$' => .ok (reader.push .stop, rest)
  | .char '.' => quantify reader .anything rest
  | .char '(' => takeOpening reader rest
  | .char '[' => do
      let (term, rest) ← classOf (isNamed names) rest
      quantify reader term rest
  | .char '\\' => readEscape names reader rest
  | .char '\x7b' =>
      if (takeBounds rest).isSome then .error .nothingToRepeat
      else quantify reader (.unit first.code) rest
  | piece => quantify reader (.unit piece.code) rest

def Reader.finish (reader : Reader) : Except Flaw Pattern :=
  if !reader.outer.isEmpty then .error .openGroup
  else if !reader.asked.isEmpty then .error .unknownName
  else .ok reader.level.body

def readAll (names : List (Option (List Nat))) : Nat → Reader → List Piece → Except Flaw Pattern
  | _, reader, [] => reader.finish
  | 0, reader, _ => reader.finish
  | steps + 1, reader, first :: rest => do
      let (reader, rest) ← readNext names reader first rest
      readAll names steps reader rest

def read (pieces : List Piece) : Except Flaw Pattern :=
  readAll (groupNames false pieces) pieces.length .start pieces

def flaw? (text : String) : Option Flaw :=
  match read (Piece.ofText text) with
  | .error flaw => some flaw
  | .ok _ => none

example : flaw? "a(" = some .openGroup := by decide +kernel
example : flaw? "a\x7b2,1\x7d" = some .boundsReversed := by decide +kernel
example : (read (Piece.ofText "(?<n>.)\\k<n>")).toOption =
    some (.sequence (.group 1 .anything) (.again 1)) := by decide +kernel
example : (read (Piece.ofText "a|\\1")).toOption = some (.choice (.unit 97) (.unit 1)) := by
  decide +kernel

end Gatehouse.Pattern
