/-!
# Flaws of patterns

Why a text is not a pattern.
-/

namespace Gatehouse.Pattern

inductive Flaw where
  | openGroup
  | closedNothing
  | nothingToRepeat
  | boundsReversed
  | unrepeatable
  | groupKind
  | groupName
  | repeatedName
  | referenceForm
  | unknownName
  | codeEscape
  | escape
  | escapedNothing
  | openClass
  | rangeReversed
  deriving DecidableEq

def Flaw.message : Flaw → String
  | .openGroup => "Unterminated group"
  | .closedNothing => "Unmatched ')'"
  | .nothingToRepeat => "Nothing to repeat"
  | .boundsReversed => "numbers out of order in \x7b\x7d quantifier"
  | .unrepeatable => "Invalid quantifier"
  | .groupKind => "Invalid group"
  | .groupName => "Invalid capture group name"
  | .repeatedName => "Duplicate capture group name"
  | .referenceForm => "Invalid named reference"
  | .unknownName => "Invalid named capture referenced"
  | .codeEscape => "Invalid Unicode escape"
  | .escape => "Invalid escape"
  | .escapedNothing => "\\ at end of pattern"
  | .openClass => "Unterminated character class"
  | .rangeReversed => "Range out of order in character class"

end Gatehouse.Pattern
