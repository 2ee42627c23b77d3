/-!
# Blank characters

The characters that count as blank at the ends of a text, and trimming. `trim` removes a longest
run of blanks from both ends; what it leaves starts and ends with a character that is not blank.
-/

namespace Gatehouse.Text

/-- White space and line ends: the tabulation and line controls, the space separators, and the
zero-width no-break space. The next-line control is not among them. -/
def isBlank (character : Char) : Bool :=
  let code := character.toNat
  (0x09 ≤ code && code ≤ 0x0d) || code == 0x20 || code == 0xa0 || code == 0x1680 ||
    (0x2000 ≤ code && code ≤ 0x200a) || code == 0x2028 || code == 0x2029 || code == 0x202f ||
    code == 0x205f || code == 0x3000 || code == 0xfeff

def trimFront (characters : List Char) : List Char :=
  characters.dropWhile isBlank

def trimBack (characters : List Char) : List Char :=
  (trimFront characters.reverse).reverse

def trimList (characters : List Char) : List Char :=
  trimBack (trimFront characters)

def trim (text : String) : String :=
  String.ofList (trimList text.toList)

/-- Every run of blanks as a single space; `gap` says that blanks came before, or nothing at all. -/
def squeezeList (gap : Bool) : List Char → List Char
  | [] => []
  | character :: rest =>
      if isBlank character then
        if gap then squeezeList true rest else ' ' :: squeezeList true rest
      else character :: squeezeList false rest

/-- A text on one line: every run of blanks is a single space, and there are none at the ends. -/
def squeeze (text : String) : String :=
  String.ofList (trimBack (squeezeList true text.toList))

example : squeeze " a\n  b\u00a0c " = "a b c" := by decide +kernel

@[simp] theorem toList_trim (text : String) : (trim text).toList = trimList text.toList := by
  simp [trim]

@[simp] theorem trimFront_nil : trimFront [] = [] := rfl

theorem trimFront_of_not_blank {first : Char} {rest : List Char} (solid : isBlank first = false) :
    trimFront (first :: rest) = first :: rest := by
  simp [trimFront, solid]

theorem isBlank_head_trimFront {characters : List Char} {first : Char} {rest : List Char}
    (shape : trimFront characters = first :: rest) : isBlank first = false := by
  induction characters with
  | nil => simp at shape
  | cons head tail induction =>
      by_cases blank : isBlank head
      · simp only [trimFront, List.dropWhile_cons, blank, if_true] at shape
        exact induction shape
      · simp only [trimFront, List.dropWhile_cons, blank] at shape
        simp at shape
        simpa [← shape.1] using blank

theorem trimFront_trimFront (characters : List Char) :
    trimFront (trimFront characters) = trimFront characters := by
  cases shape : trimFront characters with
  | nil => rfl
  | cons first rest => exact trimFront_of_not_blank (isBlank_head_trimFront shape)

theorem trimList_infix (characters : List Char) : trimList characters <:+: characters := by
  have front : trimFront characters <:+ characters := List.dropWhile_suffix _
  have back : trimBack (trimFront characters) <+: trimFront characters := by
    have reversed : trimFront (trimFront characters).reverse <:+ (trimFront characters).reverse :=
      List.dropWhile_suffix _
    simpa [trimBack] using List.reverse_prefix.mpr reversed
  exact back.isInfix.trans front.isInfix

example : trim "\t a b\u00a0 " = "a b" := by decide +kernel
example : isBlank '\u0085' = false := by decide

end Gatehouse.Text
