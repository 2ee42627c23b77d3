import Gatehouse.Access.Display
import Gatehouse.Access.Response
import Gatehouse.Proofs.Frame.Noise
import Gatehouse.Proofs.Frame.Printable
import Gatehouse.Proofs.Message.Written
import Gatehouse.Proofs.Text.Trimmed
import Mathlib.Algebra.Group.Nat.Defs

/-!
# Responses that are written

The texts that a display shows as they are: short, printable, without delimiters and without spaces
at their ends. `line` turns every text into one of them (`isLine_line`) and leaves these alone
(`line_eq_self_iff`).

A response carries two fields, the seconds and the line. With a few seconds both are short,
printable and without delimiters, whatever text the line was made from (`isOrdinary_response`); so
the response is read back as it is (`read_shown_response`), and its size is the sum of what its
parts take (`length_response`).
-/

namespace Gatehouse

namespace Access.Display

open Text (isBlank)

/-- A text that a display shows as it is. -/
structure IsLine (text : String) : Prop where
  short : text.toList.length ≤ 40
  shown : ∀ character ∈ text.toList, (0x20 ≤ character.toNat ∧ character.toNat ≤ 0x7e) ∧
    character ∉ [']', '+', '[']
  front : text.toList.head? ≠ some ' '
  back : text.toList.getLast? ≠ some ' '

theorem isShown_iff {character : Char} :
    isShown character = true ↔ (0x20 ≤ character.toNat ∧ character.toNat ≤ 0x7e) ∧
      character ∉ [']', '+', '['] := by
  have limit : character.toNat < 0x7f ↔ character.toNat ≤ 0x7e := Nat.lt_succ_iff
  simp only [isShown, Field.delimiters, Bool.and_eq_true, decide_eq_true_eq, Bool.not_eq_true',
    List.contains_eq_mem, decide_eq_false_iff_not, limit]

theorem isBlank_eq_false_iff {character : Char} (shown : isShown character = true) :
    isBlank character = false ↔ character ≠ ' ' := by
  rcases (isShown_iff.mp shown).1 with ⟨low, high⟩
  constructor
  · rintro solid rfl
    cases solid
  · intro other
    have code : character.toNat ≠ 0x20 := by
      intro same
      exact other (Char.toNat_inj.mp same)
    simp only [isBlank, Bool.or_eq_false_iff, Bool.and_eq_false_iff, decide_eq_false_iff_not,
      beq_eq_false_iff_ne]
    omega

theorem baseOf_of_shown {character : Char} (shown : isShown character = true) :
    Text.baseOf character = [character] := by
  apply Text.baseOf_of_basic
  have high := (isShown_iff.mp shown).1.2
  omega

variable (characters : List Char)

/-- The line is what the text begins with once all that is not shown and the blanks in front are
dropped. -/
theorem begins_lineOf :
    lineOf characters <+: Text.trimFront ((characters.flatMap Text.baseOf).filter isShown) := by
  have cut := List.take_prefix width
    (Text.trimList ((characters.flatMap Text.baseOf).filter isShown))
  exact (Text.begins_trimBack _).trans (cut.trans (Text.begins_trimList _))

theorem isShown_of_mem_lineOf : ∀ character ∈ lineOf characters, isShown character = true := by
  intro character member
  apply List.of_mem_filter
  exact (Text.trimFront_sublist _).subset ((begins_lineOf characters).subset member)

theorem length_lineOf_le : (lineOf characters).length ≤ 40 :=
  (Text.begins_trimBack _).length_le.trans (List.length_take_le width _)

/-- Cutting uncovers no blank in front: what is cut still begins where the text begins. -/
theorem isBlank_head?_lineOf : ∀ first ∈ (lineOf characters).head?, isBlank first = false := by
  intro first found
  apply Text.isBlank_head?_trimFront first
  rcases begins_lineOf characters with ⟨rest, whole⟩
  rw [← whole, List.head?_append, Option.mem_def.mp found]
  rfl

theorem isBlank_getLast?_lineOf : ∀ last ∈ (lineOf characters).getLast?, isBlank last = false :=
  Text.isBlank_getLast?_trimBack

variable {characters}

/-- Nothing is done to characters that are shown, few and without blanks at their ends. -/
theorem lineOf_eq_self (shown : ∀ character ∈ characters, isShown character = true)
    (short : characters.length ≤ 40)
    (front : ∀ first ∈ characters.head?, isBlank first = false)
    (back : ∀ last ∈ characters.getLast?, isBlank last = false) :
    lineOf characters = characters := by
  have bases : characters.flatMap Text.baseOf = characters := by
    calc characters.flatMap Text.baseOf
        = characters.flatMap fun character => [character] :=
          List.flatMap_congr fun character member => baseOf_of_shown (shown character member)
      _ = characters := List.flatMap_singleton' characters
  have trimmed : Text.trimList characters = characters := Text.trimList_of_solid front back
  have cut : characters.take width = characters := List.take_of_length_le short
  have ends : Text.trimBack characters = characters := by
    rw [← trimmed, Text.trimList, Text.trimBack_trimBack]
  rw [lineOf, bases, List.filter_eq_self.mpr shown, trimmed, cut, ends]

theorem isLine_line (text : String) : IsLine (line text) where
  short := by
    rw [line, String.toList_ofList]
    exact length_lineOf_le text.toList
  shown := by
    intro character member
    rw [line, String.toList_ofList] at member
    exact isShown_iff.mp (isShown_of_mem_lineOf text.toList character member)
  front := by
    rw [line, String.toList_ofList]
    intro space
    exact absurd (isBlank_head?_lineOf text.toList ' ' space) (by decide)
  back := by
    rw [line, String.toList_ofList]
    intro space
    exact absurd (isBlank_getLast?_lineOf text.toList ' ' space) (by decide)

theorem IsLine.line_eq {text : String} (fits : IsLine text) : line text = text := by
  have shown : ∀ character ∈ text.toList, isShown character = true :=
    fun character member => isShown_iff.mpr (fits.shown character member)
  have solid {character : Char} (member : character ∈ text.toList) (other : character ≠ ' ') :
      isBlank character = false :=
    (isBlank_eq_false_iff (shown character member)).mpr other
  rw [line, lineOf_eq_self shown fits.short, String.ofList_toList]
  · intro first found
    apply solid (List.mem_of_head? found)
    rintro rfl
    exact fits.front found
  · intro last found
    apply solid (List.mem_of_getLast? found)
    rintro rfl
    exact fits.back found

theorem line_eq_self_iff {text : String} : line text = text ↔ IsLine text :=
  ⟨fun same => same ▸ isLine_line text, IsLine.line_eq⟩

namespace IsLine

variable {text : String} (fits : IsLine text)
include fits

theorem isPrintable : Text.IsPrintable text.toList := by
  intro character member
  have code := (fits.shown character member).1
  omega

theorem isPlain : Field.IsPlain text := by
  intro delimiter among member
  exact (fits.shown delimiter member).2 among

end IsLine

end Access.Display

/-- Counts below a thousand are written with their digits, of which there are three at most. -/
theorem Number.text_of_short {count : Nat} (short : count < 1000) :
    text (ofNat count) = toString count ∧ (toString count).toList = Nat.toDigits 10 count := by
  constructor
  · rw [text_ofNat_of_small (by omega)]
    rfl
  · exact Nat.toList_repr

theorem Number.isDigit_of_mem_text {count : Nat} (short : count < 1000) {character : Char}
    (member : character ∈ (text (ofNat count)).toList) :
    48 ≤ character.toNat ∧ character.toNat ≤ 57 := by
  rcases text_of_short short with ⟨written, digits⟩
  rw [written, digits] at member
  have digit := Nat.isDigit_of_mem_toDigits (by omega) (by omega) member
  simp only [Char.isDigit, Bool.and_eq_true, decide_eq_true_eq, ge_iff_le,
    UInt32.le_iff_toNat_le] at digit
  exact digit

theorem Number.length_text_le_iff {count : Nat} (short : count < 1000) {width : Nat}
    (positive : 0 < width) :
    (text (ofNat count)).toList.length ≤ width ↔ count < 10 ^ width := by
  rcases text_of_short short with ⟨written, digits⟩
  rw [written, digits]
  exact Nat.length_toDigits_le_iff (by omega) positive

namespace Access.Decision

/-- The command of the response to a decision. -/
def command : Decision → Command
  | .granted _ direction _ _ => direction.grantCommand
  | .denied .. => .denyAccess

def shownFor (seconds : DisplaySeconds) : Decision → Number
  | .granted .. => seconds.grant
  | .denied .. => seconds.deny

variable {decision : Decision} {device : Device} {seconds : DisplaySeconds} {count : Nat}

theorem response_eq (decision : Decision) (device : Device) (seconds : DisplaySeconds) :
    decision.response device seconds =
      { device := device, command := decision.command
        fields := [(decision.shownFor seconds).text, Display.line decision.display] } := by
  cases decision <;> rfl

theorem command_eq_denyAccess_iff : decision.command = .denyAccess ↔ decision.isGrant = false := by
  cases decision with
  | granted display direction reader source =>
      cases direction <;> simp [command, isGrant, Direction.grantCommand]
  | denied reason display source => simp [command, isGrant]

/-- All codes that grant have the same length, and the one that denies is longer. -/
theorem length_code (decision : Decision) :
    decision.command.code.toList.length = if decision.isGrant then 4 else 5 := by
  cases decision with
  | granted display direction reader source =>
      change direction.grantCommand.code.toList.length = 4
      cases direction <;> decide
  | denied reason display source =>
      change Command.denyAccess.code.toList.length = 5
      decide

theorem isOrdinary_response (shown : decision.shownFor seconds = .ofNat count)
    (short : count < 1000) : (decision.response device seconds).IsOrdinary := by
  have digits := fun character => @Number.isDigit_of_mem_text count short character
  have line := Display.isLine_line decision.display
  have three : (Number.ofNat count).text.toList.length ≤ 3 :=
    (Number.length_text_le_iff short (by omega)).mpr short
  have forty := line.short
  have both {property : String → Prop} (first : property (Number.ofNat count).text)
      (second : property (Display.line decision.display)) :
      ∀ field ∈ [(Number.ofNat count).text, Display.line decision.display], property field := by
    simp [first, second]
  rw [response_eq, shown]
  refine ⟨by simp, both ?_ ?_, both ?_ line.isPrintable, both ?_ line.isPlain⟩
  · rw [← String.length_toList]
    omega
  · rw [← String.length_toList]
    omega
  · intro character member
    have digit := digits character member
    omega
  · intro delimiter among member
    have digit := digits delimiter member
    simp only [Field.delimiters, List.mem_cons, List.not_mem_nil, or_false] at among
    rcases among with rfl | rfl | rfl <;> exact absurd digit (by decide)

/-- The address, the protocol word and the delimiters of a response take eleven characters. -/
theorem length_response (decision : Decision) (device : Device) (seconds : DisplaySeconds) :
    (decision.response device seconds).text.toList.length =
      11 + decision.command.code.toList.length + (decision.shownFor seconds).text.toList.length +
        (Display.line decision.display).toList.length := by
  have mark : Message.protocolMark.length = 5 := rfl
  rw [response_eq, Message.text, String.toList_ofList]
  simp only [Message.characters, Device.digits, List.length_append, List.length_cons,
    List.length_nil, mark, List.isEmpty_cons, Bool.false_eq_true, if_false, List.flatMap_cons,
    List.flatMap_nil]
  omega

/-- Every line fits the display and is left alone when it is made fit again. So a response whose
line is shown for up to 255 seconds is read back as it is: with the seconds and the line as its
fields, and with the command that denies just for a denial. -/
theorem read_shown_response :
    (∀ text : String, Display.IsLine (Display.line text) ∧
      Display.line (Display.line text) = Display.line text) ∧
    ∀ (device : Device) (decision : Decision) (grant deny : Nat), grant ≤ 255 → deny ≤ 255 →
      let response := decision.response device ⟨.ofNat grant, .ofNat deny⟩
      Message.read response.text = .ok response ∧
        response.device = device ∧
        response.fields = [toString (if decision.isGrant then grant else deny),
          Display.line decision.display] ∧
        (response.command = .denyAccess ↔ decision.isGrant = false) := by
  refine ⟨fun text => ⟨Display.isLine_line text, (Display.isLine_line text).line_eq⟩, ?_⟩
  intro device decision grant deny grantShort denyShort response
  let shown := if decision.isGrant then grant else deny
  have short : shown < 1000 := by
    simp only [shown]
    split <;> omega
  have seconds : decision.shownFor ⟨.ofNat grant, .ofNat deny⟩ = .ofNat shown := by
    cases decision <;> rfl
  have ordinary : response.IsOrdinary := isOrdinary_response seconds short
  have parts : response = ⟨device, decision.command,
      [toString shown, Display.line decision.display]⟩ := by
    rw [← (Number.text_of_short short).1, ← seconds]
    exact response_eq decision device _
  refine ⟨Message.read_text ordinary.sound, ?_⟩
  rw [parts]
  exact ⟨rfl, rfl, command_eq_denyAccess_iff⟩

/-- A remark with delimiters and accents, which is cut behind a word. -/
theorem read_shown_response_remark :
    let decision : Decision := .denied .remoteDenied
      " N\u00e3o [hoje]: volte amanh\u00e3 + traga o crach\u00e1 novo " .online
    let response : Message :=
      ⟨⟨9, by decide⟩, .denyAccess, ["255", "Nao hoje: volte amanha  traga o cracha n"]⟩
    decision.response ⟨9, by decide⟩ ⟨.ofNat 5, .ofNat 255⟩ = response ∧
      Message.read response.text = .ok response := by
  intro decision response
  have same : decision.response ⟨9, by decide⟩ ⟨.ofNat 5, .ofNat 255⟩ = response := by
    decide +kernel
  refine ⟨same, ?_⟩
  rw [← same]
  exact (read_shown_response.2 ⟨9, by decide⟩ decision 5 255 (by decide) (by decide)).1

end Access.Decision

end Gatehouse
