import Gatehouse.Message.Draft
import Gatehouse.Number.Text
import Gatehouse.Proofs.Message.Grammar

/-!
# Drafts that are written and read

A draft keeps the fields in front of the first one that is refused, of each addition anew
(`takeAll_eq`). All of them are without delimiters, and taking the message out looks at their
number and sizes, so nothing is left for reading to refuse (`read_text_of_build`). Together with the
grammar of messages: what is written is read as what it was written from, and writing what was read
gives a text that is read and written as itself (`written_then_read`).
-/

namespace Gatehouse.Message

instance (field : String) : Decidable (Field.IsPlain field) :=
  inferInstanceAs (Decidable (∀ delimiter ∈ Field.delimiters, delimiter ∉ field.toList))

inductive Entry where
  | text (text : String)
  | number (number : Number)
  deriving DecidableEq

def Entry.written : Entry → String
  | .text field => field
  | .number value => value.text

/-- What is added to a draft at a time: one field, or several up to the first that is refused. -/
inductive Addition where
  | one (entry : Entry)
  | several (entries : List Entry)
  deriving DecidableEq

/-- The fields of an addition that are not refused. -/
def Addition.kept : Addition → List String
  | .one entry => [entry.written].takeWhile fun field => Field.IsPlain field
  | .several entries => (entries.map Entry.written).takeWhile fun field => Field.IsPlain field

namespace Draft

/-- The draft after an addition, and what was refused. -/
def take (draft : Draft) : Addition → Draft × Option Fault
  | .one entry =>
      match draft.add entry.written with
      | .ok longer => (longer, none)
      | .error fault => (draft, some fault)
  | .several entries => draft.addAll (entries.map Entry.written)

/-- The draft after additions of which some may have been refused. -/
def takeAll (draft : Draft) : List Addition → Draft
  | [] => draft
  | addition :: rest => (draft.take addition).1.takeAll rest

variable (draft : Draft)

theorem add_of_plain {field : String} (plain : Field.IsPlain field) :
    draft.add field = .ok { draft with fields := draft.fields ++ [field] } := by
  rw [add, Field.check_eq_ok_iff.mpr plain]

theorem add_of_not_plain {field : String} (reserved : ¬Field.IsPlain field) :
    ∃ fault, draft.add field = .error fault := by
  rw [add]
  cases checked : Field.check (.ofNat draft.fields.length) field with
  | ok => exact absurd (Field.check_eq_ok_iff.mp checked) reserved
  | error fault => exact ⟨fault, rfl⟩

theorem addAll_eq (fields : List String) :
    (draft.addAll fields).1 = { draft with
      fields := draft.fields ++ fields.takeWhile fun field => Field.IsPlain field } := by
  induction fields generalizing draft with
  | nil => simp [addAll]
  | cons field rest induction =>
      by_cases plain : Field.IsPlain field
      · simp only [addAll, draft.add_of_plain plain, induction]
        simp [plain]
      · rcases draft.add_of_not_plain plain with ⟨fault, refused⟩
        simp [addAll, refused, plain]

theorem take_eq (addition : Addition) :
    (draft.take addition).1 = { draft with fields := draft.fields ++ addition.kept } := by
  cases addition with
  | one entry =>
      by_cases plain : Field.IsPlain entry.written
      · simp [take, draft.add_of_plain plain, Addition.kept, plain]
      · rcases draft.add_of_not_plain plain with ⟨fault, refused⟩
        simp [take, refused, Addition.kept, plain]
  | several entries => exact draft.addAll_eq _

/-- What is refused leaves no trace: the fields are those kept of each addition, in order. -/
theorem takeAll_eq (additions : List Addition) :
    draft.takeAll additions = { draft with
      fields := draft.fields ++ additions.flatMap Addition.kept } := by
  induction additions generalizing draft with
  | nil => simp [takeAll]
  | cons addition rest induction => simp [takeAll, induction, take_eq]

theorem build_eq_ok_iff {message : Message} :
    draft.build = .ok message ↔
      Field.checkSizes Field.maxLength Field.maxCount draft.fields = .ok () ∧
        ⟨draft.device, draft.command, draft.fields⟩ = message := by
  rw [build]
  cases Field.checkSizes Field.maxLength Field.maxCount draft.fields <;> simp

end Draft

theorem Addition.isPlain_of_mem_kept {addition : Addition} {field : String}
    (member : field ∈ addition.kept) : Field.IsPlain field := by
  cases addition <;> simpa using List.mem_takeWhile_imp member

variable {device : Device} {command : Command} {additions : List Addition} {message : Message}

/-- The message taken out of a draft holds what was kept, and its fields are sound. -/
theorem sound_of_build
    (built : ((Draft.empty device command).takeAll additions).build = .ok message) :
    message = ⟨device, command, additions.flatMap Addition.kept⟩ ∧
      Field.AreSound message.fields := by
  rw [Draft.takeAll_eq, Draft.build_eq_ok_iff] at built
  rcases built with ⟨sizes, rfl⟩
  have plain : ∀ field ∈ additions.flatMap Addition.kept, Field.IsPlain field := by
    intro field member
    rcases List.mem_flatMap.mp member with ⟨addition, -, kept⟩
    exact Addition.isPlain_of_mem_kept kept
  exact ⟨rfl, Field.areSound_iff.mpr ⟨sizes, Field.checkFrom_eq_ok_iff.mpr plain⟩⟩

theorem read_text_of_build
    (built : ((Draft.empty device command).takeAll additions).build = .ok message) :
    read message.text = .ok message :=
  read_text (sound_of_build built).2

/-- A text that is read holds sound fields, so it can be written and read again. -/
theorem read_text_of_read {text : String} (done : read text = .ok message) :
    read message.text = .ok message := by
  apply read_text
  exact (((read_exactly text).1 message).mp done).sound

/-- Whatever is added to a draft and whatever of it is refused, a message that is taken out is read
back from its text. And the text of a message that any text is read as is read as that message
again, and written as it is. -/
theorem written_then_read :
    (∀ (device : Device) (command : Command) (additions : List Addition) (message : Message),
      ((Draft.empty device command).takeAll additions).build = .ok message →
        message = ⟨device, command, additions.flatMap Addition.kept⟩ ∧
          read message.text = .ok message) ∧
      ∀ (text : String) (message : Message), read text = .ok message →
        read message.text = .ok message ∧
          (read message.text).map Message.text = .ok message.text := by
  constructor
  · intro device command additions message built
    exact ⟨(sound_of_build built).1, read_text_of_build built⟩
  · intro text message done
    have again := read_text_of_read done
    refine ⟨again, ?_⟩
    rw [again]
    rfl

/-- Blanks, a number that is written with a plus, a bracket, and an empty field at the end. -/
theorem written_then_read_partly_refused :
    let additions : List Addition :=
      [.several [.text " a ", .number (.finite 1000000000000000000000), .text "c"],
        .one (.text "x]"), .one (.number (.finite 5)), .one (.text "")]
    let message : Message := ⟨⟨7, by decide⟩, .sendUsers, [" a ", "5", ""]⟩
    ((Draft.empty message.device message.command).takeAll additions).build = .ok message ∧
      read message.text = .ok message ∧
      read "\t7 +REON+EU] a ]5]]" = .ok message ∧
      (read message.text).map Message.text = .ok message.text := by
  intro additions message
  have built : ((Draft.empty message.device message.command).takeAll additions).build =
      .ok message := by
    decide +kernel
  have done : read "\t7 +REON+EU] a ]5]]" = .ok message := by decide +kernel
  exact ⟨built, (written_then_read.1 _ _ _ _ built).2, done, (written_then_read.2 _ _ done).2⟩

end Gatehouse.Message
