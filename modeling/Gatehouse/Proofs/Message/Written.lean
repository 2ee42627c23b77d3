import Gatehouse.Message.Text
import Gatehouse.Proofs.Text.Trimmed
import Mathlib.Data.List.Basic
import Mathlib.Data.List.TakeWhile

/-!
# Messages that are read back

A message whose fields keep the limits and hold no delimiter is read back from its written form:
`read_text`. The address and the code stand in front of the first bracket, and there is one bracket
behind each field, so the last bracket only closes the last field.

Reading looks at the shape of a text first, and at its parts only when the shape is right
(`readTrimmed_eq`). Whatever it complains about, it is never the size of a frame (`isModest_read`).
-/

namespace Gatehouse

theorem bind_eq_ok_iff {α β : Type} {first : Except Fault α} {next : α → Except Fault β}
    {value : β} :
    first >>= next = .ok value ↔ ∃ middle, first = .ok middle ∧ next middle = .ok value := by
  cases first <;> simp [bind, Except.bind]

def IsModest {α : Type} (result : Except Fault α) : Prop :=
  ∀ size limit, result ≠ .error (.frameTooLarge size limit)

theorem isModest_ok {α : Type} (value : α) : IsModest (.ok value : Except Fault α) := by
  simp [IsModest]

theorem isModest_bind {α β : Type} {first : Except Fault α} {next : α → Except Fault β}
    (modest : IsModest first) (later : ∀ value, IsModest (next value)) :
    IsModest (first >>= next) := by
  cases first with
  | ok value => exact later value
  | error fault =>
      intro size limit equal
      exact modest size limit (by simpa [bind, Except.bind] using equal)

theorem Device.isModest_read (text : String) : IsModest (Device.read text) := by
  simp only [Device.read, Device.ofNumber]
  split
  · split
    · split <;> simp [IsModest]
    · simp [IsModest]
  · simp [IsModest]

namespace Field

theorem isModest_check (index : Number) (field : String) : IsModest (check index field) := by
  unfold check
  split <;> simp [IsModest]

theorem isModest_checkFrom (index : Nat) (fields : List String) :
    IsModest (checkFrom index fields) := by
  fun_induction checkFrom index fields with
  | case1 => exact isModest_ok ()
  | case2 index field rest passed induction => exact induction
  | case3 index field rest fault refused =>
      intro size limit equal
      exact isModest_check _ _ size limit (refused.trans (by simpa using equal))

theorem isModest_checkSizes (maxLength maxCount : Number) (fields : List String) :
    IsModest (checkSizes maxLength maxCount fields) := by
  have sizes : ∀ index, IsModest (checkSizesFrom maxLength index fields) := by
    intro index
    fun_induction checkSizesFrom maxLength index fields with
    | case1 => exact isModest_ok ()
    | case2 => simp [IsModest]
    | case3 index field rest short induction => exact induction
  unfold checkSizes
  split
  · simp [IsModest]
  · exact sizes 0

end Field

namespace Message

def readParts (address rest : List Char) : Except Fault Message := do
  let device ← Device.read (String.ofList address)
  let body ← afterProtocol rest
  let (command, fields) ← readBody body
  Field.checkSizes Field.maxLength Field.maxCount fields
  Field.checkAll fields
  return { device := device, command := command, fields := fields }

theorem readTrimmed_eq (trimmed : List Char) :
    readTrimmed trimmed =
      if trimmed.isEmpty then .error (.message .empty)
      else if (trimmed.dropWhile (· != '+')).isEmpty then
        .error (.message (.noProtocol (String.ofList trimmed)))
      else if (trimmed.takeWhile (· != '+')).isEmpty then .error (.message .noDevice)
      else readParts (trimmed.takeWhile (· != '+')) ((trimmed.dropWhile (· != '+')).drop 1) := by
  by_cases empty : trimmed.isEmpty
  · simp only [readTrimmed, empty, if_true]
    rfl
  · by_cases bare : (trimmed.dropWhile (· != '+')).isEmpty
    · simp only [readTrimmed, empty, bare, if_true]
      rfl
    · by_cases noAddress : (trimmed.takeWhile (· != '+')).isEmpty
      · simp only [readTrimmed, empty, bare, noAddress, if_true]
        rfl
      · simp only [readTrimmed, empty, bare, noAddress]
        rfl

theorem isModest_afterProtocol (rest : List Char) : IsModest (afterProtocol rest) := by
  unfold afterProtocol
  split <;> simp [IsModest]

theorem isModest_readBody (body : List Char) : IsModest (readBody body) := by
  simp only [readBody]
  split
  · simp [IsModest]
  · split <;> simp [IsModest]

theorem isModest_readParts (address rest : List Char) : IsModest (readParts address rest) := by
  refine isModest_bind (Device.isModest_read _) fun device => ?_
  refine isModest_bind (isModest_afterProtocol _) fun body => ?_
  refine isModest_bind (isModest_readBody _) fun (command, fields) => ?_
  refine isModest_bind (Field.isModest_checkSizes _ _ _) fun _ => ?_
  refine isModest_bind (Field.isModest_checkFrom _ _) fun _ => ?_
  exact isModest_ok _

theorem isModest_read (text : String) : IsModest (read text) := by
  rw [read, readTrimmed_eq]
  split
  · simp [IsModest]
  · split
    · simp [IsModest]
    · split
      · simp [IsModest]
      · exact isModest_readParts _ _

end Message

namespace Device

theorem digits_spec (device : Device) :
    '+' ∉ device.digits ∧ isShortCode device.digits = true ∧
      (∀ digit ∈ device.digits, Text.isBlank digit = false) ∧
      Number.digitsValue device.digits = device.number := by
  have every : ∀ number : Fin 100,
      let digits := [Nat.digitChar (number.val / 10), Nat.digitChar (number.val % 10)]
      '+' ∉ digits ∧ isShortCode digits = true ∧
        (digits.all fun digit => !Text.isBlank digit) = true ∧
        Number.digitsValue digits = number.val := by
    decide +kernel
  rcases every ⟨device.number, Nat.lt_succ_of_le device.inRange.2⟩ with ⟨bare, short, solid, value⟩
  refine ⟨bare, short, fun digit member => ?_, value⟩
  simpa using List.all_eq_true.mp solid digit member

theorem read_text (device : Device) : read device.text = .ok device := by
  rcases device.digits_spec with ⟨_, short, solid, value⟩
  have trimmed : Text.trimList device.digits = device.digits :=
    Text.trimList_of_solid (fun first found => solid first (List.mem_of_head? found))
      fun last found => solid last (List.mem_of_getLast? found)
  simp only [read, text, String.toList_ofList, trimmed, short, if_true, value]
  exact ofNumber_number device

end Device

theorem Command.code_spec (command : Command) :
    command.code.toList ≠ [] ∧ ']' ∉ command.code.toList ∧
      ∀ last ∈ command.code.toList.getLast?, Text.isBlank last = false := by
  have solid : command.code.toList ≠ [] ∧ ']' ∉ command.code.toList ∧
      (command.code.toList.getLast?.all fun last => !Text.isBlank last) = true := by
    cases command <;> decide +kernel
  refine ⟨solid.1, solid.2.1, fun last found => ?_⟩
  have back := solid.2.2
  rw [Option.mem_def.mp found] at back
  simpa using back

namespace Field

/-- Fields that a message may carry: few and short enough, and without delimiters. -/
structure AreSound (fields : List String) : Prop where
  few : fields.length ≤ 256
  short : ∀ field ∈ fields, field.utf8ByteSize ≤ 256
  plain : ∀ field ∈ fields, IsPlain field

theorem AreSound.checked {fields : List String} (sound : AreSound fields) :
    checkSizes maxLength maxCount fields = .ok () ∧ checkAll fields = .ok () := by
  have within {count : Nat} (small : count ≤ 256) :
      Number.lt (.finite 256) (.ofNat count) = false := by
    have : ¬(256 : Rat) < count := Rat.not_lt.mpr (by exact_mod_cast small)
    simpa [Number.ofNat] using this
  refine ⟨?_, checkFrom_eq_ok_iff.mpr sound.plain⟩
  rw [checkSizes, maxCount, within sound.few, if_neg Bool.false_ne_true]
  exact checkSizesFrom_eq_ok_iff.mpr fun field member => within (sound.short field member)

end Field

namespace Message

def closedFields (fields : List String) : List Char :=
  fields.flatMap fun field => field.toList ++ [']']

theorem opened_eq_closed (fields : List String) :
    fields.flatMap (fun field => ']' :: field.toList) ++ [']'] = ']' :: closedFields fields := by
  induction fields with
  | nil => rfl
  | cons field rest induction => simp [closedFields, induction]

theorem splitOn_closedFields {fields : List String}
    (plain : ∀ field ∈ fields, Field.IsPlain field) :
    (closedFields fields).splitOn ']' = fields.map String.toList ++ [[]] := by
  induction fields with
  | nil => rfl
  | cons field rest induction =>
      have bare : ']' ∉ field.toList :=
        plain field List.mem_cons_self ']' (by simp [Field.delimiters])
      have later := induction fun other member => plain other (List.mem_cons_of_mem field member)
      rw [closedFields, List.flatMap_cons, List.append_assoc, List.singleton_append,
        List.splitOn_append_cons_self_of_not_mem bare]
      simpa [closedFields] using later

theorem splitFields_closedFields {fields : List String} (some_field : fields ≠ [])
    (plain : ∀ field ∈ fields, Field.IsPlain field) :
    splitFields (closedFields fields) = fields := by
  have filled : (closedFields fields).isEmpty = false := by
    cases fields with
    | nil => exact absurd rfl some_field
    | cons field rest => simp [closedFields]
  simp [splitFields, filled, splitOn_closedFields plain]

theorem all_ne_of_not_mem {separator : Char} {front : List Char} (bare : separator ∉ front) :
    ∀ character ∈ front, (character != separator) = true := by
  intro character member
  simpa using fun same : character = separator => bare (same ▸ member)

theorem takeWhile_before {separator : Char} {front : List Char} (bare : separator ∉ front)
    (rest : List Char) :
    (front ++ separator :: rest).takeWhile (· != separator) = front ∧
      (front ++ separator :: rest).dropWhile (· != separator) = separator :: rest := by
  have passed := all_ne_of_not_mem bare
  constructor
  · rw [List.takeWhile_append_of_pos passed]
    simp
  · rw [List.dropWhile_append_of_pos passed]
    simp

theorem readBody_code (command : Command) (tail : List Char)
    (behind : tail = [] ∨ ∃ inner, tail = ']' :: inner) :
    readBody (command.code.toList ++ tail) =
      .ok (command, if tail.isEmpty then [] else splitFields (tail.drop 1)) := by
  rcases command.code_spec with ⟨filled, bare, _⟩
  have parts : (command.code.toList ++ tail).takeWhile (· != ']') = command.code.toList ∧
      (command.code.toList ++ tail).dropWhile (· != ']') = tail := by
    rcases behind with rfl | ⟨inner, rfl⟩
    · have passed := all_ne_of_not_mem bare
      rw [List.append_nil]
      exact ⟨List.takeWhile_eq_self_iff.mpr passed, List.dropWhile_eq_nil_iff.mpr passed⟩
    · exact takeWhile_before bare inner
  simp only [readBody, parts.1, parts.2]
  simp [filled, Command.ofCode?_code]

theorem readBody_written (command : Command) {fields : List String}
    (plain : ∀ field ∈ fields, Field.IsPlain field) :
    readBody (command.code.toList ++ if fields.isEmpty then [] else ']' :: closedFields fields) =
      .ok (command, fields) := by
  cases fields with
  | nil => exact readBody_code command [] (.inl rfl)
  | cons field rest =>
      have split := splitFields_closedFields (List.cons_ne_nil field rest) plain
      simp [readBody_code, split]

theorem characters_eq (message : Message) :
    message.characters = message.device.digits ++ '+' :: (protocolMark ++
      (message.command.code.toList ++
        if message.fields.isEmpty then [] else ']' :: closedFields message.fields)) := by
  simp [characters, opened_eq_closed]

/-- A written message starts with a digit, and ends with the code or a bracket. -/
theorem trimList_characters (message : Message) :
    Text.trimList message.characters = message.characters := by
  rcases message.command.code_spec with ⟨filled, _, back⟩
  -- An empty last field still has its bracket, so only a message without fields ends with the code.
  apply Text.trimList_of_solid
  · intro first found
    have leading : Nat.digitChar (message.device.number / 10) = first := by
      simpa [characters, Device.digits] using found
    exact message.device.digits_spec.2.2.1 first (by simp [Device.digits, leading])
  · intro last found
    cases shape : message.fields with
    | nil =>
        have bare : message.characters =
            (message.device.digits ++ '+' :: protocolMark) ++ message.command.code.toList := by
          simp [characters, shape]
        rw [bare, List.getLast?_append_of_ne_nil _ filled] at found
        exact back last found
    | cons field rest =>
        have closing : message.characters.getLast? = some ']' := by
          rw [characters, shape, if_neg (by simp), ← List.append_assoc, List.getLast?_concat]
        rw [closing, Option.mem_some_iff] at found
        exact found ▸ rfl

theorem afterProtocol_mark (rest : List Char) :
    afterProtocol (protocolMark ++ rest) = .ok rest := by
  simp [afterProtocol]

theorem read_text {message : Message} (sound : Field.AreSound message.fields) :
    read message.text = .ok message := by
  rcases message.device.digits_spec with ⟨bare, _, _, _⟩
  rcases takeWhile_before bare (protocolMark ++ (message.command.code.toList ++
    if message.fields.isEmpty then [] else ']' :: closedFields message.fields)) with
      ⟨address, behind⟩
  have device : Device.read (String.ofList message.device.digits) = .ok message.device :=
    message.device.read_text
  have body := readBody_written message.command sound.plain
  rw [read, text, String.toList_ofList, trimList_characters, characters_eq, readTrimmed_eq, address,
    behind]
  rw [if_neg (by simp), if_neg (by simp), if_neg (by simp [Device.digits])]
  simp only [readParts, List.drop_one, List.tail_cons, device, afterProtocol_mark, body,
    sound.checked, bind, Except.bind]
  rfl

end Message

end Gatehouse
