import Gatehouse.Proofs.Message.Written
import Mathlib.Data.List.Basic

/-!
# The grammar of messages

Which texts are messages: an address, the protocol word, a code, and the fields behind brackets,
where the last bracket may be missing behind a last field that is not empty. Each step of reading
accepts just its own part of the grammar (`Device.read_eq_ok_iff`, `afterProtocol_eq_ok_iff`,
`readBody_eq_ok_iff`), and so does the whole (`read_exactly`).
-/

namespace Gatehouse

/-- A text names a device: no plus is in it, and between blanks stand one to three digits. -/
structure Device.IsNamedBy (device : Device) (address : List Char) : Prop where
  bare : '+' ∉ address
  short : 1 ≤ (Text.trimList address).length ∧ (Text.trimList address).length ≤ 3
  digits : ∀ character ∈ Text.trimList address, Number.isDigit character = true
  value : Number.digitsValue (Text.trimList address) = device.number

theorem Device.ofNumber_eq_ok_iff {count : Nat} {device : Device} :
    ofNumber (.ofNat count) = .ok device ↔ count = device.number := by
  constructor
  · intro named
    by_cases inRange : 1 ≤ count ∧ count ≤ 99
    · have : (⟨count, inRange⟩ : Device) = device := by
        simpa [ofNumber, ofNat?, inRange] using named
      rw [← this]
    · simp [ofNumber, ofNat?, inRange] at named
  · rintro rfl
    exact ofNumber_number device

theorem Device.read_eq_ok_iff {address : List Char} (bare : '+' ∉ address) {device : Device} :
    read (String.ofList address) = .ok device ↔ device.IsNamedBy address := by
  have shortCode : isShortCode (Text.trimList address) = true ↔
      (1 ≤ (Text.trimList address).length ∧ (Text.trimList address).length ≤ 3) ∧
        ∀ character ∈ Text.trimList address, Number.isDigit character = true := by
    simp [isShortCode, List.all_eq_true]
  simp only [read, String.toList_ofList]
  constructor
  · intro named
    split at named
    · next short =>
        rcases shortCode.mp short with ⟨size, digits⟩
        exact ⟨bare, size, digits, ofNumber_eq_ok_iff.mp named⟩
    · cases named
  · intro named
    rw [if_pos (shortCode.mpr ⟨named.short, named.digits⟩)]
    exact ofNumber_eq_ok_iff.mpr named.value

namespace Field

theorem areSound_iff {fields : List String} :
    AreSound fields ↔ checkSizes maxLength maxCount fields = .ok () ∧ checkAll fields = .ok () := by
  constructor
  · exact AreSound.checked
  · rintro ⟨sizes, plain⟩
    have within {count : Nat} (small : ¬Number.lt (.finite 256) (.ofNat count) = true) :
        count ≤ 256 := by
      have : (count : Rat) ≤ 256 := Rat.not_lt.mp (by simpa [Number.ofNat] using small)
      exact_mod_cast this
    rw [checkSizes] at sizes
    split at sizes
    · cases sizes
    · next few =>
        refine ⟨within few, fun field member => within ?_, checkFrom_eq_ok_iff.mp plain⟩
        rw [Bool.not_eq_true]
        exact checkSizesFrom_eq_ok_iff.mp sizes field member

end Field

namespace Message

def joinedFields (fields : List String) : List Char :=
  [']'].intercalate (fields.map String.toList)

/-- What may stand behind the code of a message with some fields. Behind a last field that is empty
the last bracket is needed, because it alone tells that field from none. -/
inductive IsTail : List String → List Char → Prop
  | bare : IsTail [] []
  | bracket : IsTail [] [']']
  | closed {fields : List String} (filled : fields ≠ []) :
      IsTail fields (']' :: joinedFields fields ++ [']'])
  | unclosed {fields : List String} {last : String} (ends : fields.getLast? = some last)
      (solid : last ≠ "") : IsTail fields (']' :: joinedFields fields)

/-- A trimmed text is a message of the grammar. -/
structure IsSpelledBy (message : Message) (text : List Char) : Prop where
  shape : ∃ address tail, message.device.IsNamedBy address ∧ IsTail message.fields tail ∧
    text = address ++ "+REON+".toList ++ message.command.code.toList ++ tail
  sound : Field.AreSound message.fields

theorem afterProtocol_eq_ok_iff {rest body : List Char} :
    afterProtocol rest = .ok body ↔ rest = protocolMark ++ body := by
  constructor
  · intro marked
    rw [afterProtocol] at marked
    split at marked
    · next found =>
        rcases List.isPrefixOf_iff_prefix.mp found with ⟨behind, rfl⟩
        rw [List.drop_left] at marked
        rw [Except.ok.inj marked]
    · cases marked
  · rintro rfl
    exact afterProtocol_mark body

theorem joinedFields_segments {text : List Char} :
    joinedFields ((text.splitOn ']').map String.ofList) = text := by
  simp [joinedFields, Function.comp_def]

theorem splitOn_joinedFields {fields : List String} (filled : fields ≠ [])
    (plain : ∀ field ∈ fields, ']' ∉ field.toList) :
    (joinedFields fields).splitOn ']' = fields.map String.toList := by
  refine List.splitOn_intercalate ']' ?_ (by simpa using filled)
  intro segment member
  rcases List.mem_map.mp member with ⟨field, among, rfl⟩
  exact plain field among

theorem joinedFields_concat_nil {fields : List String} (filled : fields ≠ []) :
    joinedFields (fields ++ [""]) = joinedFields fields ++ [']'] := by
  induction fields with
  | nil => exact absurd rfl filled
  | cons field rest induction =>
      cases rest with
      | nil => simp [joinedFields, List.intercalate]
      | cons next rest =>
          have later := induction (List.cons_ne_nil next rest)
          simp only [joinedFields, List.intercalate] at later ⊢
          simpa using later

theorem splitFields_of_segments {text : List Char} {fields : List String} (filled : text ≠ [])
    (split : text.splitOn ']' = fields.map String.toList) :
    splitFields text = if fields.getLast? = some "" then fields.dropLast else fields := by
  have ends : (fields.map String.toList).getLast? = some [] ↔ fields.getLast? = some "" := by
    simp
  rw [splitFields, if_neg (by simpa using filled), split]
  by_cases empty : fields.getLast? = some ""
  · simp [ends.mpr empty, empty, Function.comp_def]
  · simp [empty, Function.comp_def]

theorem isTail_splitFields (text : List Char) : IsTail (splitFields text) (']' :: text) := by
  by_cases filled : text = []
  · subst filled
    exact .bracket
  · let fields := (text.splitOn ']').map String.ofList
    have whole : joinedFields fields = text := joinedFields_segments
    have some_field : fields ≠ [] := by simp [fields]
    have split : text.splitOn ']' = fields.map String.toList := by simp [fields, Function.comp_def]
    rw [splitFields_of_segments filled split]
    split
    · next empty =>
        -- The empty segment at the end is what the last bracket leaves.
        have parts : fields.dropLast ++ [""] = fields := List.dropLast_append_getLast? "" empty
        have others : fields.dropLast ≠ [] := by
          intro none
          rw [none] at parts
          exact filled (by simp [← whole, ← parts, joinedFields])
        rw [← whole, ← parts, joinedFields_concat_nil others, List.dropLast_concat]
        exact .closed others
    · next solid =>
        rcases List.getLast?_isSome.mpr some_field |> Option.isSome_iff_exists.mp with ⟨last, ends⟩
        rw [← whole]
        exact .unclosed ends fun empty => solid (empty ▸ ends)

theorem splitFields_of_isTail {text : List Char} {fields : List String}
    (plain : ∀ field ∈ fields, ']' ∉ field.toList) (tail : IsTail fields (']' :: text)) :
    splitFields text = fields := by
  generalize shape : ']' :: text = behind at tail
  cases tail with
  | bare => cases shape
  | bracket =>
      rw [List.cons.inj shape |>.2]
      rfl
  | closed filled =>
      have whole : text = joinedFields (fields ++ [""]) := by
        rw [joinedFields_concat_nil filled]
        exact (List.cons.inj shape).2
      have split : text.splitOn ']' = (fields ++ [""]).map String.toList := by
        rw [whole]
        refine splitOn_joinedFields (by simp) fun field member => ?_
        rcases List.mem_append.mp member with among | last
        · exact plain field among
        · simp [List.mem_singleton.mp last]
      rw [splitFields_of_segments (by simp [whole, joinedFields_concat_nil filled]) split]
      simp
  | @unclosed _ last ends solid =>
      have whole : text = joinedFields fields := (List.cons.inj shape).2
      have filled : fields ≠ [] := by
        rintro rfl
        cases ends
      have split : text.splitOn ']' = fields.map String.toList :=
        whole ▸ splitOn_joinedFields filled plain
      have some_text : text ≠ [] := by
        rintro rfl
        have only : fields.map String.toList = [[]] := split.symm
        have empty : (fields.map String.toList).getLast? = some last.toList := by simp [ends]
        rw [only] at empty
        exact solid (by simpa using empty.symm)
      rw [splitFields_of_segments some_text split, if_neg]
      simpa [ends] using solid

theorem IsTail.shape {fields : List String} {tail : List Char} (tail_of : IsTail fields tail) :
    (tail = [] ∧ fields = []) ∨ ∃ inner, tail = ']' :: inner := by
  cases tail_of with
  | bare => exact .inl ⟨rfl, rfl⟩
  | bracket => exact .inr ⟨[], rfl⟩
  | closed => exact .inr ⟨_, rfl⟩
  | unclosed => exact .inr ⟨_, rfl⟩

theorem eq_of_dropWhile_ne {separator first : Char} {text rest : List Char}
    (behind : text.dropWhile (· != separator) = first :: rest) : first = separator := by
  have stops := List.head?_dropWhile_not (· != separator) text
  rw [behind] at stops
  simpa using stops

theorem readBody_eq_ok_iff {body : List Char} {command : Command} {fields : List String}
    (plain : ∀ field ∈ fields, ']' ∉ field.toList) :
    readBody body = .ok (command, fields) ↔
      ∃ tail, IsTail fields tail ∧ body = command.code.toList ++ tail := by
  constructor
  · intro done
    have known : Command.ofCode? (String.ofList (body.takeWhile (· != ']'))) = some command ∧
        fields = if (body.dropWhile (· != ']')).isEmpty then []
          else splitFields ((body.dropWhile (· != ']')).drop 1) := by
      simp only [readBody] at done
      split at done
      · cases done
      · split at done
        · cases done
        · next found =>
            cases done
            exact ⟨found, rfl⟩
    rcases known with ⟨found, rfl⟩
    have code : command.code.toList = body.takeWhile (· != ']') := by
      rw [Command.ofCode?_eq_some_iff.mp found, String.toList_ofList]
    refine ⟨body.dropWhile (· != ']'), ?_, by rw [code, List.takeWhile_append_dropWhile]⟩
    cases behind : body.dropWhile (· != ']') with
    | nil => exact .bare
    | cons first inner =>
        rw [eq_of_dropWhile_ne behind]
        simpa using isTail_splitFields inner
  · rintro ⟨tail, tail_of, rfl⟩
    rcases tail_of.shape with ⟨rfl, rfl⟩ | ⟨inner, rfl⟩
    · exact readBody_code command [] (.inl rfl)
    · rw [readBody_code command _ (.inr ⟨inner, rfl⟩)]
      simp [splitFields_of_isTail plain tail_of]

theorem readParts_eq_ok_iff {address rest : List Char} (bare : '+' ∉ address)
    {message : Message} :
    readParts address rest = .ok message ↔
      message.device.IsNamedBy address ∧ Field.AreSound message.fields ∧
        ∃ tail, IsTail message.fields tail ∧
          rest = protocolMark ++ (message.command.code.toList ++ tail) := by
  have bracketless {texts : List String} (sound : Field.AreSound texts) :
      ∀ field ∈ texts, ']' ∉ field.toList :=
    fun field member => sound.plain field member ']' (by simp [Field.delimiters])
  simp only [readParts, bind_eq_ok_iff, Device.read_eq_ok_iff bare, afterProtocol_eq_ok_iff]
  constructor
  · rintro ⟨named, address, body, rfl, ⟨code, texts⟩, parts, ⟨⟩, sizes, ⟨⟩, checked, done⟩
    cases done
    have sound : Field.AreSound texts := Field.areSound_iff.mpr ⟨sizes, checked⟩
    rcases (readBody_eq_ok_iff (bracketless sound)).mp parts with ⟨tail, tail_of, rfl⟩
    exact ⟨address, sound, tail, tail_of, rfl⟩
  · rintro ⟨named, sound, tail, tail_of, rfl⟩
    rcases Field.areSound_iff.mp sound with ⟨sizes, checked⟩
    exact ⟨message.device, named, _, rfl, (message.command, message.fields),
      (readBody_eq_ok_iff (bracketless sound)).mpr ⟨tail, tail_of, rfl⟩, (), sizes, (), checked,
      rfl⟩

/-- The address and the rest of a text are what stands before and behind its first plus. -/
theorem readTrimmed_eq_ok_iff {text : List Char} {message : Message} :
    readTrimmed text = .ok message ↔
      ∃ address rest, text = address ++ '+' :: rest ∧ '+' ∉ address ∧
        readParts address rest = .ok message := by
  rw [readTrimmed_eq]
  constructor
  · intro done
    split at done
    · cases done
    · split at done
      · cases done
      · split at done
        · cases done
        · cases behind : text.dropWhile (· != '+') with
          | nil => simp_all
          | cons first rest =>
              rw [behind] at done
              refine ⟨text.takeWhile (· != '+'), rest, ?_, ?_, done⟩
              · have plus := eq_of_dropWhile_ne behind
                subst plus
                rw [← behind, List.takeWhile_append_dropWhile]
              · intro member
                simpa using List.mem_takeWhile_imp member
  · rintro ⟨address, rest, rfl, bare, done⟩
    rcases takeWhile_before bare rest with ⟨taken, dropped⟩
    have named : address ≠ [] := by
      rintro rfl
      have digits := ((readParts_eq_ok_iff bare).mp done).1.short.1
      exact absurd digits (by decide)
    simp [taken, dropped, named, done]

theorem readTrimmed_eq_ok_iff_isSpelledBy {text : List Char} {message : Message} :
    readTrimmed text = .ok message ↔ message.IsSpelledBy text := by
  rw [readTrimmed_eq_ok_iff]
  constructor
  · rintro ⟨address, rest, rfl, bare, done⟩
    rcases (readParts_eq_ok_iff bare).mp done with ⟨named, sound, tail, tail_of, rfl⟩
    exact ⟨⟨address, tail, named, tail_of, by simp [protocolMark]⟩, sound⟩
  · rintro ⟨⟨address, tail, named, tail_of, rfl⟩, sound⟩
    refine ⟨address, protocolMark ++ (message.command.code.toList ++ tail), by simp [protocolMark],
      named.bare, (readParts_eq_ok_iff named.bare).mpr ⟨named, sound, tail, tail_of, rfl⟩⟩

/-- A text is read as just that message which it spells in the grammar, and a text that spells none
is refused. -/
theorem read_exactly (text : String) :
    (∀ message, read text = .ok message ↔ message.IsSpelledBy (Text.trimList text.toList)) ∧
      ((∃ fault, read text = .error fault) ↔
        ∀ message : Message, ¬message.IsSpelledBy (Text.trimList text.toList)) := by
  have exactly (message : Message) :
      read text = .ok message ↔ message.IsSpelledBy (Text.trimList text.toList) :=
    readTrimmed_eq_ok_iff_isSpelledBy
  refine ⟨exactly, ?_⟩
  simp only [← exactly]
  cases read text <;> simp

-- One bracket closes nothing, two enclose an empty field.
example : (read "1+REON+EC]").toOption = some ⟨⟨1, by decide⟩, .sendConfig, []⟩ := by
  decide +kernel
example : (read "1+REON+EC]]").toOption = some ⟨⟨1, by decide⟩, .sendConfig, [""]⟩ := by
  decide +kernel

end Message

end Gatehouse
