import Gatehouse.Proofs.Access.Responses
import Gatehouse.Proofs.Message.Written
import Gatehouse.Proofs.Number.Whole
import Gatehouse.Settings

/-!
# Settings within their bounds

Whatever text a setting has, what is read for a count is a whole number that is not negative, or too
large for any bound (`isCount_count`). Brought between two bounds it is a count between them
(`within_spec`); so are the frame size and the seconds of every environment
(`Protocol.bounds_ofEnvironment`).

The smallest frame size that can be set is that of the greatest grant: all three digits of
seconds, a full line and the widest check. The code of a denial has one character more. So each
response fits the frames that are set, but for the greatest denial where the frames are the
smallest (`encode_response_iff`).
-/

namespace Gatehouse

open Access Gatehouse.Frame

namespace Number

inductive IsCount : Number → Prop
  | count (value : Nat) : IsCount (.ofNat value)
  | unbounded : IsCount (.infinite false)

theorem ofNat_inj {left right : Nat} : ofNat left = ofNat right ↔ left = right := by
  simp [ofNat]

theorem lt_ofNat (left right : Nat) : lt (.ofNat left) (.ofNat right) = decide (left < right) := by
  simp [ofNat]

theorem le_ofNat (left right : Nat) : le (.ofNat left) (.ofNat right) = decide (left ≤ right) := by
  change (!lt (.ofNat right) (.ofNat left)) = _
  simp only [lt_ofNat, ← decide_not, not_lt]

theorem max_ofNat (left right : Nat) :
    max (.ofNat left) (.ofNat right) = .ofNat (left ⊔ right) := by
  change (if lt (.ofNat left) (.ofNat right) then Number.ofNat right else .ofNat left) = _
  rw [lt_ofNat]
  by_cases less : left < right
  · simp [less, sup_eq_right.mpr less.le]
  · simp [less, sup_eq_left.mpr (not_lt.mp less)]

theorem min_ofNat (left right : Nat) :
    min (.ofNat left) (.ofNat right) = .ofNat (left ⊓ right) := by
  change (if lt (.ofNat right) (.ofNat left) then Number.ofNat right else .ofNat left) = _
  rw [lt_ofNat]
  by_cases less : right < left
  · simp [less, inf_eq_right.mpr less.le]
  · simp [less, inf_eq_left.mpr (not_lt.mp less)]

theorem IsWhole.isCount {number : Number} (whole : IsWhole number)
    (nonnegative : le (.finite 0) number = true) : IsCount number := by
  cases whole with
  | whole value =>
      have positive : 0 ≤ value := by
        have : ¬(value : Rat) < 0 := by simpa [le, ofInt] using nonnegative
        exact_mod_cast not_lt.mp this
      lift value to Nat using positive
      exact .count value
  | infinite negative =>
      cases negative with
      | false => exact .unbounded
      | true => cases nonnegative

theorem IsCount.max {number : Number} (counted : IsCount number) (low : Nat) :
    Number.max (.ofNat low) number = .infinite false ∨
      ∃ count, low ≤ count ∧ Number.max (.ofNat low) number = .ofNat count := by
  cases counted with
  | count value => exact .inr ⟨low ⊔ value, le_sup_left, max_ofNat low value⟩
  | unbounded => exact .inl rfl

end Number

namespace Settings

theorem isCount_count {fallback : Number} (usual : fallback.IsCount) (value : Option String) :
    (count fallback value).IsCount := by
  unfold count
  dsimp only
  split
  · next nonnegative =>
      rcases Number.isWhole_leadingInteger (value.getD "") with nothing | whole
      · rw [nothing] at nonnegative
        cases nonnegative
      · exact whole.isCount nonnegative
  · exact usual

theorem within_spec {low high : Nat} (ordered : low ≤ high) {fallback : Number}
    (usual : fallback.IsCount) (value : Option String) :
    ∃ count, (low ≤ count ∧ count ≤ high) ∧
      within (.ofNat low) (.ofNat high) fallback value = .ofNat count := by
  rw [within, atLeast]
  rcases (isCount_count usual value).max low with unbounded | ⟨count, above, raised⟩
  · exact ⟨high, ⟨ordered, le_rfl⟩, by rw [unbounded]; rfl⟩
  · refine ⟨high ⊓ count, ⟨le_inf ordered above, inf_le_left⟩, ?_⟩
    rw [raised, Number.min_ofNat]

structure Protocol.IsBounded (protocol : Protocol) : Prop where
  size : ∃ size, (64 ≤ size ∧ size ≤ 1048576) ∧ protocol.codec.maxSize = .ofNat size
  grant : ∃ count, count ≤ 255 ∧ protocol.seconds.grant = .ofNat count
  deny : ∃ count, count ≤ 255 ∧ protocol.seconds.deny = .ofNat count

theorem Protocol.bounds_ofEnvironment {named : Environment} {protocol : Protocol}
    (loaded : Protocol.ofEnvironment named = .ok protocol) : protocol.IsBounded := by
  have seconds (usual : Nat) (value : Option String) : ∃ count, count ≤ 255 ∧
      within (.finite 0) maxSeconds (.ofNat usual) value = .ofNat count := by
    rcases within_spec (Nat.zero_le 255) (.count usual) value with ⟨count, ⟨-, most⟩, same⟩
    exact ⟨count, most, same⟩
  unfold Protocol.ofEnvironment at loaded
  rcases bind_eq_ok_iff.mp loaded with ⟨check, -, made⟩
  cases made
  exact ⟨within_spec (by omega) (.count 65536) _, seconds 5 _, seconds 0 _⟩

theorem eq_of_loaded {named : Environment} {settings : Settings}
    (loaded : Settings.ofEnvironment named = .ok settings) :
    ∃ protocol, Protocol.ofEnvironment named = .ok protocol ∧
      settings = {
        verbosity := verbosityOf named
        server := .ofEnvironment named
        protocol := protocol
        turnstiles := .ofEnvironment named
        validation := .ofEnvironment named
        store := .ofEnvironment named
        database := .ofEnvironment named
        web := .ofEnvironment named } := by
  unfold Settings.ofEnvironment at loaded
  dsimp only at loaded
  split at loaded
  · cases loaded
  · rcases bind_eq_ok_iff.mp loaded with ⟨protocol, found, made⟩
    cases made
    exact ⟨protocol, found, rfl⟩

theorem protocol_ofEnvironment {named : Environment} {settings : Settings}
    (loaded : Settings.ofEnvironment named = .ok settings) :
    Protocol.ofEnvironment named = .ok settings.protocol := by
  rcases eq_of_loaded loaded with ⟨protocol, found, rfl⟩
  exact found

/-- A denial of the greatest size, on a link with the smallest frames that can be set. -/
structure Protocol.LacksRoom (protocol : Protocol) (decision : Decision) : Prop where
  smallest : protocol.codec.maxSize = .ofNat 64
  widest : protocol.codec.check = .crc16
  denied : decision.isGrant = false
  long : Number.le (.ofNat 100) protocol.seconds.deny = true
  full : (Display.line decision.display).toList.length = 40

variable {protocol : Protocol}

theorem Protocol.IsBounded.shownFor (bounded : protocol.IsBounded) (decision : Decision) :
    ∃ count, count ≤ 255 ∧ decision.shownFor protocol.seconds = .ofNat count := by
  cases decision with
  | granted => exact bounded.grant
  | denied => exact bounded.deny

theorem width_eq_four_iff {check : Check} : check.width = 4 ↔ check = .crc16 := by
  cases check <;> decide

theorem length_text_eq_three_iff {count : Nat} (short : count < 1000) :
    (Number.text (.ofNat count)).toList.length = 3 ↔ 100 ≤ count := by
  have three : (Number.text (.ofNat count)).toList.length ≤ 3 :=
    (Number.length_text_le_iff short (by omega)).mpr short
  have two : (Number.text (.ofNat count)).toList.length ≤ 2 ↔ count < 100 :=
    Number.length_text_le_iff short (by omega)
  omega

/-- There is no room just where each of five lengths is what it can be at the worst. -/
theorem Protocol.lacksRoom_iff {decision : Decision} {size count : Nat}
    (limit : protocol.codec.maxSize = .ofNat size)
    (shown : decision.shownFor protocol.seconds = .ofNat count) (short : count < 1000) :
    protocol.LacksRoom decision ↔
      size = 64 ∧ protocol.codec.check.width = 4 ∧ decision.command.code.toList.length = 5 ∧
        (Number.text (.ofNat count)).toList.length = 3 ∧
          (Display.line decision.display).toList.length = 40 := by
  have denies : decision.command.code.toList.length = 5 ↔ decision.isGrant = false := by
    rw [decision.length_code]
    cases decision.isGrant <;> decide
  have waits : decision.isGrant = false → (Number.le (.ofNat 100) protocol.seconds.deny = true ↔
      (Number.text (.ofNat count)).toList.length = 3) := by
    intro denied
    have deny : protocol.seconds.deny = .ofNat count := by
      cases decision with
      | granted => cases denied
      | denied => exact shown
    rw [deny, Number.le_ofNat, decide_eq_true_eq, length_text_eq_three_iff short]
  constructor
  · rintro ⟨smallest, widest, denied, long, full⟩
    rw [limit, Number.ofNat_inj] at smallest
    exact ⟨smallest, width_eq_four_iff.mpr widest, denies.mpr denied, (waits denied).mp long, full⟩
  · rintro ⟨smallest, wide, code, digits, full⟩
    have denied := denies.mp code
    rw [← Number.ofNat_inj, ← limit] at smallest
    exact ⟨smallest, width_eq_four_iff.mp wide, denied, (waits denied).mpr digits, full⟩

/-- The lengths of the parts of a response add up to more than the smallest size only where each is
the greatest, and then to 65. -/
theorem Protocol.IsBounded.size_response (bounded : protocol.IsBounded) (decision : Decision)
    (device : Device) :
    let size := (decision.response device protocol.seconds).text.toList.length +
      protocol.codec.check.width + 2
    (protocol.codec.exceeds size = true ↔ protocol.LacksRoom decision) ∧
      (protocol.LacksRoom decision → size = 65) := by
  rcases bounded.shownFor decision with ⟨count, most, shown⟩
  rcases bounded.size with ⟨limit, ⟨least, -⟩, same⟩
  have digits : (Number.text (.ofNat count)).toList.length ≤ 3 :=
    (Number.length_text_le_iff (by omega) (by omega)).mpr (show count < 10 ^ 3 by omega)
  have code : decision.command.code.toList.length ≤ 5 := by
    rw [decision.length_code]
    split <;> omega
  have width : protocol.codec.check.width ≤ 4 := by
    cases protocol.codec.check <;> decide
  have line := (Display.isLine_line decision.display).short
  have whole := Decision.length_response decision device protocol.seconds
  rw [shown] at whole
  have larger (size : Nat) : protocol.codec.exceeds size = true ↔ limit < size := by
    rw [Codec.exceeds, same, Number.lt_ofNat, decide_eq_true_eq]
  intro size
  rw [larger, lacksRoom_iff same shown (by omega)]
  simp only [size, whole]
  constructor
  · constructor
    · intro large
      omega
    · intro worst
      omega
  · intro worst
    omega

/-- In every environment whose settings are accepted, a response is sent but where there is no room
for it, and there its frame has 65 bytes where 64 are allowed. -/
theorem encode_response_iff {named : Environment} {settings : Settings}
    (loaded : Settings.ofEnvironment named = .ok settings) (device : Device) (decision : Decision) :
    let response := decision.response device settings.protocol.seconds
    ((∃ frame, settings.protocol.codec.encode response = .ok frame) ↔
        ¬settings.protocol.LacksRoom decision) ∧
      (settings.protocol.LacksRoom decision →
        settings.protocol.codec.encode response = .error (.frameTooLarge 65 (.ofNat 64))) := by
  have bounded := Protocol.bounds_ofEnvironment (protocol_ofEnvironment loaded)
  rcases bounded.shownFor decision with ⟨count, most, shown⟩
  rcases bounded.size_response decision device with ⟨exceeds, full⟩
  intro response
  have ordinary : response.IsOrdinary := Decision.isOrdinary_response shown (by omega)
  rw [settings.protocol.codec.encode_ordinary ordinary]
  constructor
  · rw [← exceeds]
    split
    · next large => simp [response, large]
    · next small => simp [response, small]
  · intro lacks
    rw [if_pos (exceeds.mpr lacks), full lacks, lacks.smallest]

/-- The settings with the smallest frames, the widest check and the most seconds. -/
def smallestFrames : Environment := fun name =>
  List.lookup name [("PROTOCOL_INTEGRITY_CHECK", "CRC16"), ("PROTOCOL_MAX_FRAME_SIZE", "10"),
    ("GRANT_DISPLAY_SECONDS", "900"), ("DENY_DISPLAY_SECONDS", "255")]

theorem loaded_smallestFrames :
    ∃ settings, Settings.ofEnvironment smallestFrames = .ok settings ∧
      settings.protocol = ⟨⟨.crc16, .ofNat 64⟩, ⟨.ofNat 255, .ofNat 255⟩⟩ := by
  have accepted : (Settings.ofEnvironment smallestFrames).toOption.map Settings.protocol =
      some ⟨⟨.crc16, .ofNat 64⟩, ⟨.ofNat 255, .ofNat 255⟩⟩ := by
    decide +kernel
  cases loaded : Settings.ofEnvironment smallestFrames with
  | ok settings =>
      rw [loaded] at accepted
      exact ⟨settings, rfl, Option.some.inj accepted⟩
  | error fault =>
      rw [loaded] at accepted
      cases accepted

/-- A line as long as the display is wide. -/
def fullLine : String := "Documento vencido, procure a recepcao ja"

/-- The greatest grant takes all of the smallest frame. -/
theorem encode_response_iff_grant :
    ∃ settings, Settings.ofEnvironment smallestFrames = .ok settings ∧
      (Display.line fullLine).toList.length = 40 ∧
      ∃ frame, settings.protocol.codec.encode
        ((Decision.granted fullLine .entry .card .online).response ⟨1, by decide⟩
          settings.protocol.seconds) = .ok frame := by
  rcases loaded_smallestFrames with ⟨settings, loaded, -⟩
  refine ⟨settings, loaded, by decide +kernel, ?_⟩
  apply (encode_response_iff loaded ⟨1, by decide⟩ _).1.mpr
  intro lacks
  cases lacks.denied

/-- With the same line the denial does not fit. -/
theorem denial_exceeds :
    ∃ settings, Settings.ofEnvironment smallestFrames = .ok settings ∧
      settings.protocol.codec.encode
        ((Decision.denied .remoteDenied fullLine .online).response ⟨1, by decide⟩
          settings.protocol.seconds) = .error (.frameTooLarge 65 (.ofNat 64)) := by
  rcases loaded_smallestFrames with ⟨settings, loaded, same⟩
  refine ⟨settings, loaded, ?_⟩
  rw [same]
  decide +kernel

end Settings

end Gatehouse
