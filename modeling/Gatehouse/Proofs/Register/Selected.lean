import Gatehouse.Proofs.Register.Recent
import Gatehouse.Register.Sql
import Mathlib.Data.List.Induction
import Mathlib.Data.List.Sort

/-!
# What a selection selects

The meaning of the selections that are sent to a database: of the rows of a table that meet all
conditions, the first one in the order asked for (`Sql.Yields`). A log record is a row as the
statement that adds it fills its columns.

Over the same rows, the register in memory and the selection agree on whether there is a recent
grant, and where time runs along with the log they agree on the record: `recentGrant_agrees`.
-/

namespace Gatehouse.Register.Sql

/-- A value of a column or a parameter. -/
inductive Datum where
  | document (value : Json)
  | instant (value : Time.Instant)

namespace Datum

/-- The form in which a value is sent to a database, and in which it comes back. -/
def toJson : Datum → Json
  | .document value => value
  | .instant value => .text value.text

/-- Whether two values are known to be equal. A missing value is not known to equal anything. -/
def equals : Datum → Datum → Bool
  | .document left, .document right => left != .null && left == right
  | .instant left, .instant right => left.since right && right.since left
  | _, _ => false

/-- Whether a number or an instant is known to be no less than another one. -/
def atLeast : Datum → Datum → Bool
  | .document (.number left), .document (.number right) => right.le left
  | .instant left, .instant right => left.since right
  | _, _ => false

def below : Datum → Datum → Bool
  | .document (.number left), .document (.number right) => left.lt right
  | .instant left, .instant right => left.before right
  | _, _ => false

end Datum

section Meaning

variable {Row : Type} (column : Row → String → Datum)

/-- Whether a row meets conditions, which take the parameters in order. -/
def meets (row : Row) : List Condition → List Datum → Bool
  | [], _ => true
  | .equals name :: rest, parameter :: more =>
      (column row name).equals parameter && meets row rest more
  | .holds name :: rest, parameters =>
      (column row name).equals (.document (.truth true)) && meets row rest parameters
  | .atLeast name :: rest, parameter :: more =>
      (column row name).atLeast parameter && meets row rest more
  | _ :: _, [] => false

/-- Whether a row may stand before another one where columns fall: the first of them in which they
differ counts. -/
def mayPrecede (left right : Row) : List String → Bool
  | [] => true
  | name :: rest =>
      (column right name).below (column left name) ||
        (!(column left name).below (column right name) && mayPrecede left right rest)

/-- What a selection can yield from a table: of the rows that meet its conditions, in an order such
as it asks for, the first. -/
def Yields (selection : Selection) (parameters : List Datum) (table result : List Row) : Prop :=
  ∃ ordered : List Row,
    ordered.Perm (table.filter fun row => meets column row selection.conditions parameters) ∧
      ordered.Pairwise (fun left right => mayPrecede column left right selection.falling) ∧
      result = ordered.take 1

end Meaning

def filling (entry : LogEntry) : List Datum := [
  .document entry.user, .document entry.registration, .document (.text entry.credential),
  .document (.text entry.direction.name), .document (.text entry.reader.name),
  .document (.truth entry.granted), .document (.text entry.display),
  (entry.timestamp.map Datum.instant).getD (.document .null)]

/-- The columns of a log record: its number, and what was filled in. -/
def logColumn (record : LogRecord) (name : String) : Datum :=
  if name = "id" then .document (.ofInt record.id)
  else ((filledColumns.zip (filling record.toLogEntry)).lookup name).getD (.document .null)

/-- The parameters of the search for a recent grant. -/
def grantParameters (user : Reference) (direction : Access.Direction) (since : Time.Instant) :
    List Datum :=
  [.document user, .document (.text direction.name), .instant since]

theorem statement_recentGrant (user : Reference) (direction : Access.Direction)
    (since : Time.Instant) :
    statement (.recentGrant user direction (some since)) =
      ⟨recentGrant.text, (grantParameters user direction since).map Datum.toJson⟩ :=
  rfl

theorem equals_document {user : Reference} (somebody : user ≠ .null) (other : Reference) :
    (Datum.document other).equals (.document user) = (other == user) := by
  by_cases same : other = user
  · simp [Datum.equals, same, somebody]
  · simp [Datum.equals, same]

theorem equals_direction (left right : Access.Direction) :
    (Datum.document (.text left.name)).equals (.document (.text right.name)) = (left == right) := by
  cases left <;> cases right <;> rfl

theorem equals_truth (value : Bool) :
    (Datum.document (.truth value)).equals (.document (.truth true)) = value := by
  cases value <;> rfl

theorem atLeast_timestamp (timestamp : Option Time.Instant) (since : Time.Instant) :
    ((timestamp.map Datum.instant).getD (.document .null)).atLeast (.instant since) =
      timestamp.any (·.since since) := by
  cases timestamp <;> rfl

theorem meets_recentGrant (record : LogRecord) {user : Reference} (somebody : user ≠ .null)
    (direction : Access.Direction) (since : Time.Instant) :
    meets logColumn record recentGrant.conditions (grantParameters user direction since) =
      (Memory.isGrant user direction record && record.timestamp.any (·.since since)) := by
  have of_user : logColumn record "user_id" = .document record.user := rfl
  have of_direction : logColumn record "direction" = .document (.text record.direction.name) := rfl
  have of_granted : logColumn record "granted" = .document (.truth record.granted) := rfl
  have of_time : logColumn record "created_at" =
      (record.timestamp.map Datum.instant).getD (.document .null) := rfl
  simp only [recentGrant, grantParameters, meets, of_user, of_direction, of_granted, of_time,
    equals_document somebody, equals_direction, equals_truth, atLeast_timestamp, Memory.isGrant,
    Bool.and_true]
  cases record.user == user <;> cases record.granted <;> cases record.direction == direction <;>
    simp

theorem below_number (left right : Int) :
    (Datum.document (.ofInt left)).below (.document (.ofInt right)) = decide (left < right) := by
  simp [Datum.below, Json.ofInt, Number.ofInt, Number.lt]

theorem below_moment (left right : Int) :
    (Datum.instant (.moment left)).below (.instant (.moment right)) = decide (left < right) :=
  rfl

/-- For records at known moments the order asked for is that of the moments, and of the numbers
where these are the same. -/
theorem mayPrecede_iff {left right : LogRecord} {left_millis right_millis : Int}
    (left_at : left.timestamp = some (.moment left_millis))
    (right_at : right.timestamp = some (.moment right_millis)) :
    mayPrecede logColumn left right recentGrant.falling = true ↔
      right_millis < left_millis ∨ right_millis = left_millis ∧ right.id ≤ left.id := by
  have of_id (record : LogRecord) : logColumn record "id" = .document (.ofInt record.id) := rfl
  have of_time {record : LogRecord} {millis : Int}
      (at_millis : record.timestamp = some (.moment millis)) :
      logColumn record "created_at" = .instant (.moment millis) := by
    have filled : logColumn record "created_at" =
        (record.timestamp.map Datum.instant).getD (.document .null) := rfl
    rw [filled, at_millis]
    rfl
  simp only [recentGrant, mayPrecede, of_id, below_number, of_time left_at, of_time right_at,
    below_moment, Bool.and_true, Bool.or_eq_true, Bool.and_eq_true, Bool.not_eq_true',
    decide_eq_true_eq, decide_eq_false_iff_not]
  have order (left_id right_id : Int) : right_millis < left_millis ∨
      ¬ left_millis < right_millis ∧ (right_id < left_id ∨ ¬ left_id < right_id) ↔
        right_millis < left_millis ∨ right_millis = left_millis ∧ right_id ≤ left_id := by
    omega
  exact order left.id right.id

end Gatehouse.Register.Sql

namespace Gatehouse.Register.Memory

open Sql

/-- Each entry was made at a moment. -/
def Timed (entries : List LogEntry) : Prop :=
  ∀ entry ∈ entries, ∃ millis, entry.timestamp = some (.moment millis)

/-- No entry was made before one that stands in front of it. -/
def InTimeOrder (entries : List LogEntry) : Prop :=
  entries.Pairwise fun earlier later => ∀ earlier_millis later_millis,
    earlier.timestamp = some (.moment earlier_millis) →
    later.timestamp = some (.moment later_millis) → earlier_millis ≤ later_millis

section Log

variable {memory : Memory} (fresh : memory.log = []) (entries : List LogEntry)

include fresh

theorem log_appendAll :
    (memory.appendAll entries).log.map LogRecord.toLogEntry = entries ∧
      (memory.appendAll entries).log.Pairwise (fun earlier later => earlier.id < later.id) ∧
      ∀ record ∈ (memory.appendAll entries).log, record.id ≤ entries.length := by
  induction entries using List.reverseRecOn with
  | nil => simp [appendAll, fresh]
  | append_singleton front last induction =>
      rcases induction with ⟨same, numbered, bounded⟩
      have count := congrArg List.length same
      rw [List.length_map] at count
      have grown : (memory.appendAll (front ++ [last])).log =
          (memory.appendAll front).log ++ [{ last with id := front.length + 1 }] := by
        rw [appendAll_append, ← count]
        rfl
      rw [grown]
      refine ⟨by rw [List.map_append, same]; rfl,
        List.pairwise_append.mpr ⟨numbered, by simp, ?_⟩, ?_⟩
      · intro record member new listed
        obtain rfl := List.mem_singleton.mp listed
        have bound := bounded record member
        exact Int.lt_add_one_of_le bound
      · intro record member
        rw [List.length_append, List.length_singleton]
        rcases List.mem_append.mp member with old | new
        · have bound := bounded record old
          push_cast
          exact Int.le_trans bound (Int.le_of_lt (Int.lt_succ _))
        · obtain rfl := List.mem_singleton.mp new
          exact Int.le_refl _

theorem moment_of_timed {entries : List LogEntry} (timed : Timed entries) :
    ∀ record ∈ (memory.appendAll entries).log, ∃ millis,
      record.timestamp = some (.moment millis) := by
  intro record member
  refine timed record.toLogEntry ?_
  rw [← (log_appendAll fresh entries).1]
  exact List.mem_map_of_mem member

theorem eq_of_id {record other : LogRecord} (known : record ∈ (memory.appendAll entries).log)
    (other_known : other ∈ (memory.appendAll entries).log) (same : record.id = other.id) :
    record = other := by
  have distinct : ((memory.appendAll entries).log.map (·.id)).Nodup :=
    List.pairwise_map.mpr ((log_appendAll fresh entries).2.1.imp fun less => Int.ne_of_lt less)
  exact List.inj_on_of_nodup_map distinct known other_known same

theorem eq_of_mayPrecede {entries : List LogEntry} (timed : Timed entries)
    {record other : LogRecord} (known : record ∈ (memory.appendAll entries).log)
    (other_known : other ∈ (memory.appendAll entries).log)
    (precedes : mayPrecede logColumn record other recentGrant.falling = true)
    (follows : mayPrecede logColumn other record recentGrant.falling = true) : record = other := by
  rcases moment_of_timed fresh timed record known with ⟨millis, at_millis⟩
  rcases moment_of_timed fresh timed other other_known with ⟨other_millis, other_at⟩
  refine eq_of_id fresh entries known other_known ?_
  rcases (mayPrecede_iff at_millis other_at).mp precedes with before | ⟨same, no_later⟩
  · rcases (mayPrecede_iff other_at at_millis).mp follows with behind | ⟨same, -⟩ <;> omega
  · rcases (mayPrecede_iff other_at at_millis).mp follows with behind | ⟨-, no_earlier⟩
    · omega
    · exact Int.le_antisymm no_earlier no_later

/-- Where time runs along with the log, the log backwards is in the order asked for. -/
theorem log_in_order {entries : List LogEntry} (timed : Timed entries)
    (ordered : InTimeOrder entries) :
    (memory.appendAll entries).log.Pairwise fun earlier later =>
      mayPrecede logColumn later earlier recentGrant.falling = true := by
  rcases log_appendAll fresh entries with ⟨same, numbered, -⟩
  rw [InTimeOrder, ← same, List.pairwise_map] at ordered
  refine (ordered.and numbered).imp_of_mem fun {earlier later} member later_member both => ?_
  rcases moment_of_timed fresh timed earlier member with ⟨earlier_millis, earlier_at⟩
  rcases moment_of_timed fresh timed later later_member with ⟨later_millis, later_at⟩
  have no_later := both.1 earlier_millis later_millis earlier_at later_at
  refine (mayPrecede_iff later_at earlier_at).mpr ?_
  rcases Int.lt_or_eq_of_le no_later with before | together
  · exact .inl before
  · exact .inr ⟨together, Int.le_of_lt both.2⟩

end Log

/-- The search goes backwards, so it ends at the last record that is searched for. -/
theorem recentGrant?_of_timed {memory : Memory} {user : Reference} {direction : Access.Direction}
    {since : Time.Instant} (timed : ∀ record ∈ memory.log, ∃ millis,
      record.timestamp = some (.moment millis)) :
    memory.recentGrant? user direction (some since) =
      .ok (memory.log.filter fun record =>
        isGrant user direction record && record.timestamp.any (·.since since)).getLast? := by
  have known : ∀ record ∈ memory.log.reverse.filter (isGrant user direction),
      record.timestamp.isSome := by
    intro record member
    rcases timed record (List.mem_reverse.mp (List.mem_filter.mp member).1) with ⟨millis, at_millis⟩
    rw [at_millis]
    rfl
  rw [recentGrant?, firstSince?_of_timed since _ known, ← List.head?_filter, List.filter_filter,
    List.filter_reverse, List.head?_reverse]
  simp only [Bool.and_comm]

def millisOf (record : LogRecord) : Int :=
  match record.timestamp with
  | some (.moment millis) => millis
  | _ => 0

theorem millisOf_eq {record : LogRecord} {millis : Int}
    (at_millis : record.timestamp = some (.moment millis)) : millisOf record = millis := by
  rw [millisOf, at_millis]

def goesFirst (left right : LogRecord) : Bool :=
  decide (millisOf right < millisOf left ∨
    millisOf right = millisOf left ∧ right.id ≤ left.id)

theorem goesFirst_trans (first second third : LogRecord) (front : goesFirst first second = true)
    (back : goesFirst second third = true) : goesFirst first third = true := by
  simp only [goesFirst, decide_eq_true_eq] at front back ⊢
  generalize millisOf first = one, millisOf second = two, millisOf third = three at front back ⊢
  rcases front with before | ⟨same, greater⟩
  · exact .inl (by omega)
  · rcases back with before | ⟨equal, no_less⟩
    · exact .inl (by omega)
    · exact .inr ⟨by omega, Int.le_trans no_less greater⟩

theorem goesFirst_total (left right : LogRecord) :
    (goesFirst left right || goesFirst right left) = true := by
  simp only [goesFirst, Bool.or_eq_true, decide_eq_true_eq]
  rcases Int.lt_trichotomy (millisOf right) (millisOf left) with before | same | behind
  · exact .inl (.inl before)
  · rcases Int.le_total right.id left.id with greater | less
    · exact .inl (.inr ⟨same, greater⟩)
    · exact .inr (.inr ⟨same.symm, less⟩)
  · exact .inr (.inl behind)

theorem exists_in_order {records : List LogRecord}
    (timed : ∀ record ∈ records, ∃ millis, record.timestamp = some (.moment millis)) :
    ∃ ordered : List LogRecord, ordered.Perm records ∧ ordered.Pairwise fun left right =>
      mayPrecede logColumn left right recentGrant.falling = true := by
  have same := List.mergeSort_perm records goesFirst
  refine ⟨records.mergeSort goesFirst, same, ?_⟩
  have sorted : (records.mergeSort goesFirst).Pairwise fun left right => goesFirst left right :=
    List.pairwise_mergeSort goesFirst_trans goesFirst_total records
  refine sorted.imp_of_mem fun {left right} member right_member first => ?_
  rcases timed left (same.mem_iff.mp member) with ⟨left_millis, left_at⟩
  rcases timed right (same.mem_iff.mp right_member) with ⟨right_millis, right_at⟩
  refine (mayPrecede_iff left_at right_at).mpr ?_
  simpa [goesFirst, millisOf_eq left_at, millisOf_eq right_at] using first

/-- The register in memory and the selection sent to a database, over the same rows: neither finds
anything, or both do; and where time runs along with the log they find the same record. -/
theorem recentGrant_agrees {memory : Memory} (fresh : memory.log = []) {entries : List LogEntry}
    (timed : Timed entries) (user : Id) (direction : Access.Direction) (since : Time.Instant) :
    let log := (memory.appendAll entries).log
    let parameters := grantParameters (.ofInt user) direction since
    statement (.recentGrant (.ofInt user) direction (some since)) =
        ⟨recentGrant.text, parameters.map Datum.toJson⟩ ∧
      (∃ result, Yields logColumn recentGrant parameters log result) ∧
      ∃ found, (memory.appendAll entries).recentGrant? (.ofInt user) direction (some since) =
          .ok found ∧
        ∀ result, Yields logColumn recentGrant parameters log result →
          (found = none ↔ result = []) ∧ (InTimeOrder entries → result = found.toList) := by
  intro log parameters
  let selected := log.filter fun record =>
    Memory.isGrant (.ofInt user) direction record && record.timestamp.any (·.since since)
  have selected_eq : (log.filter fun record =>
      meets logColumn record recentGrant.conditions parameters) = selected := by
    congr 1
    funext record
    exact meets_recentGrant record (show Json.ofInt user ≠ .null from nofun) direction since
  have known := moment_of_timed fresh timed
  refine ⟨statement_recentGrant .., ?_, selected.getLast?, recentGrant?_of_timed known, ?_⟩
  · rcases exists_in_order fun record member => known record (List.mem_filter.mp member).1 with
      ⟨ordered, same, sorted⟩
    exact ⟨ordered.take 1, ordered, selected_eq ▸ same, sorted, rfl⟩
  · rintro result ⟨ordered, same, sorted, rfl⟩
    rw [selected_eq] at same
    constructor
    · rw [List.getLast?_eq_none_iff, List.take_eq_nil_iff, or_iff_right Nat.one_ne_zero]
      constructor
      · intro nothing
        exact (nothing ▸ same).eq_nil
      · intro nothing
        exact (nothing ▸ same).symm.eq_nil
    · intro in_order
      have reversed : selected.reverse.Pairwise fun left right =>
          mayPrecede logColumn left right recentGrant.falling = true :=
        List.pairwise_reverse.mpr ((log_in_order fresh timed in_order).filter _)
      -- No two records can change places in that order, as their numbers differ.
      have exactly : ordered = selected.reverse := by
        refine List.Perm.eq_of_pairwise ?_ sorted reversed (same.trans selected.reverse_perm.symm)
        intro record other member other_member
        have in_log {record : LogRecord} (listed : record ∈ selected) : record ∈ log :=
          (List.mem_filter.mp listed).1
        exact eq_of_mayPrecede fresh timed (in_log (same.mem_iff.mp member))
          (in_log (List.mem_reverse.mp other_member))
      rw [exactly, List.take_one, List.head?_reverse]

/-- Of two grants at one moment both find the second. -/
theorem recentGrant_agrees_together :
    let entry : LogEntry := ⟨.ofInt 1, .text "T100", "ABC123", .entry, .card, true,
      "Acesso liberado", some (.moment 1746878400000)⟩
    let memory : Memory := Memory.empty.appendAll [entry, entry]
    Timed [entry, entry] ∧ InTimeOrder [entry, entry] ∧
      memory.recentGrant? (.ofInt 1) .entry (some (.moment 0)) = .ok (some { entry with id := 2 }) ∧
      Yields logColumn recentGrant (grantParameters (.ofInt 1) .entry (.moment 0)) memory.log
        [{ entry with id := 2 }] := by
  intro entry memory
  have timed : Timed [entry, entry] := by
    intro other member
    exact ⟨1746878400000, by simp_all [entry]⟩
  have in_order : InTimeOrder [entry, entry] := by
    simp [InTimeOrder, entry]
  have empty : Memory.empty.log = [] := rfl
  rcases recentGrant_agrees empty timed 1 .entry (.moment 0) with
    ⟨-, ⟨result, yields⟩, found, answered, agrees⟩
  have second : memory.recentGrant? (.ofInt 1) .entry (some (.moment 0)) =
      .ok (some { entry with id := 2 }) := by
    rfl
  have same : result = [{ entry with id := 2 }] := by
    rw [(agrees result yields).2 in_order, Except.ok.inj (answered.symm.trans second)]
    rfl
  exact ⟨timed, in_order, second, same ▸ yields⟩

end Gatehouse.Register.Memory
