import Gatehouse.Proofs.Association
import Gatehouse.Proofs.Turnstile.Rest
import Gatehouse.Turnstile.Alarm
import Mathlib.Data.List.Nodup

/-!
# Alarms and their book

A book is kept well when it has just the numbers of the timers that are set (`AlarmBook.IsKept`).
Then the book and its timers are the alarms of the turnstiles and nothing else: what is done to the
book is done to the alarms, and the book stays so (`IsKept.arm_spec`, `IsKept.disarm_spec`,
`IsKept.disarmAll_spec`, `IsKept.goOff_spec`). So no alarm that was replaced or removed goes off,
and none that goes off strikes out the entry of a later one.
-/

namespace Gatehouse.Turnstile

theorem Alarms.goOff_of_due {alarms : Alarms} {alarm : Agenda.Pending Device}
    {later : List (Agenda.Pending Device)} (pending : alarms.timers.pending = alarm :: later)
    {target : Rat} (reached : alarm.due ≤ target) :
    alarms.goOff target =
      (alarm :: (alarms.ring.goOff target).1, (alarms.ring.goOff target).2) := by
  simp [goOff, ring, Agenda.Timers.rest, pending, reached]

namespace AlarmBook

def unnumbered (timer : Agenda.Pending Numbered) : Agenda.Pending Device :=
  ⟨timer.due, timer.stamp, timer.item.device⟩

/-- The alarms of the turnstiles in a book. -/
def alarms (book : AlarmBook) : Alarms :=
  { delay := book.delay, timers := ⟨book.timers.pending.map unnumbered⟩ }

/-- The book has the numbers of the timers that are set, and each timer has a number of its own. -/
structure IsKept (book : AlarmBook) : Prop where
  made : ∀ timer ∈ book.timers.pending, timer.item.number < book.made
  distinct : (book.timers.pending.map fun timer => timer.item.number).Nodup
  entered : ∀ device number, book.numbers.lookup device = some number ↔
    ∃ timer ∈ book.timers.pending, timer.item = ⟨number, device⟩

/-- A book without the timers and the entry of a turnstile. -/
def without (book : AlarmBook) (device : Device) : AlarmBook :=
  { book.strike device with timers := book.timers.cancel fun alarm => alarm.device == device }

variable {book : AlarmBook} {device : Device} {clock : Agenda.Clock}

theorem isKept_ofTimeout (timeout : Number) : (ofTimeout timeout).IsKept where
  made _ member := absurd member List.not_mem_nil
  distinct := List.nodup_nil
  entered device number := by simp [ofTimeout, Agenda.Timers.none]

theorem alarms_without (book : AlarmBook) (device : Device) :
    (book.without device).alarms = (book.alarms.disarm device).2 := by
  simp only [alarms, without, strike, Alarms.disarm, Agenda.Timers.cancel, List.filter_map]
  rfl

theorem lookup_without (other : Device) :
    (book.without device).numbers.lookup other =
      if other = device then none else book.numbers.lookup other :=
  Association.lookup_filter_ne ..

theorem mem_pending_without {timer : Agenda.Pending Numbered} :
    timer ∈ (book.without device).timers.pending ↔
      timer ∈ book.timers.pending ∧ timer.item.device ≠ device := by
  simp [without, Agenda.Timers.mem_pending_cancel]

theorem map_insert (timer : Agenda.Pending Numbered) (pending : List (Agenda.Pending Numbered)) :
    (Agenda.Timers.insert timer pending).map unnumbered =
      Agenda.Timers.insert (unnumbered timer) (pending.map unnumbered) := by
  induction pending with
  | nil => rfl
  | cons first rest induction =>
      simp only [Agenda.Timers.insert, List.map_cons, unnumbered] at induction ⊢
      split
      · rfl
      · simp [induction, unnumbered]

theorem pending_foldl_clear (book : AlarmBook) (numbers : List Nat) :
    (numbers.foldl clear book).timers.pending =
      book.timers.pending.filter fun timer => !numbers.contains timer.item.number := by
  induction numbers generalizing book with
  | nil => simp
  | cons number rest induction =>
      rw [List.foldl_cons, induction, clear, Agenda.Timers.cancel, List.filter_filter]
      refine List.filter_congr fun timer _ => ?_
      rw [List.contains_cons, Bool.not_or, Bool.and_comm]

theorem delay_foldl_clear (book : AlarmBook) (numbers : List Nat) :
    (numbers.foldl clear book).delay = book.delay := by
  induction numbers generalizing book with
  | nil => rfl
  | cons number rest induction => exact induction _

theorem alarms_enter (book : AlarmBook) (clock : Agenda.Clock) (device : Device) :
    (book.enter clock device).alarms =
      { book.alarms with timers := book.alarms.timers.set clock book.delay device } := by
  simp only [alarms, AlarmBook.enter, strike, Agenda.Timers.set, map_insert]
  rfl

theorem alarms_ring (book : AlarmBook) (alarm : Numbered) :
    (book.ring alarm).alarms = book.alarms.ring := by
  simp only [alarms, ring, strike, Alarms.ring, Agenda.Timers.rest, List.map_tail]

namespace IsKept

theorem eq_of_number (kept : book.IsKept) {left right : Agenda.Pending Numbered}
    (leftSet : left ∈ book.timers.pending) (rightSet : right ∈ book.timers.pending)
    (same : left.item.number = right.item.number) : left = right :=
  List.inj_on_of_nodup_map kept.distinct leftSet rightSet same

theorem lookup_of_set (kept : book.IsKept) {timer : Agenda.Pending Numbered}
    (set : timer ∈ book.timers.pending) :
    book.numbers.lookup timer.item.device = some timer.item.number :=
  (kept.entered _ _).mpr ⟨timer, set, rfl⟩

theorem eq_of_device (kept : book.IsKept) {left right : Agenda.Pending Numbered}
    (leftSet : left ∈ book.timers.pending) (rightSet : right ∈ book.timers.pending)
    (same : left.item.device = right.item.device) : left = right := by
  have found := kept.lookup_of_set leftSet
  rw [same, kept.lookup_of_set rightSet] at found
  exact kept.eq_of_number leftSet rightSet (Option.some.inj found).symm

theorem number_eq_iff (kept : book.IsKept) {number : Nat}
    (found : book.numbers.lookup device = some number) {timer : Agenda.Pending Numbered}
    (set : timer ∈ book.timers.pending) :
    timer.item.number = number ↔ timer.item.device = device := by
  constructor
  · intro same
    obtain ⟨other, otherSet, item⟩ := (kept.entered device number).mp found
    rw [kept.eq_of_number set otherSet (by rw [same, item]), item]
  · rintro rfl
    exact Option.some.inj ((kept.lookup_of_set set).symm.trans found)

theorem isArmed_eq (kept : book.IsKept) (device : Device) :
    book.isArmed device = book.alarms.isArmed device := by
  rw [Bool.eq_iff_iff, isArmed, Option.isSome_iff_exists, Alarms.isArmed_iff]
  simp only [kept.entered, Alarms.devices, alarms, List.map_map, List.mem_map, Function.comp,
    unnumbered]
  constructor
  · rintro ⟨number, timer, set, item⟩
    exact ⟨timer, set, by rw [item]⟩
  · rintro ⟨timer, set, rfl⟩
    exact ⟨timer.item.number, timer, set, rfl⟩

theorem without (kept : book.IsKept) (device : Device) : (book.without device).IsKept where
  made timer member := kept.made timer (List.mem_of_mem_filter member)
  distinct := kept.distinct.sublist (List.filter_sublist.map _)
  entered other number := by
    simp only [lookup_without, mem_pending_without]
    split
    · next same =>
        subst same
        refine ⟨fun none => (nomatch none), ?_⟩
        rintro ⟨timer, ⟨-, different⟩, item⟩
        exact absurd (by rw [item]) different
    · next different =>
        rw [kept.entered]
        constructor
        · rintro ⟨timer, set, item⟩
          exact ⟨timer, ⟨set, by rwa [item]⟩, item⟩
        · rintro ⟨timer, ⟨set, -⟩, item⟩
          exact ⟨timer, set, item⟩

theorem disarm_of_found (kept : book.IsKept) {number : Nat}
    (found : book.numbers.lookup device = some number) :
    book.disarm device = (true, book.without device) := by
  have same : (book.timers.cancel fun alarm => alarm.number == number) =
      book.timers.cancel fun alarm => alarm.device == device := by
    refine congrArg Agenda.Timers.mk (List.filter_congr fun timer set => ?_)
    simp [Bool.beq_eq_decide_eq, kept.number_eq_iff found set]
  simp only [disarm, found, AlarmBook.without, strike, clear, same]

theorem alarms_of_missing (kept : book.IsKept) (missing : book.numbers.lookup device = none) :
    book.alarms = (book.alarms.disarm device).2 := by
  have unset : ∀ alarm ∈ book.alarms.timers.pending, (!alarm.item == device) = true := by
    intro alarm member
    obtain ⟨timer, set, rfl⟩ := List.mem_map.mp member
    have found := kept.lookup_of_set set
    simp only [unnumbered, Bool.not_eq_eq_eq_not, Bool.not_true, beq_eq_false_iff_ne]
    rintro rfl
    cases missing.symm.trans found
  exact congrArg (fun timers => ({ book.alarms with timers := timers } : Alarms))
    (congrArg Agenda.Timers.mk (List.filter_eq_self.mpr unset).symm)

theorem disarm_spec (kept : book.IsKept) (device : Device) :
    (book.disarm device).1 = book.isArmed device ∧ (book.disarm device).2.IsKept ∧
      (book.disarm device).2.alarms = (book.alarms.disarm device).2 ∧
      (book.disarm device).2.numbers.lookup device = none := by
  cases found : book.numbers.lookup device with
  | some number =>
      rw [kept.disarm_of_found found]
      refine ⟨by simp [isArmed, found], kept.without device, alarms_without book device, ?_⟩
      rw [lookup_without, if_pos rfl]
  | none =>
      have same : book.disarm device = (false, book) := by simp [disarm, found]
      rw [same]
      exact ⟨by simp [isArmed, found], kept, kept.alarms_of_missing found, found⟩

theorem enter (kept : book.IsKept) (missing : book.numbers.lookup device = none)
    (clock : Agenda.Clock) : (book.enter clock device).IsKept where
  made timer member := by
    rcases Agenda.Timers.mem_pending_set.mp member with rfl | old
    · exact Nat.lt_succ_self _
    · exact (kept.made timer old).trans (Nat.lt_succ_self _)
  distinct := by
    refine ((Agenda.Timers.insert_perm _ _).map _).nodup_iff.mpr ?_
    refine List.nodup_cons.mpr ⟨fun member => ?_, kept.distinct⟩
    obtain ⟨timer, set, same⟩ := List.mem_map.mp member
    exact absurd (kept.made timer set) (by simp [same])
  entered other number := by
    simp only [AlarmBook.enter, strike, Association.lookup_replaced,
      Agenda.Timers.mem_pending_set]
    split
    · next same =>
        subst same
        constructor
        · intro new
          exact ⟨_, .inl rfl, by rw [Option.some.inj new]⟩
        · rintro ⟨timer, rfl | old, item⟩
          · exact congrArg some (congrArg Numbered.number item)
          · have found := kept.lookup_of_set old
            rw [item, missing] at found
            cases found
    · next different =>
        rw [kept.entered]
        constructor
        · rintro ⟨timer, set, item⟩
          exact ⟨timer, .inr set, item⟩
        · rintro ⟨timer, rfl | old, item⟩
          · exact absurd (congrArg Numbered.device item).symm different
          · exact ⟨timer, old, item⟩

theorem arm_spec (kept : book.IsKept) (clock : Agenda.Clock) (device : Device) :
    (book.arm clock device).IsKept ∧
      (book.arm clock device).alarms = book.alarms.arm clock device := by
  obtain ⟨-, cleared, same, missing⟩ := kept.disarm_spec device
  have delay : (book.disarm device).2.delay = book.delay := congrArg Alarms.delay same
  refine ⟨cleared.enter missing clock, ?_⟩
  rw [arm, alarms_enter, same, delay]
  rfl

theorem disarmAll_spec (kept : book.IsKept) :
    book.disarmAll.IsKept ∧ book.disarmAll.alarms = book.alarms.disarmAll := by
  have emptied : book.disarmAll.timers.pending = [] := by
    refine (pending_foldl_clear book _).trans (List.filter_eq_nil_iff.mpr fun timer set => ?_)
    obtain ⟨front, back, whole, -⟩ := List.lookup_eq_some_iff.mp (kept.lookup_of_set set)
    simp [whole]
  have delay : book.disarmAll.delay = book.delay :=
    delay_foldl_clear book (book.numbers.map Prod.snd)
  have erased : book.disarmAll.numbers = [] := rfl
  refine ⟨⟨?_, ?_, fun device number => ?_⟩, ?_⟩
  · simp [emptied]
  · simp [emptied]
  · simp [emptied, erased]
  · simp only [alarms, emptied, delay, Alarms.disarmAll, List.map_nil, Agenda.Timers.none]

theorem ring_eq (kept : book.IsKept) {timer : Agenda.Pending Numbered}
    {later : List (Agenda.Pending Numbered)} (pending : book.timers.pending = timer :: later) :
    book.ring timer.item = book.without timer.item.device := by
  have others : later = later.filter fun other => !other.item.device == timer.item.device := by
    refine (List.filter_eq_self.mpr fun other behind => ?_).symm
    have distinct := kept.distinct
    rw [pending, List.map_cons, List.nodup_cons] at distinct
    simp only [Bool.not_eq_eq_eq_not, Bool.not_true, beq_eq_false_iff_ne]
    intro same
    obtain rfl : other = timer :=
      kept.eq_of_device (by simp [pending, behind]) (by simp [pending]) same
    exact distinct.1 (List.mem_map_of_mem behind)
  have same : book.timers.rest =
      book.timers.cancel fun alarm => alarm.device == timer.item.device := by
    rw [Agenda.Timers.rest, Agenda.Timers.cancel, pending, List.tail_cons,
      List.filter_cons_of_neg (by simp), ← others]
  simp only [ring, AlarmBook.without, strike, same]

theorem ring_spec (kept : book.IsKept) {timer : Agenda.Pending Numbered}
    {later : List (Agenda.Pending Numbered)} (pending : book.timers.pending = timer :: later) :
    (book.ring timer.item).IsKept ∧ (book.ring timer.item).timers.pending = later :=
  ⟨kept.ring_eq pending ▸ kept.without _, congrArg List.tail pending⟩

theorem ringUpTo_spec (kept : book.IsKept) (target : Rat) {budget : Nat}
    (enough : book.timers.pending.length ≤ budget) :
    (ringUpTo target budget book).2.IsKept ∧
      (ringUpTo target budget book).1 = (book.alarms.goOff target).1 ∧
      (ringUpTo target budget book).2.alarms = (book.alarms.goOff target).2 := by
  induction budget generalizing book with
  | zero =>
      have empty := List.eq_nil_of_length_eq_zero (Nat.le_zero.mp enough)
      simp [ringUpTo, kept, alarms, empty, Alarms.goOff]
  | succ budget induction =>
      cases pending : book.timers.pending with
      | nil => simp [ringUpTo, kept, alarms, pending, Alarms.goOff, Agenda.Timers.next?]
      | cons timer later =>
          obtain ⟨rung, left⟩ := kept.ring_spec pending
          by_cases reached : timer.due ≤ target
          · have fits : (book.ring timer.item).timers.pending.length ≤ budget := by
              rw [left]
              simpa [pending] using enough
            obtain ⟨last, fired, remaining⟩ := induction rung fits
            have next : book.alarms.timers.pending = unnumbered timer :: later.map unnumbered :=
              congrArg (List.map unnumbered) pending
            simp only [ringUpTo, Agenda.Timers.next?, pending, List.head?_cons, reached, if_true]
            rw [Alarms.goOff_of_due next reached, ← alarms_ring book timer.item]
            exact ⟨last, congrArg _ fired, remaining⟩
          · simp [ringUpTo, kept, alarms, pending, Alarms.goOff, Agenda.Timers.next?, unnumbered,
              reached]

theorem goOff_spec (kept : book.IsKept) (target : Rat) :
    (book.goOff target).2.IsKept ∧ (book.goOff target).1 = (book.alarms.goOff target).1 ∧
      (book.goOff target).2.alarms = (book.alarms.goOff target).2 :=
  kept.ringUpTo_spec target le_rfl

end IsKept

end AlarmBook

end Gatehouse.Turnstile
