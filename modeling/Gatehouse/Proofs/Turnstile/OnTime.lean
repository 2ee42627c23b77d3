import Gatehouse.Proofs.Turnstile.Entered
import Mathlib.Data.List.Induction

/-!
# Alarms on time

Whatever is done to alarms while time passes, an alarm goes off when its turn comes, unless the
turnstile got another one before or the alarm was removed. Which alarms must go off is said by what
was done alone: an alarm that nothing concerned since it was set (`Untouched`) and whose time was
reached (`HasCome`). A watch over a book of alarms writes down those that go off; main result
`alarms_go_off`.
-/

namespace Gatehouse.Turnstile

/-- What may be done to alarms. -/
inductive AlarmAct where
  | arm (device : Device)
  | disarm (device : Device)
  | disarmAll
  | passTo (moment : Rat)

namespace AlarmAct

def concerns : AlarmAct → Device → Bool
  | .arm other, device => device == other
  | .disarm other, device => device == other
  | .disarmAll, _ => true
  | .passTo _, _ => false

def timeAfter (now : Rat) : AlarmAct → Rat
  | .passTo moment => max now moment
  | _ => now

end AlarmAct

def momentAfter (began : Rat) (acts : List AlarmAct) : Rat :=
  acts.foldl AlarmAct.timeAfter began

/-- An alarm was set for a turnstile by one of the acts, and no later act concerned the turnstile.
The stamp of the alarm is the place of the act that set it. -/
def Untouched (timeout : Nat) (began : Rat) (acts : List AlarmAct)
    (alarm : Agenda.Pending Device) : Prop :=
  ∃ before behind, acts = before ++ .arm alarm.item :: behind ∧
    alarm = ⟨momentAfter began before + timeout, before.length, alarm.item⟩ ∧
    ∀ act ∈ behind, act.concerns alarm.item = false

/-- At some point of the acts nothing had concerned a turnstile since its alarm was set, and the
time at which the alarm goes off was reached. -/
def HasCome (timeout : Nat) (began : Rat) (acts : List AlarmAct)
    (alarm : Agenda.Pending Device) : Prop :=
  ∃ course, course <+: acts ∧ Untouched timeout began course alarm ∧
    alarm.due ≤ momentAfter began course

/-- A book of alarms while time passes, and the alarms that went off so far. -/
structure Watch where
  book : AlarmBook
  clock : Agenda.Clock
  fired : List (Agenda.Pending Device)

namespace Watch

/-- A watch that begins at some time, without alarms. -/
def start (timeout : Nat) (began : Rat) : Watch :=
  { book := .ofTimeout (.ofNat timeout), clock := ⟨began, 0⟩, fired := [] }

def change (book : AlarmBook) (clock : Agenda.Clock) :
    AlarmAct → List (Agenda.Pending Device) × AlarmBook
  | .arm device => ([], book.arm clock device)
  | .disarm device => ([], (book.disarm device).2)
  | .disarmAll => ([], book.disarmAll)
  | .passTo moment => book.goOff (max clock.now moment)

def act (watch : Watch) (act : AlarmAct) : Watch :=
  { book := (change watch.book watch.clock act).2
    clock := { watch.clock.tick with now := act.timeAfter watch.clock.now }
    fired := watch.fired ++ (change watch.book watch.clock act).1 }

/-- A watch during which some acts were done. -/
def during (timeout : Nat) (began : Rat) (acts : List AlarmAct) : Watch :=
  acts.foldl act (start timeout began)

end Watch

variable {timeout : Nat} {began : Rat} {acts : List AlarmAct} {last : AlarmAct}
  {alarm : Agenda.Pending Device}

theorem momentAfter_concat :
    momentAfter began (acts ++ [last]) = last.timeAfter (momentAfter began acts) :=
  List.foldl_concat ..

theorem le_timeAfter (now : Rat) (act : AlarmAct) : now ≤ act.timeAfter now := by
  cases act with
  | passTo moment => exact le_max_left ..
  | arm device => exact le_rfl
  | disarm device => exact le_rfl
  | disarmAll => exact le_rfl

theorem le_momentAfter (began : Rat) (acts : List AlarmAct) : began ≤ momentAfter began acts := by
  induction acts generalizing began with
  | nil => exact le_rfl
  | cons act rest induction => exact (le_timeAfter began act).trans (induction _)

theorem momentAfter_le_of_early {course : List AlarmAct} (early : course <+: acts) :
    momentAfter began course ≤ momentAfter began acts := by
  obtain ⟨rest, rfl⟩ := early
  rw [momentAfter, momentAfter, List.foldl_append]
  exact le_momentAfter ..

theorem Untouched.due_le (untouched : Untouched timeout began acts alarm) :
    alarm.due ≤ momentAfter began acts + timeout := by
  obtain ⟨before, behind, rfl, set, -⟩ := untouched
  rw [set]
  exact add_le_add_left (momentAfter_le_of_early (List.prefix_append ..)) _

theorem Untouched.stamp_lt (untouched : Untouched timeout began acts alarm) :
    alarm.stamp < acts.length := by
  obtain ⟨before, behind, rfl, set, -⟩ := untouched
  rw [set, List.length_append, List.length_cons]
  exact Nat.lt_add_of_pos_right (Nat.succ_pos _)

theorem untouched_concat :
    Untouched timeout began (acts ++ [last]) alarm ↔
      last = .arm alarm.item ∧
          alarm = ⟨momentAfter began acts + timeout, acts.length, alarm.item⟩ ∨
        Untouched timeout began acts alarm ∧ last.concerns alarm.item = false := by
  constructor
  · rintro ⟨before, behind, whole, set, spared⟩
    rcases behind.eq_nil_or_concat with rfl | ⟨front, final, rfl⟩
    · obtain ⟨rfl, same⟩ := List.append_inj' whole rfl
      exact .inl ⟨List.singleton_inj.mp same, set⟩
    · rw [List.concat_eq_append, ← List.cons_append, ← List.append_assoc] at whole
      obtain ⟨rfl, same⟩ := List.append_inj' whole rfl
      obtain rfl := List.singleton_inj.mp same
      exact .inr ⟨⟨before, front, rfl, set, fun act member => spared act (by simp [member])⟩,
        spared last (by simp)⟩
  · rintro (⟨rfl, set⟩ | ⟨⟨before, behind, rfl, set, spared⟩, unconcerned⟩)
    · exact ⟨acts, [], rfl, set, fun _ member => absurd member List.not_mem_nil⟩
    · refine ⟨before, behind ++ [last], by simp, set, fun act member => ?_⟩
      rcases List.mem_append.mp member with member | member
      · exact spared act member
      · rwa [List.mem_singleton.mp member]

theorem hasCome_concat :
    HasCome timeout began (acts ++ [last]) alarm ↔ HasCome timeout began acts alarm ∨
      Untouched timeout began (acts ++ [last]) alarm ∧
        alarm.due ≤ momentAfter began (acts ++ [last]) := by
  simp only [HasCome, List.prefix_concat_iff]
  constructor
  · rintro ⟨course, rfl | early, reached⟩
    · exact .inr reached
    · exact .inl ⟨course, early, reached⟩
  · rintro (⟨course, early, reached⟩ | reached)
    · exact ⟨course, .inr early, reached⟩
    · exact ⟨_, .inl rfl, reached⟩

theorem Untouched.hasCome_iff (untouched : Untouched timeout began acts alarm) :
    HasCome timeout began acts alarm ↔ alarm.due ≤ momentAfter began acts := by
  constructor
  · rintro ⟨course, early, -, reached⟩
    exact reached.trans (momentAfter_le_of_early early)
  · intro reached
    exact ⟨acts, List.prefix_rfl, untouched, reached⟩

theorem hasCome_concat_of_still (positive : 1 ≤ timeout)
    (still : last.timeAfter (momentAfter began acts) = momentAfter began acts) :
    HasCome timeout began (acts ++ [last]) alarm ↔ HasCome timeout began acts alarm := by
  rw [hasCome_concat, untouched_concat, momentAfter_concat, still, or_iff_left_iff_imp]
  rintro ⟨⟨-, new⟩ | ⟨untouched, -⟩, reached⟩
  · have later : momentAfter began acts < momentAfter began acts + timeout :=
      lt_add_of_pos_right _ (by exact_mod_cast positive)
    rw [new] at reached
    exact absurd reached (not_le.mpr later)
  · exact untouched.hasCome_iff.mpr reached

theorem untouched_passTo {moment : Rat} :
    Untouched timeout began (acts ++ [.passTo moment]) alarm ↔
      Untouched timeout began acts alarm := by
  simp [untouched_concat, AlarmAct.concerns]

theorem hasCome_passTo {moment : Rat} :
    HasCome timeout began (acts ++ [.passTo moment]) alarm ↔ HasCome timeout began acts alarm ∨
      (Untouched timeout began acts alarm ∧ momentAfter began acts < alarm.due) ∧
        alarm.due ≤ momentAfter began (acts ++ [.passTo moment]) := by
  rw [hasCome_concat, untouched_passTo]
  constructor
  · rintro (come | ⟨untouched, reached⟩)
    · exact .inl come
    · rcases le_or_gt alarm.due (momentAfter began acts) with passed | ahead
      · exact .inl (untouched.hasCome_iff.mpr passed)
      · exact .inr ⟨⟨untouched, ahead⟩, reached⟩
  · rintro (come | ⟨⟨untouched, -⟩, reached⟩)
    · exact .inl come
    · exact .inr ⟨untouched, reached⟩

namespace Watch

/-- A watch shows what the acts call for: the alarms that went off have come, those that are set
still will, and all of them are in the order in which they are due. -/
structure Tells (timeout : Nat) (began : Rat) (acts : List AlarmAct) (watch : Watch) : Prop where
  kept : watch.book.IsKept
  delay : watch.book.alarms.delay = timeout
  clock : watch.clock = ⟨momentAfter began acts, acts.length⟩
  fired : ∀ alarm, alarm ∈ watch.fired ↔ HasCome timeout began acts alarm
  set : ∀ alarm, alarm ∈ watch.book.alarms.timers.pending ↔
    Untouched timeout began acts alarm ∧ momentAfter began acts < alarm.due
  ordered : (watch.fired ++ watch.book.alarms.timers.pending).Pairwise fun first second =>
    first.due ≤ second.due ∧ first.stamp < second.stamp

namespace Tells

variable {watch : Watch}

theorem start (inRange : 1 ≤ timeout ∧ timeout ≤ 2147483647) (began : Rat) :
    (Watch.start timeout began).Tells timeout began [] where
  kept := AlarmBook.isKept_ofTimeout _
  delay := Agenda.delay_ofNat inRange
  clock := rfl
  fired alarm := by
    refine ⟨fun member => absurd member List.not_mem_nil, ?_⟩
    rintro ⟨course, early, ⟨before, behind, whole, -⟩, -⟩
    simp [List.prefix_nil.mp early] at whole
  set alarm := by
    refine ⟨fun member => absurd member List.not_mem_nil, ?_⟩
    rintro ⟨⟨before, behind, whole, -⟩, -⟩
    simp at whole
  ordered := .nil

theorem of_fired (tells : watch.Tells timeout began acts) (member : alarm ∈ watch.fired) :
    alarm.due ≤ momentAfter began acts ∧ alarm.stamp < acts.length := by
  obtain ⟨course, early, untouched, reached⟩ := (tells.fired alarm).mp member
  exact ⟨reached.trans (momentAfter_le_of_early early),
    untouched.stamp_lt.trans_le early.length_le⟩

theorem clock_act (tells : watch.Tells timeout began acts) :
    (watch.act last).clock = ⟨momentAfter began (acts ++ [last]), (acts ++ [last]).length⟩ := by
  simp [act, Agenda.Clock.tick, tells.clock, momentAfter_concat]

theorem pending_arm (tells : watch.Tells timeout began acts) (device : Device) :
    (watch.book.alarms.arm watch.clock device).timers.pending =
      (watch.book.alarms.timers.pending.filter fun alarm => !alarm.item == device) ++
        [⟨momentAfter began acts + timeout, acts.length, device⟩] := by
  have new : (⟨watch.clock.now + watch.book.alarms.delay, watch.clock.stamp, device⟩ :
      Agenda.Pending Device) = ⟨momentAfter began acts + timeout, acts.length, device⟩ := by
    rw [tells.clock, tells.delay]
  rw [← new]
  refine Agenda.Timers.insert_of_le fun alarm member => ?_
  obtain ⟨untouched, -⟩ := (tells.set alarm).mp (List.mem_of_mem_filter member)
  exact untouched.due_le.trans_eq (congrArg Agenda.Pending.due new).symm

theorem arm (tells : watch.Tells timeout began acts) (positive : 1 ≤ timeout) (device : Device) :
    (watch.act (.arm device)).Tells timeout began (acts ++ [.arm device]) := by
  obtain ⟨kept, alarms⟩ := tells.kept.arm_spec watch.clock device
  have pending := (congrArg (fun alarms : Alarms => alarms.timers.pending) alarms).trans
    (tells.pending_arm device)
  have silent : (watch.act (.arm device)).fired = watch.fired := List.append_nil _
  have later : momentAfter began acts < momentAfter began acts + timeout :=
    lt_add_of_pos_right _ (by exact_mod_cast positive)
  refine ⟨kept, (congrArg Alarms.delay alarms).trans tells.delay, tells.clock_act,
    fun alarm => ?_, fun alarm => ?_, ?_⟩
  · rw [hasCome_concat_of_still positive rfl, silent, tells.fired]
  · show alarm ∈ (watch.book.arm watch.clock device).alarms.timers.pending ↔ _
    rw [pending, List.mem_append, List.mem_filter, tells.set, List.mem_singleton,
      untouched_concat, momentAfter_concat]
    constructor
    · rintro (⟨⟨untouched, ahead⟩, other⟩ | rfl)
      · exact ⟨.inr ⟨untouched, by simpa [AlarmAct.concerns] using other⟩, ahead⟩
      · exact ⟨.inl ⟨rfl, rfl⟩, later⟩
    · rintro ⟨⟨same, new⟩ | ⟨untouched, other⟩, ahead⟩
      · obtain rfl := AlarmAct.arm.inj same
        exact .inr new
      · exact .inl ⟨⟨untouched, ahead⟩, by simpa [AlarmAct.concerns] using other⟩
  · rw [silent]
    show (_ ++ (watch.book.arm watch.clock device).alarms.timers.pending).Pairwise _
    rw [pending, ← List.append_assoc]
    refine List.pairwise_append.mpr ⟨tells.ordered.sublist (List.filter_sublist.append_left _),
      List.pairwise_singleton .., fun alarm earlier new only => ?_⟩
    rw [List.mem_singleton.mp only]
    rcases List.mem_append.mp earlier with fired | set
    · obtain ⟨due, stamp⟩ := tells.of_fired fired
      exact ⟨due.trans later.le, stamp⟩
    · obtain ⟨untouched, -⟩ := (tells.set alarm).mp (List.mem_of_mem_filter set)
      exact ⟨untouched.due_le, untouched.stamp_lt⟩

theorem remove (tells : watch.Tells timeout began acts) (positive : 1 ≤ timeout)
    (still : ∀ now, last.timeAfter now = now) (other : ∀ device, last ≠ .arm device)
    {book : AlarmBook} (changed : change watch.book watch.clock last = ([], book))
    (kept : book.IsKept) (delay : book.alarms.delay = watch.book.alarms.delay)
    (left : book.alarms.timers.pending =
      watch.book.alarms.timers.pending.filter fun alarm => !last.concerns alarm.item) :
    (watch.act last).Tells timeout began (acts ++ [last]) := by
  have after : (watch.act last).book = book := congrArg Prod.snd changed
  have silent : (watch.act last).fired = watch.fired := by
    rw [act, changed, List.append_nil]
  rw [← after] at kept delay left
  refine ⟨kept, delay.trans tells.delay, tells.clock_act, fun alarm => ?_, fun alarm => ?_, ?_⟩
  · rw [hasCome_concat_of_still positive (still _), silent, tells.fired]
  · rw [left, List.mem_filter, tells.set, untouched_concat, momentAfter_concat, still]
    simp [other, and_right_comm]
  · rw [left, silent]
    exact tells.ordered.sublist (List.filter_sublist.append_left _)

theorem passTo (tells : watch.Tells timeout began acts) (moment : Rat) :
    (watch.act (.passTo moment)).Tells timeout began (acts ++ [.passTo moment]) := by
  obtain ⟨kept, fired, alarms⟩ := tells.kept.goOff_spec (max watch.clock.now moment)
  have ordered : watch.book.alarms.timers.pending.Pairwise fun first second =>
      first.due ≤ second.due :=
    (List.pairwise_append.mp tells.ordered).2.1.imp And.left
  have now : max watch.clock.now moment = momentAfter began (acts ++ [.passTo moment]) := by
    rw [momentAfter_concat, tells.clock]
    rfl
  have sooner : momentAfter began acts ≤ momentAfter began (acts ++ [.passTo moment]) :=
    momentAfter_le_of_early (List.prefix_append ..)
  refine ⟨kept, (congrArg Alarms.delay alarms).trans tells.delay, tells.clock_act,
    fun alarm => ?_, fun alarm => ?_, ?_⟩
  · show alarm ∈ watch.fired ++ (watch.book.goOff (max watch.clock.now moment)).1 ↔ _
    rw [List.mem_append, fired, now, Alarms.goOff, Agenda.Timers.mem_takeWhile_iff ordered,
      tells.fired, tells.set, hasCome_passTo]
  · show alarm ∈ (watch.book.goOff (max watch.clock.now moment)).2.alarms.timers.pending ↔ _
    rw [alarms, now, Alarms.goOff, Agenda.Timers.mem_dropWhile_iff ordered, tells.set,
      untouched_passTo]
    exact ⟨fun left => ⟨left.1.1, left.2⟩, fun left => ⟨⟨left.1, sooner.trans_lt left.2⟩, left.2⟩⟩
  · show (watch.fired ++ (watch.book.goOff (max watch.clock.now moment)).1 ++
      (watch.book.goOff (max watch.clock.now moment)).2.alarms.timers.pending).Pairwise _
    -- What goes off and what is left are the alarms that were set, in their order.
    rw [fired, alarms, List.append_assoc, Alarms.goOff, List.takeWhile_append_dropWhile]
    exact tells.ordered

theorem next (tells : watch.Tells timeout began acts) (positive : 1 ≤ timeout)
    (last : AlarmAct) : (watch.act last).Tells timeout began (acts ++ [last]) := by
  cases last with
  | arm device => exact tells.arm positive device
  | disarm device =>
      obtain ⟨-, kept, alarms, -⟩ := tells.kept.disarm_spec device
      refine tells.remove positive (fun _ => rfl) (fun _ => by simp) rfl kept
        ((congrArg Alarms.delay alarms).trans rfl) ?_
      rw [alarms]
      rfl
  | disarmAll =>
      obtain ⟨kept, alarms⟩ := tells.kept.disarmAll_spec
      refine tells.remove positive (fun _ => rfl) (fun _ => by simp) rfl kept
        ((congrArg Alarms.delay alarms).trans rfl) ?_
      rw [alarms]
      simp [AlarmAct.concerns, Alarms.disarmAll, Agenda.Timers.none]
  | passTo moment => exact tells.passTo moment

theorem during (inRange : 1 ≤ timeout ∧ timeout ≤ 2147483647) (began : Rat)
    (acts : List AlarmAct) : (Watch.during timeout began acts).Tells timeout began acts := by
  induction acts using List.reverseRecOn with
  | nil => exact Tells.start inRange began
  | append_singleton acts last induction =>
      rw [Watch.during, List.foldl_concat]
      exact induction.next inRange.1 last

theorem isArmed_iff (tells : watch.Tells timeout began acts) (device : Device) :
    watch.book.isArmed device = true ↔ ∃ alarm : Agenda.Pending Device,
      alarm.item = device ∧ Untouched timeout began acts alarm ∧ alarm ∉ watch.fired := by
  rw [tells.kept.isArmed_eq, Alarms.isArmed_iff, Alarms.devices, List.mem_map]
  constructor
  · rintro ⟨alarm, set, item⟩
    obtain ⟨untouched, ahead⟩ := (tells.set alarm).mp set
    refine ⟨alarm, item, untouched, ?_⟩
    rw [tells.fired, untouched.hasCome_iff]
    exact not_le.mpr ahead
  · rintro ⟨alarm, item, untouched, silent⟩
    rw [tells.fired, untouched.hasCome_iff] at silent
    exact ⟨alarm, (tells.set alarm).mpr ⟨untouched, not_le.mp silent⟩, item⟩

end Tells

end Watch

/-- The alarms that go off are those whose time comes before anything concerns their turnstile
again. They go off in the order in which they are due, each once. A turnstile has an alarm as long
as one that was set for it neither went off nor was removed, and removing it says whether there was
one. -/
theorem alarms_go_off (inRange : 1 ≤ timeout ∧ timeout ≤ 2147483647) (began : Rat)
    (acts : List AlarmAct) :
    (∀ alarm, alarm ∈ (Watch.during timeout began acts).fired ↔
        HasCome timeout began acts alarm) ∧
      ((Watch.during timeout began acts).fired.Pairwise fun first second =>
        first.due ≤ second.due ∧ first.stamp < second.stamp) ∧
      ∀ device,
        ((Watch.during timeout began acts).book.isArmed device = true ↔
          ∃ alarm : Agenda.Pending Device, alarm.item = device ∧
            Untouched timeout began acts alarm ∧
            alarm ∉ (Watch.during timeout began acts).fired) ∧
        ((Watch.during timeout began acts).book.disarm device).1 =
          (Watch.during timeout began acts).book.isArmed device := by
  have tells := Watch.Tells.during inRange began acts
  refine ⟨tells.fired, (List.pairwise_append.mp tells.ordered).1, fun device => ?_⟩
  exact ⟨tells.isArmed_iff device, (tells.kept.disarm_spec device).1⟩

def leftReader : Device := ⟨2, by decide⟩

def rightReader : Device := ⟨3, by decide⟩

/-- The first alarm is replaced and the second is removed before they are due. At the end an alarm
is set anew. -/
def disturbed : List AlarmAct :=
  [.arm leftReader, .passTo 600, .arm leftReader, .arm rightReader, .passTo 1000,
    .disarm rightReader, .passTo 1600, .arm rightReader]

theorem alarms_go_off_of_disturbed :
    (1 ≤ 1000 ∧ 1000 ≤ 2147483647) ∧
      (Watch.during 1000 0 disturbed).fired = [⟨1600, 2, leftReader⟩] ∧
      HasCome 1000 0 disturbed ⟨1600, 2, leftReader⟩ ∧
      ¬HasCome 1000 0 disturbed ⟨1000, 0, leftReader⟩ ∧
      ¬HasCome 1000 0 disturbed ⟨1600, 3, rightReader⟩ ∧
      ∃ alarm : Agenda.Pending Device, alarm.item = rightReader ∧
        Untouched 1000 0 disturbed alarm ∧ alarm ∉ (Watch.during 1000 0 disturbed).fired := by
  have inRange : 1 ≤ 1000 ∧ 1000 ≤ 2147483647 := by decide
  obtain ⟨fired, -, armed⟩ := alarms_go_off inRange 0 disturbed
  have only : (Watch.during 1000 0 disturbed).fired = [⟨1600, 2, leftReader⟩] := by
    decide +kernel
  refine ⟨inRange, only, ?_, ?_, ?_, (armed rightReader).1.mp (by decide +kernel)⟩
  · rw [← fired, only]
    exact List.mem_singleton_self _
  · rw [← fired, only]
    decide +kernel
  · rw [← fired, only]
    decide +kernel

end Gatehouse.Turnstile
