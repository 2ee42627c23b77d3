import Gatehouse.Proofs.Validation.Referred

/-!
# An inquest goes on

Every beat keeps what holds of an inquest (`Inquired.play`), so it holds after any beats from a desk
without calls (`Inquired.start`, `Inquired.playAll`).
-/

namespace Gatehouse.Validation

open Gatehouse.Access Gatehouse.Authority Gatehouse.Register

theorem Online.allows_ofNumbers (timeout pause : Number) (retries failed : Nat) :
    (Online.Settings.ofNumbers timeout (.ofNat retries) pause).allows failed =
      decide (failed ≤ retries) := by
  have whole : ((retries : Rat)).floor = retries := by
    exact_mod_cast Rat.floor_intCast (retries : Int)
  -- Rounding down and the bound from below leave a whole number as it is.
  have kept : Number.max (.finite 0) (Number.ofNat retries).floor = .ofNat retries := by
    rcases Nat.eq_zero_or_pos retries with rfl | positive
    · simpa [Number.ofNat, Number.floor, Number.max] using fun _ => whole
    · simp [Number.ofNat, Number.floor, Number.max, whole, positive]
  show (Number.ofNat failed).le (Number.max (.finite 0) (Number.ofNat retries).floor) = _
  rw [kept, Bool.eq_iff_iff]
  simp [Number.ofNat, Number.le]

section

variable {settings : Online.Settings} {retries : Nat} {inquest : Inquest} {id : CallId}

theorem Inquired.start (remote : Remote) (fallback : Local) (offline : Offline.Settings)
    (store : Store) :
    Inquired settings retries
      (.start (.start (some (remote, settings)) fallback offline store)) where
  remote := ⟨remote, rfl⟩
  sound := Lock.sound_free
  single _ := List.nodup_nil
  waiting _ _ member := nomatch member
  situation _ := .unknown
  begun _ member := nomatch member

theorem Inquired.answered (inquired : Inquired settings retries inquest) {front back : List Job}
    {attempt : Nat} {result : Except Fault Verdict}
    (whole : inquest.ready = front ++ .answered id attempt result :: back)
    (clock : Agenda.Clock) :
    Inquired settings retries (inquest.put (front ++ back)
      (inquest.desk.hear clock id attempt result) [.heard id attempt result]) := by
  have fewer : (front ++ back).Sublist inquest.ready :=
    whole ▸ (List.Sublist.refl front).append (List.sublist_cons_self _ back)
  have here : Job.answered id attempt result ∈ inquest.ready :=
    whole ▸ List.mem_append_right front List.mem_cons_self
  rcases inquired.begun (id, attempt) (mem_awaited.mpr (.inl ⟨_, here, rfl⟩)) with
    ⟨request, begun⟩
  have taken : Inquired settings retries (inquest.put (front ++ back) (inquest.desk, []) []) := by
    refine inquired.take (fun other => ?_) (fun _ => rfl) fun awaits member => ?_
    · rw [whole]
      exact Agenda.owned_rest_of_ne (by simp [Job.duty?]) front back
    · rcases mem_awaited.mp member with ⟨job, present, answers⟩ | timed
      · exact mem_awaited.mpr (.inl ⟨job, fewer.subset present, answers⟩)
      · exact mem_awaited.mpr (.inr timed)
  have heard := taken.hear (List.mem_append_left [] begun) clock result
  simpa [Inquest.put, Inquest.ready, Scene.ready, Inquest.desk, Scene.desk] using heard

theorem Inquired.arrive (inquired : Inquired settings retries inquest) {due : Rat} {stamp : Nat}
    {attempt : Nat} {result : Except Fault Verdict}
    (next : inquest.desk.timers.next? = some ⟨due, stamp, .answer id attempt result⟩)
    (clock : Agenda.Clock) :
    Inquired settings retries (inquest.put inquest.ready
      (inquest.desk.ring clock (.answer id attempt result)) [.heard id attempt result]) := by
  have here : ⟨due, stamp, .answer id attempt result⟩ ∈ inquest.desk.timers.pending :=
    List.mem_of_head? next
  rcases inquired.begun (id, attempt) (mem_awaited.mpr (.inr ⟨_, here, rfl⟩)) with
    ⟨request, begun⟩
  have taken : Inquired settings retries (inquest.put inquest.ready
      ({ inquest.desk with timers := inquest.desk.timers.rest }, []) []) := by
    refine inquired.take (fun _ => rfl) (fun other => ?_) fun awaits member => ?_
    · rw [alarmsOf_rest next, if_neg (by simp [Alarm.duty?])]
      rfl
    · rcases mem_awaited.mp member with ready | ⟨timer, pending, answers⟩
      · exact mem_awaited.mpr (.inl ready)
      · exact mem_awaited.mpr (.inr ⟨timer, List.mem_of_mem_tail pending, answers⟩)
  have heard := taken.hear (List.mem_append_left [] begun) clock result
  simpa [Inquest.put, Inquest.ready, Scene.ready, Inquest.desk, Scene.desk, Desk.ring] using heard

theorem Inquired.work (inquired : Inquired settings retries inquest)
    (allows : ∀ failed, settings.allows failed = decide (failed ≤ retries))
    {front back : List Job} {job : Job} (whole : inquest.ready = front ++ job :: back)
    (clock : Agenda.Clock) :
    Inquired settings retries (inquest.put (front ++ back)
      (Desk.perform clock job inquest.desk) (inquest.desk.incidents clock job)) := by
  cases job with
  | replied id reply =>
      exact inquired.walk whole rfl (fun _ _ _ _ inquiring => nomatch inquiring) rfl clock
  | check id => exact inquired.walk whole rfl (fun _ _ _ _ inquiring => nomatch inquiring) rfl clock
  | enter id => exact inquired.walk whole rfl (fun _ _ _ _ inquiring => nomatch inquiring) rfl clock
  | leave id outcome => exact inquired.departs whole clock
  | ask id attempt => exact inquired.ask whole clock
  | answered id attempt result => exact inquired.answered whole clock
  | recover id attempt fault => exact inquired.recovers whole allows clock
  | resume id attempt => exact inquired.resume whole clock
  | outcome id outcome => exact inquired.closes whole clock

theorem Inquest.play_work_of_ready {job : Job} {place : Nat}
    (found : inquest.ready[place]? = some job) (clock : Agenda.Clock) :
    ∃ front back, inquest.ready = front ++ job :: back ∧
      inquest.play (.move (.work clock place)) = inquest.put (front ++ back)
        (Desk.perform clock job inquest.desk) (inquest.desk.incidents clock job) := by
  have known : inquest.scene.pool.ready[place]? = some job := found
  rcases Agenda.Pool.split_at found with ⟨front, back, whole, erased⟩
  have erased : inquest.scene.pool.ready.eraseIdx place = front ++ back := erased
  refine ⟨front, back, whole, ?_⟩
  simp only [play, Scene.beat, Scene.play, Scene.incidents, Agenda.Pool.work, Scene.ready,
    known, erased]
  rfl

theorem Inquest.play_work (inquest : Inquest) (clock : Agenda.Clock) (place : Nat) :
    inquest.play (.move (.work clock place)) = inquest ∨
      ∃ front job back, inquest.ready = front ++ job :: back ∧
        inquest.play (.move (.work clock place)) = inquest.put (front ++ back)
          (Desk.perform clock job inquest.desk) (inquest.desk.incidents clock job) := by
  cases found : inquest.ready[place]? with
  | none =>
      left
      have idle : inquest.scene.pool.ready[place]? = none := found
      simp only [play, Scene.beat, Scene.play, Scene.incidents, Agenda.Pool.work, Scene.ready, idle,
        List.append_nil]
  | some job =>
      rcases Inquest.play_work_of_ready found clock with ⟨front, back, whole, worked⟩
      exact .inr ⟨front, job, back, whole, worked⟩

/-- The timer that may fire is the next one, and no question is to be put before it does. -/
theorem Scene.of_due? {scene : Scene} {alarm : Alarm} (fires : scene.due? = some alarm) :
    (∀ job ∈ scene.ready, job.isAsk = false) ∧
      ∃ due stamp, scene.desk.timers.next? = some ⟨due, stamp, alarm⟩ := by
  simp only [Scene.due?] at fires
  split at fires
  · cases fires
  · next put =>
      rcases Option.map_eq_some_iff.mp fires with ⟨⟨due, stamp, _⟩, next, rfl⟩
      refine ⟨fun job member => ?_, due, stamp, next⟩
      by_contra asks
      exact put (List.any_eq_true.mpr ⟨job, member, by simpa using asks⟩)

theorem Inquest.play_ring_of_due {alarm : Alarm} (fires : inquest.scene.due? = some alarm)
    (clock : Agenda.Clock) :
    inquest.play (.ring clock) =
      inquest.put inquest.ready (inquest.desk.ring clock alarm) alarm.incidents := by
  simp only [play, Scene.beat, Scene.incidents, fires]
  rfl

theorem Inquest.play_ring (inquest : Inquest) (clock : Agenda.Clock) :
    inquest.play (.ring clock) = inquest ∨
      ∃ due stamp alarm, (∀ job ∈ inquest.ready, job.isAsk = false) ∧
        inquest.desk.timers.next? = some ⟨due, stamp, alarm⟩ ∧
        inquest.play (.ring clock) =
          inquest.put inquest.ready (inquest.desk.ring clock alarm) alarm.incidents := by
  cases fires : inquest.scene.due? with
  | none =>
      left
      simp only [play, Scene.beat, Scene.incidents, fires, List.append_nil]
  | some alarm =>
      rcases Scene.of_due? fires with ⟨put, due, stamp, next⟩
      exact .inr ⟨due, stamp, alarm, put, next, Inquest.play_ring_of_due fires clock⟩

theorem Inquired.play (inquired : Inquired settings retries inquest)
    (allows : ∀ failed, settings.allows failed = decide (failed ≤ retries)) (beat : Beat) :
    Inquired settings retries (inquest.play beat) := by
  cases beat with
  | move move =>
      cases move with
      | call clock request => exact inquired.bring clock request
      | work clock place =>
          rcases inquest.play_work clock place with same | ⟨front, job, back, whole, worked⟩
          · rw [same]
            exact inquired
          · rw [worked]
            exact inquired.work allows whole clock
  | ring clock =>
      rcases inquest.play_ring clock with same | ⟨due, stamp, alarm, put, next, rings⟩
      · rw [same]
        exact inquired
      · rw [rings]
        cases alarm with
        | attempt id attempt => exact inquired.expire next put clock
        | pause id attempt => exact inquired.wake next clock
        | answer id attempt result => exact inquired.arrive next clock

theorem Inquired.playAll (inquired : Inquired settings retries inquest)
    (allows : ∀ failed, settings.allows failed = decide (failed ≤ retries)) (beats : List Beat) :
    Inquired settings retries (inquest.playAll beats) := by
  induction beats using List.reverseRecOn with
  | nil => exact inquired
  | append_singleton beats beat induction =>
      rw [Inquest.playAll_concat]
      exact induction.play allows beat

end

end Gatehouse.Validation
