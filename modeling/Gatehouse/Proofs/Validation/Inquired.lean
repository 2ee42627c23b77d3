import Gatehouse.Proofs.Validation.Inquiring

/-!
# What a single call does to the inquest
-/

namespace Gatehouse.Validation

open Gatehouse.Access Gatehouse.Authority Gatehouse.Register

def Inquest.put (inquest : Inquest) (ready : List Job) (outcome : Desk × Agenda.Line Job)
    (fresh : List Incident) : Inquest :=
  ⟨{ inquest.scene with pool := ⟨outcome.1, ready ++ outcome.2.map Prod.snd⟩ },
    inquest.seen ++ fresh⟩

namespace Inquest

variable (inquest : Inquest) (ready : List Job) (outcome : Desk × Agenda.Line Job)
  (fresh : List Incident)

@[simp] theorem put_desk : (inquest.put ready outcome fresh).desk = outcome.1 :=
  rfl

@[simp] theorem put_ready :
    (inquest.put ready outcome fresh).ready = ready ++ outcome.2.map Prod.snd :=
  rfl

@[simp] theorem put_seen : (inquest.put ready outcome fresh).seen = inquest.seen ++ fresh :=
  rfl

end Inquest

/-- What is known of a call, its place in the line of a lock and its jobs apart, stays as it was. -/
structure Inquest.Spares (before after : Inquest) (id : CallId) : Prop where
  request : after.scene.requests[id]? = before.scene.requests[id]?
  call : after.desk.call? id = before.desk.call? id
  seen : after.promptOf id = before.promptOf id
  alarms : alarmsOf id after.desk.timers = alarmsOf id before.desk.timers
  results : after.desk.resultsOf id = before.desk.resultsOf id

section

variable {settings : Online.Settings} {retries : Nat} {inquest after : Inquest}
  {id other : CallId} {call : Call}

theorem Situation.spared {line line' : Reference → List CallId} {jobs jobs' : List Job}
    (spares : inquest.Spares after id)
    (situation : Situation settings retries id line inquest.scene.requests[id]?
      (inquest.desk.call? id) (inquest.promptOf id) jobs (alarmsOf id inquest.desk.timers)
      (inquest.desk.resultsOf id))
    (live : ∀ call seen alarms, inquest.desk.call? id = some call →
      Stands settings retries id call (line call.locked) seen jobs alarms →
      Stands settings retries id call (line' call.locked) seen jobs' alarms)
    (gone : inquest.desk.call? id = none → jobs' = jobs) :
    Situation settings retries id line' after.scene.requests[id]? (after.desk.call? id)
      (after.promptOf id) jobs' (alarmsOf id after.desk.timers) (after.desk.resultsOf id) := by
  rw [spares.request, spares.call, spares.seen, spares.alarms, spares.results]
  generalize inquest.desk.call? id = known at *
  generalize inquest.scene.requests[id]? = asked at *
  generalize inquest.promptOf id = seen at *
  generalize alarmsOf id inquest.desk.timers = alarms at *
  generalize inquest.desk.resultsOf id = results at *
  cases situation with
  | unknown => exact gone rfl ▸ .unknown
  | live stands => exact .live (live _ _ _ rfl stands)
  | ended course => exact gone rfl ▸ .ended course

theorem Inquired.act (inquired : Inquired settings retries inquest) (id : CallId)
    (remote : after.desk.remote = inquest.desk.remote)
    (locks : after.desk.locks = inquest.desk.locks)
    (spares : ∀ other, other ≠ id → inquest.Spares after other)
    (duties : ∀ other, other ≠ id → dutiesOf other after.ready = dutiesOf other inquest.ready)
    (waits : ∀ key, id ∈ inquest.desk.locks.line key →
      ∃ call, after.desk.call? id = some call ∧ call.locked = key)
    (begun : ∀ attempt ∈ awaited after.ready after.desk.timers,
      ∃ request, .asked attempt.1 attempt.2 request ∈ after.seen)
    (situation : Situation settings retries id inquest.desk.locks.line after.scene.requests[id]?
      (after.desk.call? id) (after.promptOf id) (dutiesOf id after.ready)
      (alarmsOf id after.desk.timers) (after.desk.resultsOf id)) :
    Inquired settings retries after where
  remote := remote ▸ inquired.remote
  sound := locks ▸ inquired.sound
  single := locks ▸ inquired.single
  waiting key other member := by
    rw [locks] at member
    by_cases same : other = id
    · exact same ▸ waits key (same ▸ member)
    · rw [(spares other same).call]
      exact inquired.waiting key other member
  situation other := by
    rw [locks]
    by_cases same : other = id
    · exact same ▸ situation
    · rw [duties other same]
      exact (inquired.situation other).spared (spares other same)
        (fun _ _ _ _ stands => stands) fun _ => rfl
  begun := begun

/-- A call that has not ended stands only in the line of the lock that it asked for. -/
theorem Inquired.locked_eq (inquired : Inquired settings retries inquest)
    (live : inquest.desk.call? id = some call) (key : Reference)
    (member : id ∈ inquest.desk.locks.line key) : call.locked = key := by
  rcases inquired.waiting key id member with ⟨known, same, locked⟩
  cases live.symm.trans same
  exact locked

theorem Stands.joined {line : List CallId} {seen : List Incident} {jobs : List Job}
    {alarms : List Alarm} (stands : Stands settings retries id call line seen jobs alarms)
    (different : id ≠ other) :
    Stands settings retries id call (line ++ [other]) seen jobs alarms := by
  cases stands with
  | inquires away stage inquiring =>
      refine .inquires ?_ stage inquiring
      simp [away, different]
  | referred fails count last stage walking =>
      exact .referred fails count last stage (walking.joined different)

theorem Stands.left {holder : CallId} {rest : List CallId} {seen : List Incident}
    {jobs : List Job} {alarms : List Alarm}
    (stands : Stands settings retries id call (holder :: rest) seen jobs alarms)
    (different : holder ≠ id) :
    Stands settings retries id call rest seen
      (jobs ++ if rest.head? = some id then [.enter id] else []) alarms := by
  cases stands with
  | inquires away stage inquiring =>
      have nowhere : id ∉ rest := fun member => away (List.mem_cons_of_mem _ member)
      rw [if_neg fun first => nowhere (List.mem_of_head? first), List.append_nil]
      exact .inquires nowhere stage inquiring
  | @referred fates fault jobs fails count last stage walking =>
      have silent : (jobs ++ if rest.head? = some id then [Job.enter id] else []).filterMap
          Job.advice? = jobs.filterMap Job.advice? := by
        rw [List.filterMap_append]
        split <;> exact List.append_nil _
      rw [← silent]
      exact .referred fails count last stage (walking.left different)

theorem Inquired.joins (inquired : Inquired settings retries inquest) (user : Reference)
    (remote : after.desk.remote = inquest.desk.remote)
    (locks : after.desk.locks = (inquest.desk.locks.acquire user id).1)
    (spares : ∀ other, other ≠ id → inquest.Spares after other)
    (duties : ∀ other, other ≠ id → dutiesOf other after.ready = dutiesOf other inquest.ready)
    (away : ∀ key, id ∉ inquest.desk.locks.line key)
    (joined : after.desk.call? id = some call) (locked : call.locked = user)
    (begun : ∀ attempt ∈ awaited after.ready after.desk.timers,
      ∃ request, .asked attempt.1 attempt.2 request ∈ after.seen)
    (situation : Situation settings retries id after.desk.locks.line after.scene.requests[id]?
      (after.desk.call? id) (after.promptOf id) (dutiesOf id after.ready)
      (alarmsOf id after.desk.timers) (after.desk.resultsOf id)) :
    Inquired settings retries after := by
  have line (key : Reference) : after.desk.locks.line key =
      if key = user then inquest.desk.locks.line user ++ [id]
      else inquest.desk.locks.line key := by
    rw [locks]
    exact Lock.line_acquire inquired.sound user key id
  constructor
  case remote => exact remote ▸ inquired.remote
  case sound => exact locks ▸ inquired.sound.acquire user id
  case single => exact locks ▸ Lock.nodup_acquire inquired.sound inquired.single (away _)
  case waiting =>
    intro key other member
    rw [line key] at member
    by_cases same : other = id
    · subst same
      split at member
      · next equal => exact ⟨call, joined, locked.trans equal.symm⟩
      · exact absurd member (away key)
    · rw [(spares other same).call]
      refine inquired.waiting key other ?_
      split at member
      · next equal =>
          rcases List.mem_append.mp member with old | new
          · exact equal ▸ old
          · exact absurd (List.mem_singleton.mp new) same
      · exact member
  case situation =>
    intro other
    by_cases same : other = id
    · exact same ▸ situation
    · rw [duties other same]
      refine (inquired.situation other).spared (spares other same) ?_ fun _ => rfl
      intro known seen alarms _ stands
      rw [line]
      split
      · next equal => exact (equal ▸ stands).joined same
      · exact stands
  case begun => exact begun

theorem Inquired.leaves (inquired : Inquired settings retries inquest)
    (live : inquest.desk.call? id = some call) {behind : List CallId}
    (front : inquest.desk.locks.line call.locked = id :: behind)
    (remote : after.desk.remote = inquest.desk.remote)
    (locks : after.desk.locks = (inquest.desk.locks.release call.locked).1)
    (spares : ∀ other, other ≠ id → inquest.Spares after other)
    (still : after.desk.call? id = some call)
    (duties : ∀ other, other ≠ id → dutiesOf other after.ready =
      dutiesOf other inquest.ready ++ if behind.head? = some other then [.enter other] else [])
    (begun : ∀ attempt ∈ awaited after.ready after.desk.timers,
      ∃ request, .asked attempt.1 attempt.2 request ∈ after.seen)
    (situation : id ∉ behind → behind = after.desk.locks.line call.locked →
      Situation settings retries id after.desk.locks.line after.scene.requests[id]?
        (after.desk.call? id) (after.promptOf id) (dutiesOf id after.ready)
        (alarmsOf id after.desk.timers) (after.desk.resultsOf id)) :
    Inquired settings retries after := by
  have lines (key : Reference) : after.desk.locks.line key =
      if key = call.locked then behind else inquest.desk.locks.line key := by
    rw [locks, Lock.line_release inquired.sound call.locked key, front]
    rfl
  have distinct : id ∉ behind := by
    have := inquired.single call.locked
    rw [front] at this
    exact (List.nodup_cons.mp this).1
  have waits {other : CallId} (next : behind.head? = some other) :
      ∃ known, inquest.desk.call? other = some known ∧ known.locked = call.locked := by
    refine inquired.waiting _ other ?_
    rw [front]
    exact List.mem_cons_of_mem id (List.mem_of_head? next)
  constructor
  case remote => exact remote ▸ inquired.remote
  case sound => exact locks ▸ inquired.sound.release call.locked
  case single => exact locks ▸ Lock.nodup_release inquired.sound inquired.single call.locked
  case waiting =>
    intro key other member
    rw [lines key] at member
    have before : other ∈ inquest.desk.locks.line key := by
      split at member
      · next same => exact same ▸ front ▸ List.mem_cons_of_mem id member
      · exact member
    by_cases same : other = id
    · subst same
      exact ⟨call, still, inquired.locked_eq live key before⟩
    · rw [(spares other same).call]
      exact inquired.waiting key other before
  case situation =>
    intro other
    by_cases same : other = id
    · exact same ▸ situation distinct ((lines call.locked).trans (if_pos rfl)).symm
    · rw [duties other same]
      refine (inquired.situation other).spared (spares other same) ?_ fun gone => ?_
      · intro known seen alarms known_live stands
        rw [lines]
        split
        · next equal =>
            rw [equal, front] at stands
            exact stands.left (Ne.symm same)
        · next different =>
            have elsewhere : behind.head? ≠ some other := fun next => by
              rcases waits next with ⟨found, found_live, locked⟩
              cases known_live.symm.trans found_live
              exact different locked
            rw [if_neg elsewhere, List.append_nil]
            exact stands
      · have nowhere : behind.head? ≠ some other := fun next => by
          rcases waits next with ⟨found, found_live, -⟩
          cases gone.symm.trans found_live
        rw [if_neg nowhere, List.append_nil]
  case begun => exact begun

theorem Stands.jobs_eq_of_mem {line : List CallId} {seen : List Incident} {jobs : List Job}
    {alarms : List Alarm} (stands : Stands settings retries id call line seen jobs alarms)
    {job : Job} (member : job ∈ jobs) : jobs = [job] := by
  cases stands with
  | inquires away stage inquiring => cases inquiring <;> simp_all
  | referred fails count last stage walking => exact walking.jobs_eq_of_mem member

structure Live (settings : Online.Settings) (retries : Nat) (inquest : Inquest) (id : CallId)
    (call : Call) (jobs : List Job) : Prop where
  live : inquest.desk.call? id = some call
  request : inquest.scene.requests[id]? = some call.request
  results : inquest.desk.resultsOf id = []
  stands : Stands settings retries id call (inquest.desk.locks.line call.locked)
    (inquest.promptOf id) jobs (alarmsOf id inquest.desk.timers)

structure Left (id : CallId) (ready rest : List Job) : Prop where
  sublist : rest.Sublist ready
  mine : dutiesOf id rest = []
  others : ∀ other, other ≠ id → dutiesOf other rest = dutiesOf other ready

theorem Situation.live_of_busy {line : Reference → List CallId} {asked : Option Request}
    {known : Option Call} {seen : List Incident} {jobs : List Job} {alarms : List Alarm}
    {results : List Result}
    (situation : Situation settings retries id line asked known seen jobs alarms results)
    (busy : jobs ≠ [] ∨ alarms ≠ []) :
    ∃ call, known = some call ∧ asked = some call.request ∧ results = [] ∧
      Stands settings retries id call (line call.locked) seen jobs alarms := by
  cases situation with
  | unknown => simp at busy
  | live stands => exact ⟨_, rfl, rfl, rfl, stands⟩
  | ended course => simp at busy

theorem Inquired.live (inquired : Inquired settings retries inquest)
    (busy : dutiesOf id inquest.ready ≠ [] ∨ alarmsOf id inquest.desk.timers ≠ []) :
    ∃ call, Live settings retries inquest id call (dutiesOf id inquest.ready) := by
  rcases (inquired.situation id).live_of_busy busy with ⟨call, live, request, results, stands⟩
  exact ⟨call, live, request, results, stands⟩

theorem Inquired.on_duty (inquired : Inquired settings retries inquest) {front back : List Job}
    {job : Job} (whole : inquest.ready = front ++ job :: back) (mine : job.duty? = some id) :
    ∃ call, Live settings retries inquest id call [job] ∧
      Left id inquest.ready (front ++ back) := by
  have member : job ∈ dutiesOf id inquest.ready :=
    Agenda.mem_owned.mpr ⟨whole ▸ List.mem_append_right front List.mem_cons_self, mine⟩
  rcases inquired.live (.inl (List.ne_nil_of_mem member)) with ⟨call, live⟩
  have single := live.stands.jobs_eq_of_mem member
  rw [single] at live
  refine ⟨call, live, ?_, ?_, fun other different => ?_⟩
  · rw [whole]
    exact (List.Sublist.refl front).append (List.sublist_cons_self job back)
  · rw [whole] at single
    exact (Agenda.owned_rest_of_single mine single).2
  · rw [whole]
    refine Agenda.owned_rest_of_ne (fun same => different ?_) front back
    exact (Option.some.inj (mine.symm.trans same)).symm

theorem promptOf_put {fresh : List Incident} (mine : ∀ incident ∈ fresh, incident.call = id)
    (ready : List Job) (outcome : Desk × Agenda.Line Job) :
    (inquest.put ready outcome fresh).promptOf id =
      prompt (incidentsOf id inquest.seen ++ fresh) := by
  rw [Inquest.promptOf, Inquest.put_seen, incidentsOf_append, incidentsOf_of_forall mine,
    if_pos rfl]

theorem spares_put (different : other ≠ id) {ready : List Job}
    {outcome : Desk × Agenda.Line Job} {fresh : List Incident}
    (call : outcome.1.call? other = inquest.desk.call? other)
    (alarms : alarmsOf other outcome.1.timers = alarmsOf other inquest.desk.timers)
    (results : outcome.1.resultsOf other = inquest.desk.resultsOf other)
    (mine : ∀ incident ∈ fresh, incident.call = id) :
    inquest.Spares (inquest.put ready outcome fresh) other where
  request := rfl
  call := call
  seen := by
    rw [Inquest.promptOf, Inquest.put_seen, incidentsOf_append, incidentsOf_of_forall mine,
      if_neg different, List.append_nil, Inquest.promptOf]
  alarms := alarms
  results := results

/-- What is not an answer, or was on its way before, keeps to attempts that were begun. -/
theorem Inquired.begun_put (inquired : Inquired settings retries inquest) {ready : List Job}
    {outcome : Desk × Agenda.Line Job} {fresh : List Incident}
    (rest : ready.Sublist inquest.ready)
    (jobs : ∀ entry ∈ outcome.2, ∀ attempt, entry.2.answers? = some attempt →
      ∃ request, .asked attempt.1 attempt.2 request ∈ fresh)
    (timers : ∀ timer ∈ outcome.1.timers.pending, timer ∈ inquest.desk.timers.pending ∨
      ∀ attempt, timer.item.answers? = some attempt →
        ∃ request, .asked attempt.1 attempt.2 request ∈ fresh) :
    ∀ attempt ∈ awaited (inquest.put ready outcome fresh).ready
      (inquest.put ready outcome fresh).desk.timers,
      ∃ request, .asked attempt.1 attempt.2 request ∈ (inquest.put ready outcome fresh).seen := by
  have old (attempt : CallId × Nat)
      (known : attempt ∈ awaited inquest.ready inquest.desk.timers) :
      ∃ request, .asked attempt.1 attempt.2 request ∈ inquest.seen ++ fresh :=
    (inquired.begun attempt known).imp fun request member => List.mem_append_left fresh member
  have new (attempt : CallId × Nat)
      (known : ∃ request, .asked attempt.1 attempt.2 request ∈ fresh) :
      ∃ request, .asked attempt.1 attempt.2 request ∈ inquest.seen ++ fresh :=
    known.imp fun request member => List.mem_append_right inquest.seen member
  intro attempt member
  rcases mem_awaited.mp member with ⟨job, present, answers⟩ | ⟨timer, present, answers⟩
  · rcases List.mem_append.mp present with before | added
    · exact old attempt (mem_awaited.mpr (.inl ⟨job, rest.subset before, answers⟩))
    · rcases List.mem_map.mp added with ⟨entry, among, rfl⟩
      exact new attempt (jobs entry among attempt answers)
  · rcases timers timer present with before | added
    · exact old attempt (mem_awaited.mpr (.inr ⟨timer, before, answers⟩))
    · exact new attempt (added attempt answers)

theorem Inquired.goesOn (inquired : Inquired settings retries inquest) {jobs ready : List Job}
    (known : Live settings retries inquest id call jobs) (left : Left id inquest.ready ready)
    {outcome : Desk × Agenda.Line Job} {fresh : List Incident} (next : Call)
    (mine : ∀ incident ∈ fresh, incident.call = id)
    (remote : outcome.1.remote = inquest.desk.remote)
    (locks : outcome.1.locks = inquest.desk.locks)
    (outcomes : outcome.1.outcomes = inquest.desk.outcomes)
    (calls : ∀ other, outcome.1.call? other =
      if other = id then some next else inquest.desk.call? other)
    (request : next.request = call.request) (locked : next.locked = call.locked)
    (alarms : ∀ other, other ≠ id →
      alarmsOf other outcome.1.timers = alarmsOf other inquest.desk.timers)
    (others : ∀ other, other ≠ id → dutiesOf other (outcome.2.map Prod.snd) = [])
    (begun : ∀ attempt ∈ awaited (inquest.put ready outcome fresh).ready
      (inquest.put ready outcome fresh).desk.timers,
      ∃ request, .asked attempt.1 attempt.2 request ∈ (inquest.put ready outcome fresh).seen)
    (stands : Stands settings retries id next (inquest.desk.locks.line next.locked)
      (prompt (incidentsOf id inquest.seen ++ fresh)) (dutiesOf id (outcome.2.map Prod.snd))
      (alarmsOf id outcome.1.timers)) :
    Inquired settings retries (inquest.put ready outcome fresh) := by
  have results (other : CallId) : outcome.1.resultsOf other = inquest.desk.resultsOf other := by
    rw [Desk.resultsOf, outcomes]
    rfl
  refine inquired.act id remote locks (fun other different => ?spares)
    (fun other different => ?duties) (fun key member => ?waits) begun ?situation
  case spares =>
    refine spares_put different ?_ (alarms other different) (results other) mine
    rw [calls other, if_neg different]
  case duties =>
    rw [Inquest.put_ready, dutiesOf_append, others other different, List.append_nil,
      left.others other different]
  case waits =>
    refine ⟨next, (calls id).trans (if_pos rfl), locked.trans ?_⟩
    exact inquired.locked_eq known.live key member
  case situation =>
    have duties : dutiesOf id (inquest.put ready outcome fresh).ready =
        dutiesOf id (outcome.2.map Prod.snd) := by
      rw [Inquest.put_ready, dutiesOf_append, left.mine, List.nil_append]
    have live : (inquest.put ready outcome fresh).desk.call? id = some next :=
      (calls id).trans (if_pos rfl)
    have brought : (inquest.put ready outcome fresh).scene.requests[id]? = some next.request :=
      known.request.trans (congrArg some request.symm)
    have none_yet : (inquest.put ready outcome fresh).desk.resultsOf id = [] :=
      (results id).trans known.results
    rw [live, brought, none_yet, duties, promptOf_put mine]
    exact .live stands

end

end Gatehouse.Validation
