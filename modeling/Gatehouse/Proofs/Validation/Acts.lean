import Gatehouse.Proofs.Validation.Standing

/-!
# What a single call does

How the watch is kept by each kind of act of one call: to put a question to the register, to rest,
to have an outcome, to join the line of a user, to leave it, and to end. Only the question that
enters a record changes the log, and `Written` says what such a record has to be like.
-/

namespace Gatehouse.Validation

open Gatehouse.Access Gatehouse.Register

/-- The log after an act of a call: as it was, or with a record whose time is known, which is a
grant only of the user in whose line the call is first, and which keeps its distance from the
records before. -/
inductive Written (window : Rat) (locks : Lock Reference CallId) (id : CallId)
    (log : List LogRecord) : List LogRecord → Prop
  | nothing : Written window locks id log log
  | entered {record : LogRecord} :
      (∃ millis, record.timestamp = some (.moment millis)) →
      (record.granted = true → (locks.line record.user).head? = some id) →
      (∀ earlier ∈ log, Apart window earlier record) →
      Written window locks id log (log ++ [record])

structure Rest (id : CallId) (ready rest : List Job) : Prop where
  mine : jobsOf id rest = []
  others : ∀ other, other ≠ id → jobsOf other rest = jobsOf other ready

def Scene.put (scene : Scene) (rest : List Job) (outcome : Desk × Agenda.Line Job) : Scene :=
  { scene with pool := ⟨outcome.1, rest ++ outcome.2.map Prod.snd⟩ }

theorem Rest.jobsOf_put {id : CallId} {scene : Scene} {rest : List Job}
    (left : Rest id scene.ready rest) (outcome : Desk × Agenda.Line Job) :
    jobsOf id (scene.put rest outcome).ready = jobsOf id (outcome.2.map Prod.snd) := by
  show jobsOf id (rest ++ _) = _
  rw [jobsOf_append, left.mine, List.nil_append]

theorem Rest.jobsOf_put_other {id other : CallId} {scene : Scene} {rest : List Job}
    (left : Rest id scene.ready rest) (different : other ≠ id)
    (outcome : Desk × Agenda.Line Job) :
    jobsOf other (scene.put rest outcome).ready =
      jobsOf other scene.ready ++ jobsOf other (outcome.2.map Prod.snd) := by
  show jobsOf other (rest ++ _) = _
  rw [jobsOf_append, left.others other different]

theorem Rest.jobsOf_single {id : CallId} {scene : Scene} {rest : List Job}
    (left : Rest id scene.ready rest) (desk : Desk) (rounds : Nat) {job : Job}
    (mine : job.call = id) :
    jobsOf id (scene.put rest (desk, [(rounds, job)])).ready = [job] := by
  subst mine
  rw [left.jobsOf_put, List.map_singleton, jobsOf_singleton, if_pos rfl]

theorem Rest.jobsOf_single_other {id other : CallId} {scene : Scene} {rest : List Job}
    (left : Rest id scene.ready rest) (different : other ≠ id) (desk : Desk) (rounds : Nat)
    {job : Job} (mine : job.call = id) :
    jobsOf other (scene.put rest (desk, [(rounds, job)])).ready = jobsOf other scene.ready := by
  subst mine
  rw [left.jobsOf_put_other different, List.map_singleton, jobsOf_singleton,
    if_neg different.symm, List.append_nil]

/-- A call that leaves its line has its outcome, and the next one in the line may enter. -/
theorem Rest.jobsOf_leave {id : CallId} {ready rest : List Job} (left : Rest id ready rest)
    (next : Option CallId) (outcome : Except Fault Decision) (other : CallId) :
    jobsOf other (rest ++ (next.toList.map .enter ++ [.outcome id outcome])) =
      (if other = id then [] else jobsOf other ready) ++
        ((if next = some other then [.enter other] else []) ++
          if id = other then [.outcome id outcome] else []) := by
  have kept : jobsOf other rest = if other = id then [] else jobsOf other ready := by
    split
    · next same => exact same ▸ left.mine
    · next different => exact left.others other different
  have entering : jobsOf other (next.toList.map Job.enter) =
      if next = some other then [.enter other] else [] := by
    unfold jobsOf
    rw [Agenda.owned_map_toList]
    exact fun _ => rfl
  rw [jobsOf_append, jobsOf_append, kept, entering, jobsOf_singleton]
  rfl

theorem Written.timed {window : Rat} {locks : Lock Reference CallId} {id : CallId}
    {log written : List LogRecord} (change : Written window locks id log written)
    (timed : ∀ record ∈ log, ∃ millis, record.timestamp = some (.moment millis)) :
    ∀ record ∈ written, ∃ millis, record.timestamp = some (.moment millis) := by
  cases change with
  | nothing => exact timed
  | entered last _ _ =>
      intro record member
      rcases List.mem_append.mp member with old | new
      · exact timed record old
      · rw [List.mem_singleton.mp new]
        exact last

theorem Written.apart {window : Rat} {locks : Lock Reference CallId} {id : CallId}
    {log written : List LogRecord} (change : Written window locks id log written)
    (apart : log.Pairwise (Apart window)) : written.Pairwise (Apart window) := by
  cases change with
  | nothing => exact apart
  | entered _ _ distant =>
      refine List.pairwise_append.mpr ⟨apart, List.pairwise_singleton .., ?_⟩
      intro earlier old record new
      rw [List.mem_singleton.mp new]
      exact distant earlier old

theorem ClearAt.written {settings : Offline.Settings} {window : Rat} {moves : List Move}
    {log written : List LogRecord} {locks : Lock Reference CallId} {id other : CallId}
    {user : Reference} {direction : Direction}
    (clear : ClearAt settings window moves log user direction)
    (change : Written window locks id log written) (different : other ≠ id)
    (holds : (locks.line user).head? = some other) :
    ClearAt settings window moves written user direction := by
  cases change with
  | nothing => exact clear
  | @entered record _ first _ =>
      refine clear.append ?_
      by_contra grant
      simp only [Memory.isGrant, Bool.not_eq_false, Bool.and_eq_true, beq_iff_eq] at grant
      rcases grant with ⟨⟨rfl, granted⟩, -⟩
      have : id = other := Option.some.inj ((first granted).symm.trans holds)
      exact different this.symm

section

variable {settings : Offline.Settings} {window : Rat} {start scene after : Scene}
  {moves : List Move} {id : CallId} {call : Call}

/-- An act that leaves the locks alone and changes only the call itself, its job, and the log. -/
theorem Watched.act (watched : Watched settings window start moves scene) (move : Move)
    (call : Call) (plain : Plain settings after.desk)
    (locks : after.desk.locks = scene.desk.locks)
    (outcomes : after.desk.outcomes = scene.desk.outcomes)
    (requests : after.requests = scene.requests)
    (calls : ∀ other, after.desk.call? other =
      if other = id then some call else scene.desk.call? other)
    (jobs : ∀ other, other ≠ id → jobsOf other after.ready = jobsOf other scene.ready)
    (asked : scene.requests[id]? = some call.request)
    (locked : ∀ key, id ∈ scene.desk.locks.line key → call.locked = key)
    (written : Written window scene.desk.locks id scene.log after.log)
    (standing : Standing (PassedRecently settings window start (moves ++ [move]) id)
      (ClearAt settings window (moves ++ [move]) after.log) id call
      (scene.desk.locks.line call.locked) (jobsOf id after.ready)) :
    Watched settings window start (moves ++ [move]) after where
  plain := plain
  sound := locks ▸ watched.sound
  single := by rw [locks]; exact watched.single
  waiting key other member := by
    rw [locks] at member
    rw [calls other]
    split
    · next same =>
        subst same
        exact ⟨call, rfl, locked key member⟩
    · exact watched.waiting key other member
  asked other known live := by
    rw [calls other] at live
    rw [requests]
    split at live
    · next same =>
        subst same
        cases live
        exact asked
    · exact watched.asked other known live
  standing other known live := by
    rw [calls other] at live
    rw [locks]
    split at live
    · next same =>
        subst same
        cases live
        exact standing
    · next different =>
        rw [jobs other different]
        refine (watched.standing other known live).mono (fun passed => passed.later move) ?_
        exact fun holds clear => (clear.later move).written written different holds
  ended other gone := by
    rw [calls other] at gone
    split at gone
    · cases gone
    · next different =>
        rw [jobs other different]
        exact watched.ended other gone
  timed := written.timed watched.timed
  apart := written.apart watched.apart
  outcomes other outcome report member passback := by
    rw [outcomes] at member
    exact (watched.outcomes other outcome report member passback).later move

theorem Watched.ask (watched : Watched settings window start moves scene) (move : Move)
    {rest : List Job} (left : Rest id scene.ready rest) {query : Query} {stage : Offline.Stage}
    (asked : scene.requests[id]? = some call.request)
    (locked : ∀ key, id ∈ scene.desk.locks.line key → call.locked = key)
    (written : ∀ entry, query = .append entry →
      (∃ millis, entry.timestamp = some (.moment millis)) ∧
      (entry.granted = true → (scene.desk.locks.line entry.user).head? = some id) ∧
      ∀ earlier ∈ scene.log, ∀ number, Apart window earlier { entry with id := number })
    (standing : ∀ memory outages, scene.desk.store = .memory memory outages →
      Standing (PassedRecently settings window start (moves ++ [move]) id)
        (ClearAt settings window (moves ++ [move]) (memory.answerUnless outages query).1.log) id
        { call with walk := some stage } (scene.desk.locks.line call.locked)
        [.replied id (memory.answerUnless outages query).2]) :
    Watched settings window start (moves ++ [move])
      (scene.put rest (scene.desk.stepOffline id call (.ask query stage))) := by
  rcases watched.plain.memory with ⟨memory, outages, kept⟩
  have log : scene.log = memory.log := Scene.log_of_memory kept
  have step : scene.desk.stepOffline id call (.ask query stage) =
      ({ scene.desk with
          store := .memory (memory.answerUnless outages query).1 outages }.setCall id
            { call with walk := some stage },
        [(0, .replied id (memory.answerUnless outages query).2)]) := by
    simp only [Desk.stepOffline, Desk.query_memory kept]
  rw [step]
  refine watched.act move { call with walk := some stage }
    ⟨watched.plain.remote, watched.plain.fallback, watched.plain.offline, _, _, rfl⟩ rfl rfl rfl
    (fun other => Desk.call?_setCall _ id other _)
    (fun other different => left.jobsOf_single_other different _ 0 rfl) asked locked ?_ ?_
  · show Written window scene.desk.locks id scene.log (memory.answerUnless outages query).1.log
    rcases memory.log_answerUnless outages query with same | ⟨entry, append, added⟩
    · rw [same, log]
      exact .nothing
    · rcases written entry append with ⟨timed, first, distant⟩
      rw [added, ← log]
      exact .entered timed first fun earlier old => distant earlier old _
  · rw [left.jobsOf_single _ 0 rfl]
    exact standing memory outages kept

theorem Watched.proceed (watched : Watched settings window start moves scene) (move : Move)
    {rest : List Job} (left : Rest id scene.ready rest)
    (live : scene.desk.call? id = some call) (rounds : Nat) {job : Job} (mine : job.call = id)
    (standing : Standing (PassedRecently settings window start (moves ++ [move]) id)
      (ClearAt settings window (moves ++ [move]) scene.log) id call
      (scene.desk.locks.line call.locked) [job]) :
    Watched settings window start (moves ++ [move])
      (scene.put rest (scene.desk, [(rounds, job)])) := by
  refine watched.act move call watched.plain rfl rfl rfl (fun other => ?_)
    (fun other different => left.jobsOf_single_other different _ rounds mine)
    (watched.asked id call live) (watched.locked_eq live) .nothing ?_
  · split
    · next same => rw [same]; exact live
    · rfl
  · rw [left.jobsOf_single _ rounds mine]
    exact standing

theorem Watched.pause (watched : Watched settings window start moves scene) (move : Move)
    {rest : List Job} (left : Rest id scene.ready rest)
    (live : scene.desk.call? id = some call) (away : ∀ key, id ∉ scene.desk.locks.line key)
    (subject : Offline.Subject) (user : UserView) :
    Watched settings window start (moves ++ [move])
      (scene.put rest (scene.desk.stepOffline id call (.rest (.checks subject user)))) := by
  have step : scene.desk.stepOffline id call (.rest (.checks subject user)) =
      (scene.desk.setCall id { call with walk := some (.checks subject user) },
        [(0, .check id)]) := rfl
  rw [step]
  refine watched.act move { call with walk := some (.checks subject user) }
    ⟨watched.plain.remote, watched.plain.fallback, watched.plain.offline,
      watched.plain.memory⟩ rfl rfl rfl (fun other => Desk.call?_setCall _ id other _)
    (fun other different => left.jobsOf_single_other different _ 0 rfl)
    (watched.asked id call live) (fun key member => absurd member (away key)) .nothing ?_
  rw [left.jobsOf_single _ 0 rfl]
  exact .checking (away _) rfl

/-- A call joins the line of a user, and may enter at once where there was none. -/
theorem Watched.joins (watched : Watched settings window start moves scene) (move : Move)
    (joined : Call) (subject : Offline.Subject) (plain : Plain settings after.desk)
    (locks : after.desk.locks = (scene.desk.locks.acquire subject.user id).1)
    (outcomes : after.desk.outcomes = scene.desk.outcomes)
    (requests : after.requests = scene.requests) (log : after.log = scene.log)
    (calls : ∀ other, after.desk.call? other =
      if other = id then some joined else scene.desk.call? other)
    (mine : jobsOf id after.ready =
      if (scene.desk.locks.line subject.user).isEmpty then [.enter id] else [])
    (others : ∀ other, other ≠ id → jobsOf other after.ready = jobsOf other scene.ready)
    (asked : scene.requests[id]? = some joined.request)
    (away : ∀ key, id ∉ scene.desk.locks.line key)
    (walk : joined.walk = some (.queued subject)) (locked : joined.locked = subject.user) :
    Watched settings window start (moves ++ [move]) after := by
  have line (key : Reference) : after.desk.locks.line key =
      if key = subject.user then scene.desk.locks.line subject.user ++ [id]
      else scene.desk.locks.line key := by
    rw [locks]
    exact Lock.line_acquire watched.sound subject.user key id
  constructor
  case plain => exact plain
  case sound => exact locks ▸ watched.sound.acquire subject.user id
  case single => exact locks ▸ Lock.nodup_acquire watched.sound watched.single (away _)
  case waiting =>
    intro key other member
    rw [line key] at member
    rw [calls other]
    by_cases same : other = id
    · rw [if_pos same]
      split at member
      · next equal => exact ⟨joined, rfl, locked.trans equal.symm⟩
      · exact absurd (same ▸ member) (away key)
    · rw [if_neg same]
      split at member
      · next equal =>
          rcases List.mem_append.mp member with old | new
          · exact equal ▸ watched.waiting _ other old
          · exact absurd (List.mem_singleton.mp new) same
      · exact watched.waiting key other member
  case asked =>
    intro other known live
    rw [calls other] at live
    rw [requests]
    split at live
    · next same =>
        cases live
        exact same ▸ asked
    · exact watched.asked other known live
  case standing =>
    intro other known live
    rw [calls other] at live
    rw [log]
    split at live
    · next same =>
        cases live
        subst same
        rw [line, if_pos locked, mine]
        exact .joining walk locked _
    · next different =>
        rw [line, others other different]
        have stands := (watched.standing other known live).mono
          (fun passed => passed.later move) fun _ clear => clear.later move
        split
        · next same =>
            rw [same] at stands
            exact stands.joined different
        · exact stands
  case ended =>
    intro other gone
    rw [calls other] at gone
    split at gone
    · cases gone
    · next different =>
        rw [others other different]
        exact watched.ended other gone
  case timed => exact log ▸ watched.timed
  case apart => exact log ▸ watched.apart
  case outcomes =>
    intro other outcome report member passback
    rw [outcomes] at member
    exact (watched.outcomes other outcome report member passback).later move

theorem Watched.leaves (watched : Watched settings window start moves scene) (move : Move)
    {rest : List Job} (left : Rest id scene.ready rest)
    (live : scene.desk.call? id = some call) {behind : List CallId}
    (line : scene.desk.locks.line call.locked = id :: behind)
    {outcome : Except Fault Decision}
    (reason : Offline.isPassback outcome = true →
      PassedRecently settings window start moves id)
    (plain : Plain settings after.desk)
    (locks : after.desk.locks = (scene.desk.locks.release call.locked).1)
    (outcomes : after.desk.outcomes = scene.desk.outcomes)
    (requests : after.requests = scene.requests) (log : after.log = scene.log)
    (calls : ∀ other, after.desk.call? other = scene.desk.call? other)
    (ready : after.ready = rest ++ (behind.head?.toList.map Job.enter ++ [.outcome id outcome])) :
    Watched settings window start (moves ++ [move]) after := by
  have lines (key : Reference) : after.desk.locks.line key =
      if key = call.locked then behind else scene.desk.locks.line key := by
    rw [locks, Lock.line_release watched.sound call.locked key, line]
    rfl
  have distinct : id ∉ behind := by
    have := watched.single call.locked
    rw [line] at this
    exact (List.nodup_cons.mp this).1
  have not_next : behind.head? ≠ some id := fun next => distinct (List.mem_of_head? next)
  have waits {other : CallId} (next : behind.head? = some other) :
      ∃ known, scene.desk.call? other = some known ∧ known.locked = call.locked := by
    refine watched.waiting _ other ?_
    rw [line]
    exact List.mem_cons_of_mem id (List.mem_of_head? next)
  have jobs := ready ▸ left.jobsOf_leave behind.head? outcome
  have others (other : CallId) (different : other ≠ id) : jobsOf other after.ready =
      jobsOf other scene.ready ++ if behind.head? = some other then [.enter other] else [] := by
    rw [jobs, if_neg different, if_neg different.symm, List.append_nil]
  constructor
  case plain => exact plain
  case sound => exact locks ▸ watched.sound.release call.locked
  case single => exact locks ▸ Lock.nodup_release watched.sound watched.single call.locked
  case waiting =>
    intro key other member
    rw [lines key] at member
    rw [calls other]
    split at member
    · next same =>
        refine watched.waiting key other ?_
        rw [same, line]
        exact List.mem_cons_of_mem id member
    · exact watched.waiting key other member
  case asked =>
    intro other known known_live
    rw [calls other] at known_live
    rw [requests]
    exact watched.asked other known known_live
  case standing =>
    intro other known known_live
    rw [calls other] at known_live
    have stands := (watched.standing other known known_live).mono
      (fun passed => passed.later move) fun _ clear => clear.later move
    rw [log, lines]
    by_cases same : other = id
    · subst same
      cases live.symm.trans known_live
      rw [if_pos rfl, jobs, if_pos rfl, if_neg not_next, if_pos rfl]
      exact .done distinct fun passback => (reason passback).later move
    · rw [others other same]
      split
      · next equal =>
          rw [equal, line] at stands
          exact stands.left fun holder => same holder.symm
      · next different =>
          have elsewhere : behind.head? ≠ some other := fun next => by
            rcases waits next with ⟨found, found_live, locked⟩
            cases known_live.symm.trans found_live
            exact different locked
          rw [if_neg elsewhere, List.append_nil]
          exact stands
  case ended =>
    intro other gone
    rw [calls other] at gone
    have different : other ≠ id := fun same => by
      rw [same, live] at gone
      cases gone
    have nowhere : behind.head? ≠ some other := fun next => by
      rcases waits next with ⟨found, found_live, -⟩
      cases gone.symm.trans found_live
    rw [others other different, if_neg nowhere, List.append_nil]
    exact watched.ended other gone
  case timed => exact log ▸ watched.timed
  case apart => exact log ▸ watched.apart
  case outcomes =>
    intro other known report member passback
    rw [outcomes] at member
    exact (watched.outcomes other known report member passback).later move

theorem Watched.ends (watched : Watched settings window start moves scene) (move : Move)
    {rest : List Job} (left : Rest id scene.ready rest)
    (live : scene.desk.call? id = some call)
    (away : id ∉ scene.desk.locks.line call.locked)
    {outcome : Except Fault Decision}
    (reason : Offline.isPassback outcome = true →
      PassedRecently settings window start moves id) :
    Watched settings window start (moves ++ [move])
      (scene.put rest (scene.desk.close id outcome, [])) := by
  have calls (other : CallId) : (scene.desk.close id outcome).call? other =
      if other = id then none else scene.desk.call? other :=
    Desk.call?_close scene.desk id other outcome
  have others (other : CallId) (different : other ≠ id) :
      jobsOf other (scene.put rest (scene.desk.close id outcome, [])).ready =
        jobsOf other scene.ready := by
    rw [left.jobsOf_put_other different]
    exact List.append_nil _
  constructor
  case plain =>
    exact ⟨watched.plain.remote, watched.plain.fallback, watched.plain.offline,
      watched.plain.memory⟩
  case sound => exact watched.sound
  case single => exact watched.single
  case waiting =>
    intro key other member
    have different : other ≠ id := fun same =>
      watched.not_mem_line live away key (same ▸ member)
    show ∃ known, (scene.desk.close id outcome).call? other = some known ∧ known.locked = key
    rw [calls other, if_neg different]
    exact watched.waiting key other member
  case asked =>
    intro other known known_live
    change (scene.desk.close id outcome).call? other = some known at known_live
    rw [calls other] at known_live
    split at known_live
    · cases known_live
    · exact watched.asked other known known_live
  case standing =>
    intro other known known_live
    change (scene.desk.close id outcome).call? other = some known at known_live
    rw [calls other] at known_live
    split at known_live
    · cases known_live
    · next different =>
        rw [others other different]
        exact (watched.standing other known known_live).mono
          (fun passed => passed.later move) fun _ clear => clear.later move
  case ended =>
    intro other gone
    change (scene.desk.close id outcome).call? other = none at gone
    rw [calls other] at gone
    by_cases same : other = id
    · rw [same, left.jobsOf_put]
      rfl
    · rw [if_neg same] at gone
      rw [others other same]
      exact watched.ended other gone
  case timed => exact watched.timed
  case apart => exact watched.apart
  case outcomes =>
    intro other known report member passback
    rcases List.mem_append.mp member with old | new
    · exact (watched.outcomes other known report old passback).later move
    · cases List.mem_singleton.mp new
      exact (reason passback).later move

end

end Gatehouse.Validation
