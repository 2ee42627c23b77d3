import Gatehouse.Proofs.Validation.Acts
import Mathlib.Tactic.Linarith

/-!
# No passage twice within the window

However the jobs of many calls mix, two grants of one user in one watched direction are farther
apart than the window, and a request is denied because of a recent passage only if the log held one
when it was looked for: `grants_apart`. It rests on `Watched`, which every move keeps.
-/

namespace Gatehouse.Validation

open Gatehouse.Access Gatehouse.Register

section

variable {settings : Offline.Settings} {window : Rat} {start scene : Scene}
  {moves : List Move} {id : CallId} {call : Call}

structure Timely (settings : Offline.Settings) (window : Rat) (moves : List Move) (move : Move)
    (millis : Int) : Prop where
  time : move.time settings = .moment millis
  reaches : Time.Instant.Reaches window millis
  forward : ∀ earlier ∈ moves, ∀ past, earlier.time settings = .moment past → past ≤ millis

theorem Steady.timely {move : Move} (steady : Steady settings window (moves ++ [move])) :
    ∃ millis, Timely settings window moves move millis := by
  rcases steady.reaches move (List.mem_append_right moves List.mem_cons_self) with
    ⟨millis, time, reaches⟩
  refine ⟨millis, time, reaches, fun earlier member past at_past => ?_⟩
  have later := (List.pairwise_append.mp steady.forward).2.2 earlier member move
    List.mem_cons_self
  rw [time, at_past] at later
  simpa [Time.Instant.since] using later

theorem Steady.before {move : Move} (steady : Steady settings window (moves ++ [move])) :
    Steady settings window moves where
  reaches earlier member := steady.reaches earlier (List.mem_append_left [move] member)
  forward := (List.pairwise_append.mp steady.forward).1

theorem Watched.rest (watched : Watched settings window start moves scene)
    (live : scene.desk.call? id = some call) {front back : List Job} {job : Job}
    (whole : scene.ready = front ++ job :: back) (mine : job.call = id) :
    jobsOf id scene.ready = [job] ∧ Rest id scene.ready (front ++ back) := by
  have member : job ∈ jobsOf id scene.ready := by
    rw [whole]
    subst mine
    exact List.mem_filter.mpr ⟨List.mem_append_right front List.mem_cons_self, by simp⟩
  have single := (watched.standing id call live).jobs_eq_of_mem member
  rw [whole] at single ⊢
  exact ⟨single, (jobsOf_rest_of_single mine single).2, fun other different =>
    jobsOf_rest_of_ne (fun same => different (same.symm.trans mine)) front back⟩

theorem Watched.outside (watched : Watched settings window start moves scene) {move : Move}
    {millis : Int} (timely : Timely settings window moves move millis) {rest : List Job}
    (left : Rest id scene.ready rest) (live : scene.desk.call? id = some call)
    (away : id ∉ scene.desk.locks.line call.locked) {next : Offline.Next}
    (outside : next.IsOutside (move.time settings)) :
    Watched settings window start (moves ++ [move])
      (scene.put rest (scene.desk.stepOffline id call next)) := by
  have nowhere := watched.not_mem_line live away
  cases outside with
  | @ask query stage harmless outside =>
      refine watched.ask move left (watched.asked id call live)
        (fun key member => absurd member (nowhere key)) (fun entry append => ?_)
        fun memory outages kept => .outside away rfl outside
      rcases harmless entry append with ⟨denied, time⟩
      rw [timely.time] at time
      refine ⟨⟨millis, time⟩, fun granted => ?_, fun earlier old number _ granted => ?_⟩
      · cases denied.symm.trans granted
      · cases denied.symm.trans granted
  | rest subject user => exact watched.pause move left live nowhere subject user
  | acquire subject =>
      refine watched.joins move
        { call with walk := some (.queued subject), locked := subject.user } subject
        ⟨watched.plain.remote, watched.plain.fallback, watched.plain.offline,
          watched.plain.memory⟩ rfl rfl rfl rfl (fun other => Desk.call?_setCall _ id other _)
        ?_ (fun other different => ?_) (watched.asked id call live) nowhere rfl rfl
      · refine (left.jobsOf_put _).trans ((jobsOf_enter_if id id _).trans ?_)
        simp
      · refine (left.jobsOf_put_other different _).trans ?_
        refine (congrArg (jobsOf other scene.ready ++ ·) (jobsOf_enter_if id other _)).trans ?_
        simp [different.symm]
  | finish rounds other =>
      refine watched.proceed move left live _ rfl (.done away fun passback => ?_)
      cases other.symm.trans passback

/-- The first in the line of its user writes a grant, where the direction is not watched or it was
clear that there was no recent one. -/
theorem Watched.grant (watched : Watched settings window start moves scene) {move : Move}
    {millis : Int} (timely : Timely settings window moves move millis) {rest : List Job}
    (left : Rest id scene.ready rest) (live : scene.desk.call? id = some call)
    {subject : Offline.Subject} (locked : call.locked = subject.user)
    (holds : (scene.desk.locks.line call.locked).head? = some id)
    (clear : call.request.direction.isWatched = true →
      ClearAt settings window moves scene.log call.locked call.request.direction) :
    Watched settings window start (moves ++ [move])
      (scene.put rest (scene.desk.stepOffline id call
        (Offline.recordGrant (move.time settings) call.request subject))) := by
  refine watched.ask move left (watched.asked id call live) (watched.locked_eq live)
    (fun entry append => ?_) fun memory outages kept => .granting holds rfl
  cases append
  refine ⟨⟨millis, congrArg some timely.time⟩, fun _ => ?_,
    fun earlier old number granted _ user direction watch => ?_⟩
  · show (scene.desk.locks.line subject.user).head? = some id
    rw [← locked]
    exact holds
  · rcases clear watch with ⟨lookup, member, moment, at_moment, distant⟩
    have grant : Memory.isGrant call.locked call.request.direction earlier = true := by
      have same_user : earlier.user = call.locked := user.trans locked.symm
      have same_direction : earlier.direction = call.request.direction := direction
      simp [Memory.isGrant, granted, same_user, same_direction]
    rcases distant earlier old grant with ⟨past, at_past, gap⟩
    have order : (moment : Rat) ≤ millis :=
      Int.cast_le.mpr (timely.forward lookup member moment at_moment)
    exact ⟨past, millis, at_past, congrArg some timely.time, by linarith⟩

theorem Watched.conclude (watched : Watched settings window start moves scene) (move : Move)
    {rest : List Job} (left : Rest id scene.ready rest)
    (live : scene.desk.call? id = some call)
    (holds : (scene.desk.locks.line call.locked).head? = some id)
    {outcome : Except Fault Decision} (rounds : Nat)
    (reason : Offline.isPassback outcome = true →
      PassedRecently settings window start moves id) :
    Watched settings window start (moves ++ [move])
      (scene.put rest (scene.desk.stepOffline id call (.leave outcome rounds))) :=
  watched.proceed move left live rounds rfl
    (.leaving holds fun passback => (reason passback).later move)

theorem Watched.refuse (watched : Watched settings window start moves scene) {move : Move}
    {millis : Int} (timely : Timely settings window moves move millis) {rest : List Job}
    (left : Rest id scene.ready rest) (live : scene.desk.call? id = some call)
    (holds : (scene.desk.locks.line call.locked).head? = some id) (subject : Offline.Subject)
    (passed : PassedRecently settings window start moves id) :
    Watched settings window start (moves ++ [move])
      (scene.put rest (scene.desk.stepOffline id call
        (Offline.deny settings (move.time settings) call.request subject .antiPassback
          .locked))) := by
  unfold Offline.deny
  split
  · refine watched.ask move left (watched.asked id call live) (watched.locked_eq live)
      (fun entry append => ?_) fun memory outages kept => .refusing holds rfl (passed.later move)
    cases append
    have denied : (Offline.logEntry (move.time settings) call.request subject false
        (Display.ofDenial call.request.reader .antiPassback)).granted ≠ true := Bool.false_ne_true
    exact ⟨⟨millis, congrArg some timely.time⟩, fun granted => absurd granted denied,
      fun earlier old number _ granted => absurd granted denied⟩
  · exact watched.conclude move left live holds _ fun _ => passed

theorem Watched.look (watched : Watched settings window start moves scene)
    (played : start.playAll moves = scene) {clock : Agenda.Clock} {place : Nat} {millis : Int}
    (timely : Timely settings window moves (.work clock place) millis)
    (window_is : settings.window = .finite window)
    (found : scene.ready[place]? = some (.enter id)) {rest : List Job}
    (left : Rest id scene.ready rest) (live : scene.desk.call? id = some call)
    {subject : Offline.Subject} (walk : call.walk = some (.queued subject))
    (locked : call.locked = subject.user)
    (holds : (scene.desk.locks.line call.locked).head? = some id) :
    Watched settings window start (moves ++ [.work clock place])
      (scene.put rest (scene.desk.stepOffline id call
        (.ask (.recentGrant subject.user call.request.direction
          (some (((Move.work clock place).time settings).back settings.window)))
          (.passback subject)))) := by
  refine watched.ask _ left (watched.asked id call live) (watched.locked_eq live)
    (fun entry append => nomatch append)
    fun memory outages kept => .looking holds rfl locked ?_
  -- A search adds nothing to the log, so the answer speaks of the log before this move.
  have log : scene.log = memory.log := Scene.log_of_memory kept
  rw [timely.time, window_is]
  have unchanged : (memory.answerUnless outages (.recentGrant subject.user
      call.request.direction (some ((Time.Instant.moment millis).back (.finite window))))).1.log =
        memory.log := by
    rcases memory.log_answerUnless outages _ with same | ⟨entry, append, -⟩
    · exact same
    · cases append
  rw [unchanged]
  have timed : ∀ record ∈ memory.log, record.timestamp.isSome := fun record member => by
    rcases watched.timed record (log ▸ member) with ⟨moment, at_moment⟩
    rw [at_moment]
    rfl
  rcases memory.reply_recentGrant outages subject.user call.request.direction
    ((Time.Instant.moment millis).back (.finite window)) timed with ⟨fault, failed⟩ | answered
  · rw [failed]
    exact .failed fault
  · rw [answered]
    cases any : memory.log.any _ with
    | true =>
        rcases List.any_eq_true.mp any with ⟨record, member, matched⟩
        rcases Bool.and_eq_true_iff.mp matched with ⟨grant, recent⟩
        rcases watched.timed record (log ▸ member) with ⟨moment, at_moment⟩
        rw [at_moment, Option.any_some] at recent
        exact .found ⟨moves, clock, place, [], rfl, played ▸ found, call.request, call, subject,
          played ▸ watched.asked id call live, played ▸ live, walk, record,
          played ▸ log ▸ member, grant, millis, moment, timely.time, at_moment,
          (Time.Instant.since_back_iff timely.reaches moment).mp recent⟩
    | false =>
        refine .missing ⟨.work clock place, List.mem_append_right moves List.mem_cons_self, millis,
          timely.time, fun record member grant => ?_⟩
        rcases watched.timed record (log ▸ member) with ⟨moment, at_moment⟩
        refine ⟨moment, at_moment, ?_⟩
        have old := List.any_eq_false.mp any record member
        rw [locked] at grant
        rw [grant, Bool.true_and, at_moment, Option.any_some,
          Time.Instant.since_back_iff timely.reaches moment] at old
        exact not_le.mp old

theorem Watched.work (watched : Watched settings window start moves scene)
    (played : start.playAll moves = scene) {clock : Agenda.Clock} {place : Nat} {millis : Int}
    (timely : Timely settings window moves (.work clock place) millis)
    (window_is : settings.window = .finite window) {job : Job}
    (found : scene.ready[place]? = some job) {front back : List Job}
    (whole : scene.ready = front ++ job :: back) :
    Watched settings window start (moves ++ [.work clock place])
      (scene.put (front ++ back) (Desk.perform clock job scene.desk)) := by
  have ends_not (gone : scene.desk.call? job.call = none) : False := by
    have none_left := watched.ended job.call gone
    rw [whole, jobsOf_append, jobsOf_cons_self] at none_left
    simp at none_left
  cases live : scene.desk.call? job.call with
  | none => exact (ends_not live).elim
  | some call =>
      rcases watched.rest live whole rfl with ⟨single, left⟩
      have now : scene.desk.now clock = (Move.work clock place).time settings := by
        unfold Desk.now
        rw [watched.plain.offline]
        rfl
      have standing := watched.standing job.call call live
      rw [single] at standing
      generalize named : job.call = id at *
      -- The way in which the call stands fixes its one job, and so what is performed.
      cases standing with
      | @outside stage reply away walk outside =>
          simp only [Desk.perform, live, walk, now]
          exact watched.outside timely left live away (Offline.isOutside_resume _ _ _ _ outside _)
      | @checking subject user away walk =>
          simp only [Desk.perform, live, walk, now]
          exact watched.outside timely left live away (Offline.isOutside_check ..)
      | @called subject holds walk locked =>
          simp only [Desk.perform, live, walk, now, watched.plain.offline, Offline.enter]
          split
          · exact watched.look played timely window_is found left live walk locked holds
          · next unwatched =>
              exact watched.grant timely left live locked holds fun watch => absurd watch unwatched
      | @looking subject reply holds walk locked tells =>
          simp only [Desk.perform, live, walk, now, watched.plain.offline]
          cases tells with
          | failed fault =>
              exact watched.conclude _ left live holds 0 fun passback =>
                absurd passback Bool.false_ne_true
          | found passed => exact watched.refuse timely left live holds subject passed
          | missing clear => exact watched.grant timely left live locked holds fun _ => clear
      | @granting reply holds walk =>
          simp only [Desk.perform, live, walk]
          obtain ⟨outcome, rounds, ending, other⟩ := Offline.resume_granting scene.desk.offline
            (scene.desk.now clock) call.started call.request reply
          rw [ending]
          exact watched.conclude _ left live holds rounds fun passback =>
            absurd (other.symm.trans passback) Bool.false_ne_true
      | @refusing reply holds walk passed =>
          simp only [Desk.perform, live, walk]
          obtain ⟨outcome, rounds, ending⟩ := Offline.resume_denying_locked scene.desk.offline
            (scene.desk.now clock) call.started call.request .antiPassback reply
          rw [ending]
          exact watched.conclude _ left live holds rounds fun _ => passed
      | @leaving outcome holds reason =>
          rcases List.head?_eq_some_iff.mp holds with ⟨behind, line⟩
          simp only [Desk.perform, live]
          refine watched.leaves _ left live line reason
            ⟨watched.plain.remote, watched.plain.fallback, watched.plain.offline,
              watched.plain.memory⟩ rfl rfl rfl rfl (fun _ => rfl) ?_
          have next : (scene.desk.locks.release call.locked).2 = behind.head? := by
            rw [Lock.release_next, line]
            rfl
          show front ++ back ++ _ = _
          rw [next]
          cases behind <;> rfl
      | @done outcome away reason => exact watched.ends _ left live away reason

theorem Watched.bring (watched : Watched settings window start moves scene) (clock : Agenda.Clock)
    (request : Request) :
    Watched settings window start (moves ++ [.call clock request])
      (scene.play (.call clock request)) := by
  let enrolled : Scene := { scene with requests := scene.requests ++ [request] }
  have enrolls : Watched settings window start moves enrolled :=
    { watched with
      asked := fun id call live => by
        have known := watched.asked id call live
        exact List.getElem?_append_left (List.getElem?_eq_some_iff.mp known).1 ▸ known }
  have fresh : scene.desk.call? scene.requests.length = none := by
    cases live : scene.desk.call? scene.requests.length with
    | none => rfl
    | some call =>
        have known := watched.asked _ call live
        rw [List.getElem?_eq_none (le_refl _)] at known
        cases known
  have left : Rest scene.requests.length enrolled.ready scene.ready :=
    ⟨watched.ended _ fresh, fun _ _ => rfl⟩
  rcases Offline.start_eq_ask request with ⟨query, stage, first, harmless, outside⟩
  let call : Call :=
    { request := request, started := scene.desk.now clock, inquiry := none, walk := none
      locked := .null }
  have nowhere (key : Reference) : scene.requests.length ∉ scene.desk.locks.line key :=
    fun member => by
      rcases watched.waiting key _ member with ⟨known, live, -⟩
      cases fresh.symm.trans live
  have begins : scene.desk.begin clock scene.requests.length request =
      scene.desk.stepOffline scene.requests.length call (.ask query stage) := by
    simp only [Desk.begin, watched.plain.remote, Desk.decideLocally, watched.plain.fallback, first]
    rfl
  have played : scene.play (.call clock request) = enrolled.put scene.ready
      (scene.desk.stepOffline scene.requests.length call (.ask query stage)) := by
    rw [← begins]
    rfl
  rw [played]
  exact enrolls.ask _ left (List.getElem?_concat_length ..)
    (fun key member => absurd member (nowhere key))
    (fun entry append => absurd append (harmless entry))
    fun memory outages kept => .outside (nowhere _) rfl outside

theorem Watched.play (watched : Watched settings window start moves scene)
    (played : start.playAll moves = scene) (window_is : settings.window = .finite window)
    {move : Move} {millis : Int} (timely : Timely settings window moves move millis) :
    Watched settings window start (moves ++ [move]) (scene.play move) := by
  cases move with
  | call clock request => exact watched.bring clock request
  | work clock place =>
      rcases scene.pool.work_cases Desk.perform clock place with same |
        ⟨front, job, back, found, whole, worked⟩
      · simp only [Scene.play, same]
        exact watched.later _
      · simp only [Scene.play, worked]
        exact watched.work played timely window_is found whole

end

variable {settings : Offline.Settings} {window : Rat} {memory : Memory}
  {outages : List (String × String)} {moves : List Move}

/-- A desk that decides from a register in memory, with nothing to do yet. -/
def Scene.ofMemory (settings : Offline.Settings) (memory : Memory)
    (outages : List (String × String)) : Scene :=
  .start (.start none .register settings (.memory memory outages))

theorem watched_start (empty : memory.log = []) :
    Watched settings window (.ofMemory settings memory outages) []
      (.ofMemory settings memory outages) where
  plain := ⟨rfl, rfl, rfl, memory, outages, rfl⟩
  sound := Lock.sound_free
  single _ := List.nodup_nil
  waiting _ _ member := nomatch member
  asked _ _ live := nomatch live
  standing _ _ live := nomatch live
  ended _ _ := rfl
  timed record member := by
    have log : (Scene.ofMemory settings memory outages).log = [] := empty
    rw [log] at member
    cases member
  apart := by
    have log : (Scene.ofMemory settings memory outages).log = [] := empty
    rw [log]
    exact .nil
  outcomes _ _ _ member := nomatch member

theorem watched_playAll (window_is : settings.window = .finite window)
    (empty : memory.log = []) (steady : Steady settings window moves) :
    Watched settings window (.ofMemory settings memory outages) moves
      ((Scene.ofMemory settings memory outages).playAll moves) := by
  induction moves using List.reverseRecOn with
  | nil => exact watched_start empty
  | append_singleton moves move induction =>
      rcases steady.timely with ⟨millis, timely⟩
      rw [Scene.playAll_concat]
      exact (induction steady.before).play rfl window_is timely

/-- Two grants of one user in one watched direction are farther apart than the window, and where a
request was denied because of a recent passage, its search ran while there was one in the log. -/
theorem grants_apart (window_is : settings.window = .finite window) (empty : memory.log = [])
    (steady : Steady settings window moves) :
    ((Scene.ofMemory settings memory outages).playAll moves).log.Pairwise (fun left right =>
      left.granted = true → right.granted = true → left.user = right.user →
      left.direction = right.direction → right.direction.isWatched = true →
      ∃ before after : Int, left.timestamp = some (.moment before) ∧
        right.timestamp = some (.moment after) ∧ window < |(after : Rat) - before|) ∧
    ∀ id display source report,
      (id, .ok (.denied .antiPassback display source), report) ∈
        ((Scene.ofMemory settings memory outages).playAll moves).desk.outcomes →
      PassedRecently settings window (.ofMemory settings memory outages) moves id := by
  have watched : Watched settings window (.ofMemory settings memory outages) moves _ :=
    watched_playAll window_is empty steady
  constructor
  · refine watched.apart.imp fun apart left_granted right_granted user direction watch => ?_
    rcases apart left_granted right_granted user direction watch with
      ⟨before, after, at_before, at_after, gap⟩
    exact ⟨before, after, at_before, at_after, gap.trans_le (le_abs_self _)⟩
  · intro id display source report member
    exact watched.outcomes id _ report member rfl

def keypadUser : User :=
  { registration := "100", name := "", active := true, validFrom := none, validUntil := none
    allowCard := false, allowBiometric := false, allowKeypad := true, code := some "7", id := 1 }

def twoAtOnce : List Move :=
  List.replicate 2 (.call ⟨1000000, 0⟩
    { credential := "7", timestamp := .invalid, direction := .entry, reader := .keypad }) ++
    List.replicate 16 (.work ⟨1000000, 0⟩ 0)

theorem grants_apart_two_at_once :
    let settings : Offline.Settings :=
      { window := .finite 300000, logDenials := true, ahead := .finite 0 }
    let memory : Memory := { users := [keypadUser], cards := [], log := [] }
    ((Scene.ofMemory settings memory []).playAll twoAtOnce).log.map (·.granted) = [true, false] ∧
      PassedRecently settings 300000 (.ofMemory settings memory []) twoAtOnce 1 := by
  intro settings memory
  have time : ∀ move ∈ twoAtOnce, move.time settings = .moment 1000000 := by decide +kernel
  have forward : twoAtOnce.Pairwise fun earlier later =>
      (later.time settings).since (earlier.time settings) = true := by decide +kernel
  have steady : Steady settings 300000 twoAtOnce :=
    ⟨fun move member => ⟨1000000, time move member, 700000, by norm_num, by decide, by decide⟩,
      forward⟩
  refine ⟨by decide +kernel, (grants_apart rfl rfl steady).2 1
    (Display.ofDenial .keypad .antiPassback) .offline none ?_⟩
  decide +kernel

end Gatehouse.Validation
