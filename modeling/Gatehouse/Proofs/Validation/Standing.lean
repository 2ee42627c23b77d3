import Gatehouse.Proofs.Lock.Lines
import Gatehouse.Proofs.Register.Recent
import Gatehouse.Proofs.Validation.Scene

/-!
# How calls stand

A call that has not ended stands in one of nine ways, told by how far its walk has come, by its
place in the line of the user's lock, and by the one job that it has ready: `Standing`. What other
calls do keeps the way in which it stands, except that the one before it in the line lets it in
when it leaves: `Standing.joined` and `Standing.left`.

So it is on every desk that decides from a register in memory, after any moves: `Watched`. Only the
first in the line of a user writes grants of that user, and two grants of one user in one watched
direction are farther apart than the window.
-/

namespace Gatehouse.Validation

open Gatehouse.Access Gatehouse.Register

/-- What the answer to the search for a recent grant tells: that the denial of the request is
justified, or that there was no recent grant; a search that failed tells nothing. -/
inductive Tells (justified clear : Prop) : Reply → Prop
  | failed (fault : Fault) : Tells justified clear (.failed fault)
  | found : justified → Tells justified clear (.recent true)
  | missing : clear → Tells justified clear (.recent false)

/-- How a call stands whose lock has the given line and which has the given jobs. It may be
justified to deny the call because of a recent passage; it may be clear for a user and a direction
that there was none. -/
inductive Standing (justified : Prop) (clear : Reference → Direction → Prop) (id : CallId)
    (call : Call) (line : List CallId) : List Job → Prop
  | outside {stage : Offline.Stage} {reply : Reply} :
      id ∉ line → call.walk = some stage → stage.isOutside = true →
      Standing justified clear id call line [.replied id reply]
  | checking {subject : Offline.Subject} {user : UserView} :
      id ∉ line → call.walk = some (.checks subject user) →
      Standing justified clear id call line [.check id]
  | queued {subject : Offline.Subject} :
      id ∈ line.tail → call.walk = some (.queued subject) → call.locked = subject.user →
      Standing justified clear id call line []
  | called {subject : Offline.Subject} :
      line.head? = some id → call.walk = some (.queued subject) → call.locked = subject.user →
      Standing justified clear id call line [.enter id]
  | looking {subject : Offline.Subject} {reply : Reply} :
      line.head? = some id → call.walk = some (.passback subject) → call.locked = subject.user →
      Tells justified (clear call.locked call.request.direction) reply →
      Standing justified clear id call line [.replied id reply]
  | granting {reply : Reply} :
      line.head? = some id → call.walk = some .granting →
      Standing justified clear id call line [.replied id reply]
  | refusing {reply : Reply} :
      line.head? = some id → call.walk = some (.denying .antiPassback .locked) → justified →
      Standing justified clear id call line [.replied id reply]
  | leaving {outcome : Except Fault Decision} :
      line.head? = some id → (Offline.isPassback outcome = true → justified) →
      Standing justified clear id call line [.leave id outcome]
  | done {outcome : Except Fault Decision} :
      id ∉ line → (Offline.isPassback outcome = true → justified) →
      Standing justified clear id call line [.outcome id outcome]

namespace Standing

variable {justified justified' : Prop} {clear clear' : Reference → Direction → Prop}
  {id : CallId} {call : Call} {line : List CallId} {jobs : List Job}

theorem jobs_eq_of_mem (standing : Standing justified clear id call line jobs) {job : Job}
    (member : job ∈ jobs) : jobs = [job] := by
  cases standing <;> simp_all

/-- What justifies a denial stays; what is clear needs to stay for the holder of the lock only. -/
theorem mono (standing : Standing justified clear id call line jobs)
    (justifies : justified → justified')
    (clears : line.head? = some id → clear call.locked call.request.direction →
      clear' call.locked call.request.direction) :
    Standing justified' clear' id call line jobs := by
  cases standing with
  | outside away walk outside => exact .outside away walk outside
  | checking away walk => exact .checking away walk
  | queued waits walk locked => exact .queued waits walk locked
  | called holds walk locked => exact .called holds walk locked
  | looking holds walk locked tells =>
      refine .looking holds walk locked ?_
      cases tells with
      | failed fault => exact .failed fault
      | found found => exact .found (justifies found)
      | missing missing => exact .missing (clears holds missing)
  | granting holds walk => exact .granting holds walk
  | refusing holds walk found => exact .refusing holds walk (justifies found)
  | leaving holds reason => exact .leaving holds fun passback => justifies (reason passback)
  | done away reason => exact .done away fun passback => justifies (reason passback)

theorem joined (standing : Standing justified clear id call line jobs) {other : CallId}
    (different : id ≠ other) :
    Standing justified clear id call (line ++ [other]) jobs := by
  have away (away : id ∉ line) : id ∉ line ++ [other] := by
    simp [away, different]
  have holds (holds : line.head? = some id) : (line ++ [other]).head? = some id := by
    rw [List.head?_append, holds, Option.some_or]
  cases standing with
  | outside out walk outside => exact .outside (away out) walk outside
  | checking out walk => exact .checking (away out) walk
  | queued waits walk locked =>
      refine .queued ?_ walk locked
      rw [List.tail_append_of_ne_nil (List.ne_nil_of_mem (List.mem_of_mem_tail waits))]
      exact List.mem_append_left _ waits
  | called first walk locked => exact .called (holds first) walk locked
  | looking first walk locked tells => exact .looking (holds first) walk locked tells
  | granting first walk => exact .granting (holds first) walk
  | refusing first walk found => exact .refusing (holds first) walk found
  | leaving first reason => exact .leaving (holds first) reason
  | done out reason => exact .done (away out) reason

theorem joining {subject : Offline.Subject} (walk : call.walk = some (.queued subject))
    (locked : call.locked = subject.user) (line : List CallId) :
    Standing justified clear id call (line ++ [id]) (if line.isEmpty then [.enter id] else []) := by
  cases line with
  | nil => exact .called rfl walk locked
  | cons first behind =>
      exact .queued (List.mem_append_right behind List.mem_cons_self) walk locked

theorem idle_of_waits {holder : CallId} {rest : List CallId}
    (standing : Standing justified clear id call (holder :: rest) jobs) (different : holder ≠ id)
    (waits : id ∈ rest) : jobs = [] := by
  have inside : id ∈ holder :: rest := List.mem_cons_of_mem holder waits
  have not_holder (holds : (holder :: rest).head? = some id) : False :=
    different (Option.some.inj holds)
  cases standing with
  | outside away walk outside => exact absurd inside away
  | checking away walk => exact absurd inside away
  | queued waits walk locked => rfl
  | called holds walk locked => exact (not_holder holds).elim
  | looking holds walk locked tells => exact (not_holder holds).elim
  | granting holds walk => exact (not_holder holds).elim
  | refusing holds walk found => exact (not_holder holds).elim
  | leaving holds reason => exact (not_holder holds).elim
  | done away reason => exact absurd inside away

theorem left {holder : CallId} {rest : List CallId}
    (standing : Standing justified clear id call (holder :: rest) jobs) (different : holder ≠ id) :
    Standing justified clear id call rest
      (jobs ++ if rest.head? = some id then [.enter id] else []) := by
  have not_first (away : id ∉ holder :: rest) : rest.head? ≠ some id := fun first =>
    away (List.mem_cons_of_mem _ (List.mem_of_head? first))
  have not_holder (holds : (holder :: rest).head? = some id) : False :=
    different (Option.some.inj holds)
  cases standing with
  | outside away walk outside =>
      rw [if_neg (not_first away), List.append_nil]
      exact .outside (fun member => away (List.mem_cons_of_mem _ member)) walk outside
  | checking away walk =>
      rw [if_neg (not_first away), List.append_nil]
      exact .checking (fun member => away (List.mem_cons_of_mem _ member)) walk
  | queued waits walk locked =>
      split
      · next first => exact .called first walk locked
      · next later =>
          refine .queued ?_ walk locked
          rw [List.tail_cons] at waits
          cases rest with
          | nil => cases waits
          | cons first others =>
              rcases List.mem_cons.mp waits with equal | member
              · exact absurd (congrArg some equal.symm) later
              · exact member
  | called holds walk locked => exact (not_holder holds).elim
  | looking holds walk locked tells => exact (not_holder holds).elim
  | granting holds walk => exact (not_holder holds).elim
  | refusing holds walk found => exact (not_holder holds).elim
  | leaving holds reason => exact (not_holder holds).elim
  | done away reason =>
      rw [if_neg (not_first away), List.append_nil]
      exact .done (fun member => away (List.mem_cons_of_mem _ member)) reason

end Standing

theorem tells_recent (found : Bool) : Tells True True (.recent found) := by
  cases found with
  | false => exact .missing trivial
  | true => exact .found trivial

/-- What the search for a recent grant tells, where nothing has to be justified. -/
theorem tells_answerUnless (memory : Memory) (outages : List (String × String)) (user : Reference)
    (direction : Direction) (since : Option Time.Instant) :
    Tells True True (memory.answerUnless outages (.recentGrant user direction since)).2 := by
  unfold Memory.answerUnless
  split
  · exact .failed _
  · simp only [Memory.answer]
    split
    · exact tells_recent _
    · exact .failed _

/-- The times of moves never go back, and a window reaches back from each of them. -/
structure Steady (settings : Offline.Settings) (window : Rat) (moves : List Move) : Prop where
  reaches : ∀ move ∈ moves, ∃ millis,
    move.time settings = .moment millis ∧ Time.Instant.Reaches window millis
  forward : moves.Pairwise fun earlier later =>
    (later.time settings).since (earlier.time settings) = true

/-- The later of two records is a grant by more than a window later, if both are grants of one user
in one watched direction. -/
def Apart (window : Rat) (earlier later : LogRecord) : Prop :=
  earlier.granted = true → later.granted = true → earlier.user = later.user →
    earlier.direction = later.direction → later.direction.isWatched = true →
    ∃ before after : Int, earlier.timestamp = some (.moment before) ∧
      later.timestamp = some (.moment after) ∧ window < after - before

def ClearAt (settings : Offline.Settings) (window : Rat) (moves : List Move)
    (log : List LogRecord) (user : Reference) (direction : Direction) : Prop :=
  ∃ move ∈ moves, ∃ millis : Int, move.time settings = .moment millis ∧
    ∀ record ∈ log, Memory.isGrant user direction record = true →
      ∃ earlier : Int, record.timestamp = some (.moment earlier) ∧
        (earlier : Rat) < millis - window

/-- One of the moves performed the search of a call for a recent grant, and at that time the log
held a grant of its user in its direction within the window. -/
def PassedRecently (settings : Offline.Settings) (window : Rat) (start : Scene)
    (moves : List Move) (id : CallId) : Prop :=
  ∃ before clock place after, moves = before ++ .work clock place :: after ∧
    (start.playAll before).ready[place]? = some (.enter id) ∧
    ∃ request call subject, (start.playAll before).requests[id]? = some request ∧
      (start.playAll before).desk.call? id = some call ∧
      call.walk = some (.queued subject) ∧
      ∃ record ∈ (start.playAll before).log,
        Memory.isGrant subject.user request.direction record = true ∧
        ∃ millis earlier : Int, (Move.work clock place).time settings = .moment millis ∧
          record.timestamp = some (.moment earlier) ∧ (millis : Rat) - window ≤ earlier

structure Plain (settings : Offline.Settings) (desk : Desk) : Prop where
  remote : desk.remote = none
  fallback : desk.fallback = .register
  offline : desk.offline = settings
  memory : ∃ memory outages, desk.store = .memory memory outages

structure Watched (settings : Offline.Settings) (window : Rat) (start : Scene)
    (moves : List Move) (scene : Scene) : Prop where
  plain : Plain settings scene.desk
  sound : scene.desk.locks.Sound
  single : ∀ key, (scene.desk.locks.line key).Nodup
  waiting : ∀ key id, id ∈ scene.desk.locks.line key →
    ∃ call, scene.desk.call? id = some call ∧ call.locked = key
  asked : ∀ id call, scene.desk.call? id = some call →
    scene.requests[id]? = some call.request
  standing : ∀ id call, scene.desk.call? id = some call →
    Standing (PassedRecently settings window start moves id)
      (ClearAt settings window moves scene.log) id call
      (scene.desk.locks.line call.locked) (jobsOf id scene.ready)
  ended : ∀ id, scene.desk.call? id = none → jobsOf id scene.ready = []
  timed : ∀ record ∈ scene.log, ∃ millis, record.timestamp = some (.moment millis)
  apart : scene.log.Pairwise (Apart window)
  outcomes : ∀ id outcome report, (id, outcome, report) ∈ scene.desk.outcomes →
    Offline.isPassback outcome = true → PassedRecently settings window start moves id

variable {settings : Offline.Settings} {window : Rat} {start scene : Scene} {moves : List Move}

theorem Scene.log_of_memory {memory : Memory} {outages : List (String × String)}
    (kept : scene.desk.store = .memory memory outages) : scene.log = memory.log := by
  simp only [Scene.log, Desk.memory?, kept]
  rfl

theorem PassedRecently.later {id : CallId}
    (passed : PassedRecently settings window start moves id) (move : Move) :
    PassedRecently settings window start (moves ++ [move]) id := by
  rcases passed with ⟨before, clock, place, after, rfl, found⟩
  exact ⟨before, clock, place, after ++ [move], by simp, found⟩

theorem ClearAt.later {log : List LogRecord} {user : Reference} {direction : Direction}
    (clear : ClearAt settings window moves log user direction) (move : Move) :
    ClearAt settings window (moves ++ [move]) log user direction := by
  rcases clear with ⟨earlier, member, found⟩
  exact ⟨earlier, List.mem_append_left _ member, found⟩

theorem ClearAt.append {log : List LogRecord} {user : Reference} {direction : Direction}
    (clear : ClearAt settings window moves log user direction) {record : LogRecord}
    (other : Memory.isGrant user direction record = false) :
    ClearAt settings window moves (log ++ [record]) user direction := by
  rcases clear with ⟨move, member, millis, time, old⟩
  refine ⟨move, member, millis, time, fun known present grant => ?_⟩
  rcases List.mem_append.mp present with present | last
  · exact old known present grant
  · rw [List.mem_singleton.mp last, other] at grant
    cases grant

theorem Watched.locked_eq (watched : Watched settings window start moves scene) {id : CallId}
    {call : Call} (live : scene.desk.call? id = some call) (key : Reference)
    (member : id ∈ scene.desk.locks.line key) : call.locked = key := by
  rcases watched.waiting key id member with ⟨known, same, locked⟩
  cases live.symm.trans same
  exact locked

theorem Watched.not_mem_line (watched : Watched settings window start moves scene)
    {id : CallId} {call : Call} (live : scene.desk.call? id = some call)
    (away : id ∉ scene.desk.locks.line call.locked) (key : Reference) :
    id ∉ scene.desk.locks.line key := by
  intro member
  exact away (watched.locked_eq live key member ▸ member)

theorem Watched.later (watched : Watched settings window start moves scene) (move : Move) :
    Watched settings window start (moves ++ [move]) scene where
  plain := watched.plain
  sound := watched.sound
  single := watched.single
  waiting := watched.waiting
  asked := watched.asked
  standing id call live :=
    (watched.standing id call live).mono (fun passed => passed.later move)
      fun _ clear => clear.later move
  ended := watched.ended
  timed := watched.timed
  apart := watched.apart
  outcomes id outcome report member passback :=
    (watched.outcomes id outcome report member passback).later move

end Gatehouse.Validation
