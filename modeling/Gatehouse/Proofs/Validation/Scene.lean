import Gatehouse.Proofs.Agenda.Pool
import Gatehouse.Proofs.Association
import Gatehouse.Proofs.Register.Recent
import Gatehouse.Validation.Desk
import Gatehouse.Validation.Offline

/-!
# Calls in any order

A scene is a desk to which requests are brought one after another, while the jobs of earlier calls
are performed in any order. `Scene.playAll` plays a list of moves; a move that finds no job to
perform changes nothing, so every list of moves is an order in which things can happen.

The walk of a call through the register goes on outside the lock of the user until it asks for that
lock. Outside, it never grants and never finds that somebody passed too recently: `start_eq_ask`,
`isOutside_resume` and `isOutside_check`. What was entered under the lock ends the walk:
`resume_granting` and `resume_denying_locked`.
-/

namespace Gatehouse.Validation.Offline

open Gatehouse.Access Gatehouse.Register

def isPassback : Except Fault Decision → Bool
  | .ok (.denied .antiPassback _ _) => true
  | _ => false

def Stage.isOutside : Stage → Bool
  | .code _ | .card _ | .holder .. => true
  | .denying reason phase => reason ≠ .antiPassback && phase ≠ .locked
  | .checks .. | .queued _ | .passback _ | .granting => false

/-- What may come next outside the lock: a question that enters no grant, a rest before the user is
checked, the lock of the user, or an outcome that is no denial because of a recent passage. -/
inductive Next.IsOutside (now : Time.Instant) : Next → Prop
  | ask {query : Query} {stage : Stage} :
      (∀ entry, query = .append entry → entry.granted = false ∧ entry.timestamp = some now) →
      stage.isOutside = true → Next.IsOutside now (.ask query stage)
  | rest (subject : Subject) (user : UserView) : Next.IsOutside now (.rest (.checks subject user))
  | acquire (subject : Subject) : Next.IsOutside now (.acquire subject.user (.queued subject))
  | finish {outcome : Except Fault Decision} (rounds : Nat) :
      isPassback outcome = false → Next.IsOutside now (.finish outcome rounds)

theorem isPassback_denial {request : Request} {reason : Denial} (other : reason ≠ .antiPassback) :
    isPassback (.ok (denial request reason)) = false := by
  cases reason <;> first | rfl | exact absurd rfl other

theorem isPassback_error (fault : Fault) : isPassback (.error fault) = false :=
  rfl

theorem isOutside_conclude (now : Time.Instant) {phase : Phase}
    {outcome : Except Fault Decision} (more : Nat)
    (outside : phase ≠ .locked) (other : isPassback outcome = false) :
    (conclude phase outcome more).IsOutside now := by
  cases phase with
  | resolving => exact .finish _ other
  | checking => exact .finish _ other
  | locked => exact absurd rfl outside

theorem isOutside_deny (settings : Settings) (now : Time.Instant) (request : Request)
    (subject : Subject) {reason : Denial} {phase : Phase} (other : reason ≠ .antiPassback)
    (outside : phase ≠ .locked) :
    (deny settings now request subject reason phase).IsOutside now := by
  unfold deny
  split
  · refine .ask ?_ (by simp [Stage.isOutside, other, outside])
    rintro entry ⟨⟩
    exact ⟨rfl, rfl⟩
  · exact isOutside_conclude now 1 outside (isPassback_denial other)

theorem start_eq_ask (request : Request) :
    ∃ query stage, start request = .ask query stage ∧ (∀ entry, query ≠ .append entry) ∧
      stage.isOutside = true := by
  unfold start
  split
  · exact ⟨_, _, rfl, by rintro entry ⟨⟩, rfl⟩
  · exact ⟨_, _, rfl, by rintro entry ⟨⟩, rfl⟩
  · exact ⟨_, _, rfl, by rintro entry ⟨⟩, rfl⟩

theorem isOutside_checkCard (settings : Settings) (now started : Time.Instant)
    (request : Request) (credential : String) (card : CardView) :
    (checkCard settings now started request credential card).IsOutside now := by
  unfold checkCard
  simp only
  split
  · exact isOutside_deny _ _ _ _ (by decide) (by decide)
  · split
    · exact .ask (fun _ append => nomatch append) rfl
    · exact isOutside_deny _ _ _ _ (by decide) (by decide)
    · exact .finish _ (isPassback_error _)

theorem isOutside_resume (settings : Settings) (now started : Time.Instant) (request : Request)
    {stage : Stage} (outside : stage.isOutside = true) (reply : Reply) :
    (resume settings now started request stage reply).IsOutside now := by
  unfold resume
  split
  · exact .finish _ (isPassback_error _)
  · exact .finish _ (isPassback_error _)
  · exact .finish _ (isPassback_error _)
  · exact .rest _ _
  · exact isOutside_deny _ _ _ _ (by decide) (by decide)
  · exact isOutside_checkCard ..
  · exact isOutside_deny _ _ _ _ (by decide) (by decide)
  · exact .rest _ _
  · exact isOutside_deny _ _ _ _ (by decide) (by decide)
  · next reason phase fault =>
      simp only [Stage.isOutside, Bool.and_eq_true, decide_eq_true_eq] at outside
      exact isOutside_conclude now 0 outside.2 (isPassback_error _)
  · next reason phase _ =>
      simp only [Stage.isOutside, Bool.and_eq_true, decide_eq_true_eq] at outside
      exact isOutside_conclude now 0 outside.2 (isPassback_denial outside.1)
  all_goals cases outside

theorem isOutside_check (settings : Settings) (now started : Time.Instant) (request : Request)
    (subject : Subject) (user : UserView) :
    (check settings now started request subject user).IsOutside now := by
  unfold check
  split
  · exact isOutside_deny _ _ _ _ (by decide) (by decide)
  · split
    · exact .finish _ (isPassback_error _)
    · exact isOutside_deny _ _ _ _ (by decide) (by decide)
    · split
      · exact .acquire subject
      · exact isOutside_deny _ _ _ _ (by decide) (by decide)

theorem resume_granting (settings : Settings) (now started : Time.Instant) (request : Request)
    (reply : Reply) :
    ∃ outcome rounds, resume settings now started request .granting reply =
      .leave outcome rounds ∧ isPassback outcome = false := by
  cases reply <;> exact ⟨_, _, rfl, rfl⟩

/-- A denial that was entered under the lock ends the walk, whatever the register says. -/
theorem resume_denying_locked (settings : Settings) (now started : Time.Instant)
    (request : Request) (reason : Denial) (reply : Reply) :
    ∃ outcome rounds, resume settings now started request (.denying reason .locked) reply =
      .leave outcome rounds := by
  cases reply <;> exact ⟨_, _, rfl⟩

end Gatehouse.Validation.Offline

namespace Gatehouse.Validation

open Gatehouse.Access Gatehouse.Register

/-- The call that a job belongs to. -/
def Job.call : Job → CallId
  | .replied call _ | .check call | .enter call | .leave call _ | .ask call _
  | .answered call _ _ | .recover call _ _ | .resume call _ | .outcome call _ => call

def jobsOf (id : CallId) (jobs : List Job) : List Job :=
  Agenda.owned (fun job => some job.call) id jobs

/-- What happens at a desk: a request is brought, or a job is performed. -/
inductive Move where
  | call (clock : Agenda.Clock) (request : Request)
  | work (clock : Agenda.Clock) (place : Nat)

/-- When a move happens. -/
def Move.clock : Move → Agenda.Clock
  | .call clock _ | .work clock _ => clock

/-- The time of a move by the clock of the register. -/
def Move.time (settings : Offline.Settings) (move : Move) : Time.Instant :=
  Agenda.Clock.instant (move.clock.later settings.ahead)

/-- A desk with its ready jobs, and the requests that were brought to it. Calls are named by the
places of their requests. -/
structure Scene where
  requests : List Request
  pool : Agenda.Pool Desk Job

namespace Scene

/-- A desk to which nothing was brought. -/
def start (desk : Desk) : Scene :=
  { requests := [], pool := ⟨desk, []⟩ }

/-- The desk. -/
def desk (scene : Scene) : Desk :=
  scene.pool.state

def ready (scene : Scene) : List Job :=
  scene.pool.ready

/-- The log of the register in memory. -/
def log (scene : Scene) : List LogRecord :=
  (scene.desk.memory?.map Memory.log).getD []

/-- What a move does. -/
def play (scene : Scene) : Move → Scene
  | .call clock request =>
      { requests := scene.requests ++ [request]
        pool := scene.pool.after (scene.desk.begin clock scene.requests.length request) }
  | .work clock place => { scene with pool := scene.pool.work Desk.perform clock place }

/-- What moves do one after another. -/
def playAll (scene : Scene) (moves : List Move) : Scene :=
  moves.foldl play scene

theorem playAll_concat (scene : Scene) (moves : List Move) (move : Move) :
    scene.playAll (moves ++ [move]) = (scene.playAll moves).play move := by
  rw [playAll, List.foldl_append]
  rfl

end Scene

theorem jobsOf_append (id : CallId) (left right : List Job) :
    jobsOf id (left ++ right) = jobsOf id left ++ jobsOf id right :=
  List.filter_append ..

theorem jobsOf_cons_self (job : Job) (jobs : List Job) :
    jobsOf job.call (job :: jobs) = job :: jobsOf job.call jobs := by
  simp [jobsOf, Agenda.owned]

theorem jobsOf_singleton (id : CallId) (job : Job) :
    jobsOf id [job] = if job.call = id then [job] else [] := by
  by_cases same : job.call = id <;> simp [jobsOf, Agenda.owned, same]

/-- A call that is let in if its lock is free has the job of entering, and no other call has. -/
theorem jobsOf_enter_if (id other : CallId) (free : Bool) :
    jobsOf other ((if free then [(0, .enter id)] else [] : Agenda.Line Job).map Prod.snd) =
      if id = other ∧ free then [.enter id] else [] := by
  apply Agenda.owned_if
  rfl

/-- Where a job is the only one of its call, nothing else is left when it is taken away. -/
theorem jobsOf_rest_of_single {id : CallId} {front back : List Job} {job only : Job}
    (mine : job.call = id) (single : jobsOf id (front ++ job :: back) = [only]) :
    only = job ∧ jobsOf id (front ++ back) = [] :=
  Agenda.owned_rest_of_single (congrArg some mine) single

theorem jobsOf_rest_of_ne {id : CallId} {job : Job} (other : job.call ≠ id)
    (front back : List Job) : jobsOf id (front ++ back) = jobsOf id (front ++ job :: back) := by
  unfold jobsOf
  rw [Agenda.owned_rest_of_ne]
  exact fun same => other (Option.some.inj same)

namespace Desk

theorem call?_setCall (desk : Desk) (id other : CallId) (call : Call) :
    (desk.setCall id call).call? other =
      if other = id then some call else desk.call? other :=
  Association.lookup_replaced other id call desk.calls

theorem call?_close (desk : Desk) (id other : CallId) (outcome : Except Fault Decision) :
    (desk.close id outcome).call? other =
      if other = id then none else desk.call? other :=
  Association.lookup_filter_ne other id desk.calls

theorem query_memory {desk : Desk} {memory : Memory} {outages : List (String × String)}
    (kept : desk.store = .memory memory outages) (query : Query) :
    desk.query query =
      ({ desk with store := .memory (memory.answerUnless outages query).1 outages },
        (memory.answerUnless outages query).2, 0) := by
  unfold Desk.query
  rw [kept]

theorem perform_leave {desk : Desk} {id : CallId} {call : Call}
    (live : desk.call? id = some call) (clock : Agenda.Clock) (outcome : Except Fault Decision) :
    Desk.perform clock (.leave id outcome) desk =
      ({ desk with locks := (desk.locks.release call.locked).1 },
        (desk.locks.release call.locked).2.toList.map (fun other => (1, .enter other)) ++
          [(1 + roundsOfInquiry call, .outcome id outcome)]) := by
  simp only [perform, live]
  cases (desk.locks.release call.locked).2 <;> rfl

end Desk

end Gatehouse.Validation
