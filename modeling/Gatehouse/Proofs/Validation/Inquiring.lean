import Gatehouse.Proofs.Agenda.Timers
import Gatehouse.Proofs.Validation.Inquest
import Gatehouse.Proofs.Validation.Standing

/-!
# How an inquiry stands

A call that asks the authority stands in one of six ways, told by its stage, by what is seen of it
in time, by the one job that it has ready, and by the one timer that it waits for: `Inquiring`.
When all attempts have failed it walks through the register or has its outcome. Answers that are
on their way are no part of this; they belong to attempts that were begun, whether these are over
or not.
-/

namespace Gatehouse.Validation

open Gatehouse.Access Gatehouse.Authority Gatehouse.Register

/-- The call that goes on with a job. No call goes on with an answer that may come late. -/
def Job.duty? : Job → Option CallId
  | .answered .. => none
  | job => some job.call

def Alarm.duty? : Alarm → Option CallId
  | .attempt id _ | .pause id _ => some id
  | .answer .. => none

def Job.answers? : Job → Option (CallId × Nat)
  | .answered id attempt _ => some (id, attempt)
  | _ => none

def Alarm.answers? : Alarm → Option (CallId × Nat)
  | .answer id number _ => some (id, number)
  | _ => none

def dutiesOf (id : CallId) (jobs : List Job) : List Job :=
  Agenda.owned Job.duty? id jobs

def alarmsOf (id : CallId) (timers : Agenda.Timers Alarm) : List Alarm :=
  Agenda.owned Alarm.duty? id (timers.pending.map Agenda.Pending.item)

/-- The attempts to which answers are on their way. -/
def awaited (jobs : List Job) (timers : Agenda.Timers Alarm) : List (CallId × Nat) :=
  jobs.filterMap Job.answers? ++
    (timers.pending.map Agenda.Pending.item).filterMap Alarm.answers?

/-- How an inquiry stands in a stage, with what is seen of it, its jobs, and its timers. -/
inductive Inquiring (settings : Online.Settings) (retries : Nat) (id : CallId)
    (request : Request) : Online.Stage → List Incident → List Job → List Alarm → Prop
  | due {fates : List Fate} :
      fates.all Fate.fails = true → fates.length ≤ retries →
      Inquiring settings retries id request (.asking (fates.length + 1)) (tried id request fates)
        [.ask id (fates.length + 1)] [.attempt id (fates.length + 1)]
  | waiting {fates : List Fate} :
      fates.all Fate.fails = true → fates.length ≤ retries →
      Inquiring settings retries id request (.asking (fates.length + 1))
        (tried id request fates ++ [.asked id (fates.length + 1) request])
        [] [.attempt id (fates.length + 1)]
  | failing {fates : List Fate} {fate : Fate} {fault : Fault} :
      fates.all Fate.fails = true → fates.length ≤ retries → fate.fault? settings = some fault →
      Inquiring settings retries id request (.failing (fates.length + 1))
        (tried id request (fates ++ [fate])) [.recover id (fates.length + 1) fault] []
  | pausing {fates : List Fate} :
      fates.all Fate.fails = true → fates.length ≤ retries →
      Inquiring settings retries id request (.pausing fates.length) (tried id request fates)
        [] [.pause id fates.length]
  | resuming {fates : List Fate} :
      fates.all Fate.fails = true → fates.length ≤ retries →
      Inquiring settings retries id request (.pausing fates.length) (tried id request fates)
        [.resume id fates.length] []
  | decided {fates : List Fate} (verdict : Verdict) :
      fates.all Fate.fails = true → fates.length ≤ retries →
      Inquiring settings retries id request
        (.decided (fates.length + 1) (Online.decisionOf verdict request))
        (tried id request (fates ++ [.heard (.ok verdict)]))
        [.outcome id (.ok (Online.decisionOf verdict request))] []

/-- What was said by who decides without the authority, when it is about to be passed on. -/
def Job.advice? : Job → Option Incident
  | .leave id said | .outcome id said => some (.advised id said)
  | _ => none

/-- How a call stands in the line of its lock that walks through the register or has its outcome. -/
abbrev Walking (id : CallId) (call : Call) (line : List CallId) (jobs : List Job) : Prop :=
  Standing True (fun _ _ => True) id call line jobs

inductive Stands (settings : Online.Settings) (retries : Nat) (id : CallId) (call : Call)
    (line : List CallId) : List Incident → List Job → List Alarm → Prop
  | inquires {stage : Online.Stage} {seen : List Incident} {jobs : List Job}
      {alarms : List Alarm} :
      id ∉ line → call.inquiry = some stage →
      Inquiring settings retries id call.request stage seen jobs alarms →
      Stands settings retries id call line seen jobs alarms
  | referred {fates : List Fate} {fault : Fault} {jobs : List Job} :
      fates.all Fate.fails = true → fates.length = retries + 1 →
      fates.getLast?.bind (Fate.fault? settings) = some fault →
      call.inquiry = some (.fallback (retries + 1) fault) → Walking id call line jobs →
      Stands settings retries id call line
        (tried id call.request fates ++ .consulted id call.request :: jobs.filterMap Job.advice?)
        jobs []

/-- How it is with the call of a name: it was not brought yet, it has not ended, or it has. -/
inductive Situation (settings : Online.Settings) (retries : Nat) (id : CallId)
    (line : Reference → List CallId) :
    Option Request → Option Call → List Incident → List Job → List Alarm → List Result → Prop
  | unknown : Situation settings retries id line none none [] [] [] []
  | live {call : Call} {seen : List Incident} {jobs : List Job} {alarms : List Alarm} :
      Stands settings retries id call (line call.locked) seen jobs alarms →
      Situation settings retries id line (some call.request) (some call) seen jobs alarms []
  | ended {request : Request} {seen : List Incident} {result : Result} :
      Course settings retries id request seen (some result) →
      Situation settings retries id line (some request) none seen [] [] [result]

namespace Inquest

def desk (inquest : Inquest) : Desk :=
  inquest.scene.desk

def ready (inquest : Inquest) : List Job :=
  inquest.scene.ready

def promptOf (inquest : Inquest) (id : CallId) : List Incident :=
  prompt (incidentsOf id inquest.seen)

end Inquest

structure Inquired (settings : Online.Settings) (retries : Nat) (inquest : Inquest) : Prop where
  remote : ∃ remote, inquest.desk.remote = some (remote, settings)
  sound : inquest.desk.locks.Sound
  single : ∀ key, (inquest.desk.locks.line key).Nodup
  waiting : ∀ key id, id ∈ inquest.desk.locks.line key →
    ∃ call, inquest.desk.call? id = some call ∧ call.locked = key
  situation : ∀ id, Situation settings retries id inquest.desk.locks.line
    inquest.scene.requests[id]? (inquest.desk.call? id) (inquest.promptOf id)
    (dutiesOf id inquest.ready) (alarmsOf id inquest.desk.timers) (inquest.desk.resultsOf id)
  begun : ∀ attempt ∈ awaited inquest.ready inquest.desk.timers,
    ∃ request, .asked attempt.1 attempt.2 request ∈ inquest.seen

theorem dutiesOf_append (id : CallId) (left right : List Job) :
    dutiesOf id (left ++ right) = dutiesOf id left ++ dutiesOf id right :=
  Agenda.owned_append ..

theorem dutiesOf_singleton {id : CallId} {job : Job} (mine : job.duty? = some id) :
    dutiesOf id [job] = [job] :=
  Agenda.owned_cons_self mine []

theorem dutiesOf_singleton_of_ne {id other : CallId} {job : Job} (mine : job.duty? = some id)
    (different : other ≠ id) : dutiesOf other [job] = [] :=
  Agenda.owned_cons_of_ne (fun same => different (Option.some.inj (same.symm.trans mine))) []

section

variable {id other : CallId} {timers : Agenda.Timers Alarm} {alarm : Alarm}

theorem alarmsOf_set_of_ne (different : alarm.duty? ≠ some id) (clock : Agenda.Clock)
    (delay : Nat) : alarmsOf id (timers.set clock delay alarm) = alarmsOf id timers := by
  unfold alarmsOf Agenda.owned
  rw [List.filter_map, List.filter_map, Agenda.Timers.set, Agenda.Timers.filter_insert]
  simpa using different

theorem alarmsOf_set_self (mine : alarm.duty? = some id) (none_set : alarmsOf id timers = [])
    (clock : Agenda.Clock) (delay : Nat) :
    alarmsOf id (timers.set clock delay alarm) = [alarm] := by
  have perm := ((Agenda.Timers.insert_perm ⟨clock.now + delay, clock.stamp, alarm⟩
    timers.pending).map Agenda.Pending.item).filter fun alarm => alarm.duty? = some id
  have first : Agenda.owned Alarm.duty? id
      (alarm :: timers.pending.map Agenda.Pending.item) = [alarm] := by
    rw [Agenda.owned_cons_self mine, show Agenda.owned Alarm.duty? id _ = _ from none_set]
  exact List.perm_singleton.mp (perm.trans (.of_eq first))

theorem alarmsOf_cancel_self {attempt : Nat} (only : alarmsOf id timers = [.attempt id attempt]) :
    alarmsOf id (timers.cancel (Alarm.isAttempt id attempt)) = [] := by
  refine List.filter_eq_nil_iff.mpr fun alarm member mine => ?_
  rcases List.mem_map.mp member with ⟨timer, among, rfl⟩
  rcases Agenda.Timers.mem_pending_cancel.mp among with ⟨pending, kept⟩
  have known : timer.item ∈ alarmsOf id timers :=
    Agenda.mem_owned.mpr ⟨List.mem_map_of_mem pending, by simpa using mine⟩
  rw [only, List.mem_singleton] at known
  simp [known, Alarm.isAttempt] at kept

theorem eq_of_isAttempt {attempt : Nat} (same : alarm.isAttempt id attempt = true) :
    alarm = .attempt id attempt := by
  cases alarm <;> simp_all [Alarm.isAttempt]

theorem alarmsOf_cancel_of_ne (different : other ≠ id) (attempt : Nat) :
    alarmsOf other (timers.cancel (Alarm.isAttempt id attempt)) = alarmsOf other timers := by
  unfold alarmsOf Agenda.owned
  rw [List.filter_map, List.filter_map, Agenda.Timers.cancel, List.filter_filter]
  refine congrArg _ (List.filter_congr fun timer _ => ?_)
  by_cases mine : timer.item.duty? = some other
  · have kept : timer.item.isAttempt id attempt = false := by
      by_contra cancelled
      have same := eq_of_isAttempt (Bool.not_eq_false _ ▸ cancelled)
      rw [same] at mine
      exact different (Option.some.inj mine).symm
    simp [mine, kept]
  · simp [mine]

theorem alarmsOf_rest {timer : Agenda.Pending Alarm} (next : timers.next? = some timer) :
    alarmsOf id timers =
      (if timer.item.duty? = some id then [timer.item] else []) ++ alarmsOf id timers.rest := by
  rcases timers with ⟨_ | ⟨first, rest⟩⟩
  · cases next
  · cases next
    unfold alarmsOf Agenda.owned Agenda.Timers.rest
    rw [List.map_cons, List.filter_cons]
    split <;> simp_all

theorem mem_awaited {jobs : List Job} {attempt : CallId × Nat} :
    attempt ∈ awaited jobs timers ↔ (∃ job ∈ jobs, job.answers? = some attempt) ∨
      ∃ timer ∈ timers.pending, timer.item.answers? = some attempt := by
  simp [awaited]

end

end Gatehouse.Validation
