import Gatehouse.Proofs.Validation.Beats

/-!
# What is left to do

Every job, every timer and every call counts for what it can still give rise to: `Inquest.toil`.
A beat that finds something to do lessens it (`Inquired.toil_lt`), whatever the authority does, so
an inquest to which nothing more is brought comes to rest. Then every call has ended
(`Inquired.ended_of_quiet`): those who wait for a lock do so for one who holds it and has a job.
-/

namespace Gatehouse.Validation

open Gatehouse.Access Gatehouse.Authority Gatehouse.Register

namespace Offline

def Stage.toil : Stage → Nat
  | .code _ | .card _ => 8
  | .holder .. => 7
  | .checks .. => 6
  | .queued _ => 5
  | .passback _ => 1
  | .granting | .denying .. => 0

def Next.toil (stage : Stage) : Next → Nat
  | .ask _ next | .rest next => 6 + next.toil
  | .acquire _ next => 3 + next.toil
  | .finish .. => 1 + stage.toil
  | .leave .. => 5 + stage.toil

theorem Stage.toil_le (stage : Stage) : stage.toil ≤ 8 := by
  cases stage <;> simp [toil]

variable (settings : Settings) (now started : Time.Instant) (request : Request)

theorem toil_conclude (stage : Stage) (phase : Phase) (outcome : Except Fault Decision)
    (more : Nat) : (conclude phase outcome more).toil stage < 6 + stage.toil := by
  cases phase <;> simp [conclude, Next.toil]

theorem toil_deny (stage : Stage) (far : 0 < stage.toil) (subject : Subject) (reason : Denial)
    (phase : Phase) : (deny settings now request subject reason phase).toil stage <
      6 + stage.toil := by
  unfold deny
  split
  · simpa [Next.toil, Stage.toil] using far
  · exact toil_conclude stage phase _ _

theorem toil_checkCard (credential : String) (card : CardView) :
    (checkCard settings now started request credential card).toil (.card credential) <
      6 + (Stage.card credential).toil := by
  have denies := toil_deny settings now request (.card credential) (by simp [Stage.toil])
  unfold checkCard
  simp only
  split
  · exact denies _ _ _
  · split
    · simp [Next.toil, Stage.toil]
    · exact denies _ _ _
    · simp [Next.toil]

theorem toil_resume {stage : Stage} (checks : ∀ subject user, stage ≠ .checks subject user)
    (queued : ∀ subject, stage ≠ .queued subject) (reply : Reply) :
    (resume settings now started request stage reply).toil stage < 6 + stage.toil := by
  have denies (far : 0 < stage.toil) := toil_deny settings now request stage far
  unfold resume
  split
  · simp [Next.toil]
  · simp [Next.toil]
  · simp [Next.toil]
  · simp [Next.toil, Stage.toil]
  · exact denies (by simp [Stage.toil]) _ _ _
  · exact toil_checkCard ..
  · exact denies (by simp [Stage.toil]) _ _ _
  · simp [Next.toil, Stage.toil]
  · exact denies (by simp [Stage.toil]) _ _ _
  · exact toil_conclude ..
  · exact toil_conclude ..
  · simp [Next.toil]
  · exact denies (by simp [Stage.toil]) _ _ _
  · simp [recordGrant, Next.toil, Stage.toil]
  · simp [Next.toil]
  · simp [Next.toil]
  · exact absurd rfl (checks _ _)
  · exact absurd rfl (queued _)

theorem toil_check (subject : Subject) (user : UserView) :
    (check settings now started request subject user).toil (.checks subject user) <
      6 + (Stage.checks subject user).toil := by
  have denies := toil_deny settings now request (.checks subject user) (by simp [Stage.toil])
  unfold check
  split
  · exact denies _ _ _
  · split
    · simp [Next.toil]
    · exact denies _ _ _
    · split
      · simp [Next.toil, Stage.toil]
      · exact denies _ _ _

theorem toil_enter (subject : Subject) :
    (enter settings now request subject).toil (.queued subject) <
      3 + (Stage.queued subject).toil := by
  unfold enter
  split <;> simp [recordGrant, Next.toil, Stage.toil]

end Offline

/-- What an inquiry can still give rise to, its job and its timer apart, where a walk that follows
it can give rise to something. -/
def Online.Stage.toil (retries walk : Nat) : Stage → Nat
  | .asking attempt => 16 + 8 * (retries + 1 - attempt)
  | .failing attempt => 15 + 8 * (retries + 1 - attempt)
  | .pausing attempt => 12 + 8 * (retries + 1 - attempt)
  | .fallback .. => walk
  | .resting _ | .decided .. => 0

/-- What is left of an inquiry after a step of a call that could give rise to something before. -/
def Online.Next.toil (retries before : Nat) : Online.Next → Nat
  | .attempt number => 18 + 8 * (retries + 1 - number)
  | .pause number => 14 + 8 * (retries + 1 - number)
  | .recover number _ => 15 + 8 * (retries + 1 - number)
  | .fallBack .. => 14
  | .decide .. => 1
  | .nothing => before

def Call.toil (retries : Nat) (call : Call) : Nat :=
  match call.inquiry with
  | some stage => stage.toil retries (call.walk.elim 0 Offline.Stage.toil)
  | none => 0

def Job.toil : Job → Nat
  | .replied .. | .check _ => 6
  | .enter _ => 3
  | .leave .. => 5
  | .ask .. => 2
  | .answered .. | .resume .. | .outcome .. => 1
  | .recover .. => 0

def Alarm.toil : Alarm → Nat
  | .attempt .. => 0
  | .pause .. => 2
  | .answer .. => 1

def timersToil (timers : Agenda.Timers Alarm) : Nat :=
  (timers.pending.map fun timer => timer.item.toil).sum

def callsToil (retries : Nat) (calls : List (CallId × Call)) : Nat :=
  (calls.map fun entry => entry.2.toil retries).sum

def jobsToil (jobs : List Job) : Nat :=
  (jobs.map Job.toil).sum

def Desk.toil (retries : Nat) (desk : Desk) : Nat :=
  timersToil desk.timers + callsToil retries desk.calls

def leftToil (retries : Nat) (outcome : Desk × Agenda.Line Job) : Nat :=
  outcome.1.toil retries + jobsToil (outcome.2.map Prod.snd)

def Inquest.toil (retries : Nat) (inquest : Inquest) : Nat :=
  inquest.desk.toil retries + jobsToil inquest.ready

@[simp] theorem jobsToil_append (left right : List Job) :
    jobsToil (left ++ right) = jobsToil left + jobsToil right := by
  simp [jobsToil]

@[simp] theorem jobsToil_cons (job : Job) (jobs : List Job) :
    jobsToil (job :: jobs) = job.toil + jobsToil jobs :=
  List.sum_cons

@[simp] theorem jobsToil_nil : jobsToil [] = 0 :=
  rfl

section

variable (retries : Nat) {id : CallId} {call : Call}

theorem callsToil_append (left right : List (CallId × Call)) :
    callsToil retries (left ++ right) = callsToil retries left + callsToil retries right := by
  simp [callsToil]

theorem callsToil_cons (calls : List (CallId × Call)) :
    callsToil retries ((id, call) :: calls) = call.toil retries + callsToil retries calls :=
  List.sum_cons

theorem callsToil_filter_le (kept : CallId × Call → Bool) (calls : List (CallId × Call)) :
    callsToil retries (calls.filter kept) ≤ callsToil retries calls :=
  (List.filter_sublist.map _).sum_le_sum fun _ _ => Nat.zero_le _

theorem callsToil_without {calls : List (CallId × Call)} (live : calls.lookup id = some call) :
    callsToil retries (calls.filter fun (other, _) => other != id) + call.toil retries ≤
      callsToil retries calls := by
  rcases List.lookup_eq_some_iff.mp live with ⟨front, back, rfl, -⟩
  have before := callsToil_filter_le retries (fun (other, _) => other != id) front
  have behind := callsToil_filter_le retries (fun (other, _) => other != id) back
  rw [List.filter_append, List.filter_cons_of_neg (by simp), callsToil_append, callsToil_append,
    callsToil_cons]
  omega

end

section

variable {timers : Agenda.Timers Alarm}

theorem timersToil_set (clock : Agenda.Clock) (delay : Nat) (alarm : Alarm) :
    timersToil (timers.set clock delay alarm) = alarm.toil + timersToil timers := by
  have perm := (Agenda.Timers.insert_perm ⟨clock.now + delay, clock.stamp, alarm⟩
    timers.pending).map fun timer => timer.item.toil
  exact perm.sum_eq.trans List.sum_cons

theorem timersToil_rest {timer : Agenda.Pending Alarm} (next : timers.next? = some timer) :
    timersToil timers = timer.item.toil + timersToil timers.rest := by
  rcases timers with ⟨_ | ⟨first, rest⟩⟩
  · cases next
  · cases next
    exact List.sum_cons

theorem timersToil_cancel (chosen : Alarm → Bool) :
    timersToil (timers.cancel chosen) ≤ timersToil timers :=
  ((List.filter_sublist (l := timers.pending)).map _).sum_le_sum fun _ _ => Nat.zero_le _

end

namespace Desk

variable (retries : Nat) {desk : Desk} {id : CallId} {call : Call}

theorem toil_setCall (live : desk.call? id = some call) (next : Call) :
    (desk.setCall id next).toil retries + call.toil retries ≤
      desk.toil retries + next.toil retries := by
  have others := callsToil_without retries live
  simp only [toil, setCall, callsToil_append, callsToil_cons]
  simp only [callsToil, List.map_nil, List.sum_nil] at *
  omega

theorem toil_close (desk : Desk) (id : CallId) (outcome : Except Fault Decision) :
    (desk.close id outcome).toil retries ≤ desk.toil retries :=
  Nat.add_le_add_left (callsToil_filter_le ..) _

theorem toil_query (desk : Desk) (query : Query) :
    (desk.query query).1.toil retries = desk.toil retries := by
  unfold Desk.query
  split <;> rfl

theorem call?_query (query : Query) (id : CallId) :
    (desk.query query).1.call? id = desk.call? id :=
  congrArg (List.lookup id) (desk.holds_query id query).calls

/-- A step of a walk lessens what is left by as much as the walk gets nearer to its end. -/
theorem toil_stepOffline (live : desk.call? id = some call) {stage : Offline.Stage}
    (walk : call.walk = some stage) {attempts : Nat} {cause : Fault}
    (referred : call.inquiry = some (.fallback attempts cause)) (next : Offline.Next) :
    leftToil retries (desk.stepOffline id call next) + stage.toil ≤
      desk.toil retries + next.toil stage := by
  have here : call.toil retries = stage.toil := by
    simp [Call.toil, referred, walk, Online.Stage.toil]
  have moved (stage : Offline.Stage) (locked : Reference) :
      { call with walk := some stage, locked := locked }.toil retries = stage.toil := by
    simp [Call.toil, referred, Online.Stage.toil]
  cases next with
  | ask query next =>
      have live : (desk.query query).1.call? id = some call := (call?_query query id).trans live
      have set := toil_setCall retries live { call with walk := some next }
      have same := desk.toil_query retries query
      have moved := moved next call.locked
      simp only [stepOffline, leftToil, List.map_cons, List.map_nil, jobsToil_cons, jobsToil_nil,
        Job.toil, Offline.Next.toil]
      omega
  | rest next =>
      have set := toil_setCall retries live { call with walk := some next }
      have moved := moved next call.locked
      simp only [stepOffline, leftToil, List.map_cons, List.map_nil, jobsToil_cons, jobsToil_nil,
        Job.toil, Offline.Next.toil]
      omega
  | acquire user next =>
      let queued : Desk := { desk with locks := (desk.locks.acquire user id).1 }
      have live : queued.call? id = some call := live
      have set := toil_setCall retries live
        { call with walk := some next, locked := user }
      have same : queued.toil retries = desk.toil retries := rfl
      have moved := moved next user
      have enters : jobsToil ((if (desk.locks.acquire user id).2 then [(0, .enter id)] else [] :
          Agenda.Line Job).map Prod.snd) ≤ 3 := by
        split <;> simp [Job.toil]
      have step : desk.stepOffline id call (.acquire user next) =
          (queued.setCall id { call with walk := some next, locked := user },
            if (desk.locks.acquire user id).2 then [(0, .enter id)] else []) := rfl
      rw [step]
      simp only [leftToil, Offline.Next.toil]
      omega
  | finish outcome rounds =>
      simp only [stepOffline, leftToil, List.map_cons, List.map_nil, jobsToil_cons, jobsToil_nil,
        Job.toil, Offline.Next.toil]
      omega
  | leave outcome rounds =>
      simp only [stepOffline, leftToil, List.map_cons, List.map_nil, jobsToil_cons, jobsToil_nil,
        Job.toil, Offline.Next.toil]
      omega

theorem toil_inquiry (live : desk.call? id = some call) (after : Desk)
    (calls : after.calls = desk.calls) (stage : Online.Stage) (line : Agenda.Line Job) :
    leftToil retries (after.setCall id { call with inquiry := some stage }, line) +
        call.toil retries ≤
      timersToil after.timers + callsToil retries desk.calls +
        stage.toil retries (call.walk.elim 0 Offline.Stage.toil) +
          jobsToil (line.map Prod.snd) := by
  have live : after.call? id = some call := (congrArg (List.lookup id) calls).trans live
  have set := toil_setCall retries live { call with inquiry := some stage }
  have here : Call.toil retries { call with inquiry := some stage } =
      stage.toil retries (call.walk.elim 0 Offline.Stage.toil) := rfl
  have before : after.toil retries = timersToil after.timers + callsToil retries desk.calls := by
    rw [toil, calls]
  simp only [leftToil]
  omega

theorem toil_decideLocally (live : desk.call? id = some call) (clock : Agenda.Clock)
    (attempts : Nat) (fault : Fault) :
    leftToil retries (desk.decideLocally clock id
        { call with inquiry := some (.fallback attempts fault) }) + call.toil retries ≤
      desk.toil retries + 14 := by
  cases local_is : desk.fallback with
  | fixed outcome =>
      have step : desk.decideLocally clock id
          { call with inquiry := some (.fallback attempts fault) } =
          (desk.setCall id { call with inquiry := some (.fallback attempts fault) },
            [(2, .outcome id outcome)]) := by
        simp [decideLocally, local_is, roundsOfInquiry]
      have moved := toil_inquiry retries live desk rfl (.fallback attempts fault)
        [(2, .outcome id outcome)]
      have far : call.walk.elim 0 Offline.Stage.toil ≤ 8 := by
        cases call.walk with
        | none => exact Nat.zero_le _
        | some stage => exact stage.toil_le
      rw [step]
      simp only [Online.Stage.toil, List.map_cons, List.map_nil, jobsToil_cons, jobsToil_nil,
        Job.toil] at moved
      rw [toil]
      omega
  | register =>
      rcases Offline.start_eq_ask call.request with ⟨query, stage, first, -, -⟩
      let next : Call :=
        { call with inquiry := some (.fallback attempts fault), started := desk.now clock
                    walk := some stage }
      let asking : Call := { call with inquiry := some (.fallback attempts fault) }
      have begins : Offline.start asking.request = .ask query stage := first
      have step := decideLocally_register local_is begins clock id
      have live : (desk.query query).1.call? id = some call := (call?_query query id).trans live
      have set := toil_setCall retries live next
      have same := desk.toil_query retries query
      have far : next.toil retries ≤ 8 := stage.toil_le
      have left : leftToil retries ((desk.query query).1.setCall id next,
          [((desk.query query).2.2, .replied id (desk.query query).2.1)]) =
          ((desk.query query).1.setCall id next).toil retries + 6 := rfl
      rw [step, left]
      omega

theorem toil_stepOnline (live : desk.call? id = some call) (clock : Agenda.Clock)
    (settings : Online.Settings) (next : Online.Next) :
    leftToil retries (desk.stepOnline clock settings id call next) + call.toil retries ≤
      desk.toil retries + next.toil retries (call.toil retries) := by
  have moved := toil_inquiry retries live
  cases next with
  | attempt number =>
      let timers :=
        desk.timers.set clock (Agenda.delay settings.timeout) (.attempt id number)
      have moved := moved { desk with timers := timers } rfl (.asking number) [(0, .ask id number)]
      simp only [timers, timersToil_set, Alarm.toil, Online.Stage.toil, List.map_cons, List.map_nil,
        jobsToil_cons, jobsToil_nil, Job.toil] at moved
      simp only [stepOnline, Online.Next.toil, toil]
      omega
  | pause attempt =>
      let timers := desk.timers.set clock (Agenda.delay settings.pause) (.pause id attempt)
      have moved := moved { desk with timers := timers } rfl (.pausing attempt) []
      simp only [timers, timersToil_set, Alarm.toil, Online.Stage.toil, List.map_nil,
        jobsToil_nil] at moved
      simp only [stepOnline, Online.Next.toil, toil]
      omega
  | recover attempt fault =>
      have moved := moved desk rfl (.failing attempt) [(0, .recover id attempt fault)]
      simp only [Online.Stage.toil, List.map_cons, List.map_nil, jobsToil_cons, jobsToil_nil,
        Job.toil] at moved
      simp only [stepOnline, Online.Next.toil, toil]
      omega
  | fallBack attempts fault =>
      let referred : Desk := { desk with fallbacks := desk.fallbacks + 1 }
      have live : referred.call? id = some call := live
      exact toil_decideLocally retries live clock attempts fault
  | decide attempts decision =>
      have moved := moved desk rfl (.decided attempts decision) [(2, .outcome id (.ok decision))]
      simp only [Online.Stage.toil, List.map_cons, List.map_nil, jobsToil_cons, jobsToil_nil,
        Job.toil] at moved
      simp only [stepOnline, Online.Next.toil, toil]
      omega
  | nothing => simp [stepOnline, leftToil, Online.Next.toil]

theorem toil_ask (desk : Desk) (clock : Agenda.Clock) (remote : Remote) (id : CallId) (call : Call)
    (attempt : Nat) :
    leftToil retries (desk.ask clock remote id call attempt) < desk.toil retries + 2 := by
  unfold ask
  dsimp only
  split
  · exact Nat.lt_succ_self _
  · simp only [leftToil, toil, timersToil_set, Alarm.toil, List.map_nil, jobsToil_nil]
    omega
  · exact Nat.lt_add_of_pos_right (Nat.succ_pos 1)

theorem toil_hear (desk : Desk) (clock : Agenda.Clock) (id : CallId) (attempt : Nat)
    (result : Except Fault Verdict) :
    leftToil retries (desk.hear clock id attempt result) ≤ desk.toil retries := by
  have idle : leftToil retries (desk, []) ≤ desk.toil retries := le_refl _
  unfold hear
  split
  · next call _ settings live _ =>
      split
      · next stage inquiry =>
          have here : call.toil retries =
              stage.toil retries (call.walk.elim 0 Offline.Stage.toil) := by
            rw [Call.toil, inquiry]
          have no_more : (Online.answered call.request stage attempt result).toil retries
              (call.toil retries) ≤ call.toil retries := by
            unfold Online.answered
            split
            · split
              · simp [Online.Next.toil, here, Online.Stage.toil]
                omega
              · exact le_refl _
            · split
              · next same =>
                  simp [Online.Next.toil, here, Online.Stage.toil, same]
              · exact le_refl _
            · exact le_refl _
          have stepped (timers : Agenda.Timers Alarm)
              (fewer : timersToil timers ≤ timersToil desk.timers) :
              leftToil retries ({ desk with timers := timers }.stepOnline clock settings id call
                (Online.answered call.request stage attempt result)) ≤ desk.toil retries := by
            have live : { desk with timers := timers }.call? id = some call := live
            have left := toil_stepOnline retries live clock settings
              (Online.answered call.request stage attempt result)
            simp only [toil] at left ⊢
            omega
          refine stepped _ ?_
          split
          · exact le_refl _
          · exact timersToil_cancel _
      · exact idle
  · exact idle

end Desk

section

variable {settings : Online.Settings} {retries : Nat} {inquest : Inquest} {id : CallId}

theorem Inquired.toil_walk (inquired : Inquired settings retries inquest) {front back : List Job}
    {job : Job} (whole : inquest.ready = front ++ job :: back) (mine : job.duty? = some id)
    (register : ∀ request stage seen alarms,
      ¬Inquiring settings retries id request stage seen [job] alarms)
    (quiet : job.advice? = none) (clock : Agenda.Clock) :
    leftToil retries (Desk.perform clock job inquest.desk) <
      inquest.desk.toil retries + job.toil := by
  rcases inquired.on_duty whole mine with ⟨call, known, -⟩
  rcases known.stands.of_walk (register call.request) with
    ⟨fates, fault, -, referred, -, -, walking⟩
  have steps {stage : Offline.Stage} {next : Offline.Next} (walk : call.walk = some stage)
      (goesOn : inquest.desk.walkOn? clock job = some next) (here : job.call = id)
      (nearer : next.toil stage < job.toil + stage.toil) :
      leftToil retries (Desk.perform clock job inquest.desk) <
        inquest.desk.toil retries + job.toil := by
    have stepped := Desk.toil_stepOffline retries known.live walk referred next
    rw [(Desk.perform_walk goesOn (here ▸ known.live)).1, here]
    omega
  cases walking with
  | @outside stage reply away walk apart =>
      refine steps walk (Desk.walkOn?_replied known.live clock walk reply) rfl
        (Offline.toil_resume _ _ _ _ (fun subject user same => ?_) (fun subject same => ?_) reply)
      · cases same ▸ apart
      · cases same ▸ apart
  | @checking subject user away walk =>
      exact steps walk (Desk.walkOn?_check known.live clock walk) rfl (Offline.toil_check ..)
  | @called subject holds walk locked =>
      exact steps walk (Desk.walkOn?_enter known.live clock walk) rfl (Offline.toil_enter ..)
  | @looking subject reply holds walk locked tells =>
      exact steps walk (Desk.walkOn?_replied known.live clock walk reply) rfl
        (Offline.toil_resume _ _ _ _ (by simp) (by simp) reply)
  | @granting reply holds walk =>
      exact steps walk (Desk.walkOn?_replied known.live clock walk reply) rfl
        (Offline.toil_resume _ _ _ _ (by simp) (by simp) reply)
  | @refusing reply holds walk passed =>
      exact steps walk (Desk.walkOn?_replied known.live clock walk reply) rfl
        (Offline.toil_resume _ _ _ _ (by simp) (by simp) reply)
  | leaving holds reason => cases quiet
  | done away reason => cases quiet

theorem Inquired.toil_perform (inquired : Inquired settings retries inquest)
    (allows : ∀ failed, settings.allows failed = decide (failed ≤ retries))
    {front back : List Job} {job : Job} (whole : inquest.ready = front ++ job :: back)
    (clock : Agenda.Clock) :
    leftToil retries (Desk.perform clock job inquest.desk) <
      inquest.desk.toil retries + job.toil := by
  rcases inquired.remote with ⟨remote, asks⟩
  cases job with
  | replied id reply =>
      exact inquired.toil_walk whole rfl (fun _ _ _ _ inquiring => nomatch inquiring) rfl clock
  | check id =>
      exact inquired.toil_walk whole rfl (fun _ _ _ _ inquiring => nomatch inquiring) rfl clock
  | enter id =>
      exact inquired.toil_walk whole rfl (fun _ _ _ _ inquiring => nomatch inquiring) rfl clock
  | leave id outcome =>
      have mine : (Job.leave id outcome).duty? = some id := rfl
      rcases inquired.on_duty whole mine with ⟨call, known, -⟩
      have enters : jobsToil (((inquest.desk.locks.release call.locked).2.toList.map fun other =>
          ((1, .enter other) : Nat × Job)).map Prod.snd) ≤ 3 := by
        cases (inquest.desk.locks.release call.locked).2 <;> simp [Job.toil]
      rw [Desk.perform_leave known.live]
      simp only [leftToil, List.map_append, List.map_cons, List.map_nil, jobsToil_append,
        jobsToil_cons, jobsToil_nil, Job.toil]
      show inquest.desk.toil retries + _ < _
      omega
  | ask id attempt =>
      have mine : (Job.ask id attempt).duty? = some id := rfl
      rcases inquired.on_duty whole mine with ⟨call, known, -⟩
      rw [Desk.perform_ask known.live asks]
      exact inquest.desk.toil_ask retries clock remote id call attempt
  | answered id attempt result =>
      exact Nat.lt_succ_of_le (inquest.desk.toil_hear retries clock id attempt result)
  | recover id attempt fault =>
      have mine : (Job.recover id attempt fault).duty? = some id := rfl
      rcases inquired.on_duty whole mine with ⟨call, known, -⟩
      rcases known.stands.of_recover with ⟨-, -, fates, fate, number, -, count, -, stage, -⟩
      have stepped := Desk.toil_stepOnline retries known.live clock settings
        (Online.caught settings attempt fault)
      have here : call.toil retries = 15 + 8 * (retries + 1 - attempt) := by
        simp [Call.toil, stage, Online.Stage.toil]
      have nearer : (Online.caught settings attempt fault).toil retries (call.toil retries) <
          call.toil retries := by
        rw [Online.caught, allows, here]
        split
        · next more =>
            have more : attempt ≤ retries := of_decide_eq_true more
            split <;> simp only [Online.Next.toil] <;> omega
        · simp only [Online.Next.toil]
          omega
      rw [Desk.perform_recover known.live asks]
      omega
  | resume id attempt =>
      have mine : (Job.resume id attempt).duty? = some id := rfl
      rcases inquired.on_duty whole mine with ⟨call, known, -⟩
      rcases known.stands.of_resume with ⟨-, -, fates, number, -, count, stage, -⟩
      have stepped := Desk.toil_stepOnline retries known.live clock settings
        (.attempt (attempt + 1))
      have here : call.toil retries = 12 + 8 * (retries + 1 - attempt) := by
        simp [Call.toil, stage, Online.Stage.toil]
      rw [Desk.perform_resume known.live asks]
      simp only [Online.Next.toil, Job.toil] at *
      omega
  | outcome id outcome =>
      exact Nat.lt_succ_of_le (inquest.desk.toil_close retries id outcome)

theorem Inquired.toil_ring (inquired : Inquired settings retries inquest) {due : Rat}
    {stamp : Nat} {alarm : Alarm}
    (next : inquest.desk.timers.next? = some ⟨due, stamp, alarm⟩)
    (put : ∀ job ∈ inquest.ready, job.isAsk = false) (clock : Agenda.Clock) :
    leftToil retries (inquest.desk.ring clock alarm) < inquest.desk.toil retries := by
  let rest : Desk := { inquest.desk with timers := inquest.desk.timers.rest }
  have taken : inquest.desk.toil retries = alarm.toil + rest.toil retries := by
    rw [Desk.toil, timersToil_rest next, Nat.add_assoc]
    rfl
  cases alarm with
  | attempt id attempt =>
      rcases inquired.expiring next put with ⟨call, fates, known, -, -, -, -, -, -, stage, -⟩
      rcases inquired.remote with ⟨remote, asks⟩
      have live : (rest.giveUp id attempt).call? id = some call := known.live
      have stepped := Desk.toil_stepOnline retries live clock settings
        (.recover attempt (.authorityTimeout settings.timeout))
      have same : (rest.giveUp id attempt).toil retries = rest.toil retries := rfl
      have here : call.toil retries = 16 + 8 * (retries + 1 - attempt) := by
        simp [Call.toil, stage, Online.Stage.toil]
      rw [taken, Desk.ring_attempt known.live asks stage]
      show leftToil retries ((rest.giveUp id attempt).stepOnline clock settings id call _) <
        0 + rest.toil retries
      simp only [Online.Next.toil] at stepped
      omega
  | pause id attempt =>
      rw [taken]
      show rest.toil retries + 1 < 2 + rest.toil retries
      omega
  | answer id attempt result =>
      have heard := rest.toil_hear retries clock id attempt result
      rw [taken]
      show leftToil retries (rest.hear clock id attempt result) < 1 + rest.toil retries
      omega

end

/-- Whether there is something to do for a beat: a job at its place, or a timer that may fire. -/
def Scene.finds (scene : Scene) : Beat → Bool
  | .move (.call ..) => false
  | .move (.work _ place) => scene.ready[place]?.isSome
  | .ring _ => scene.due?.isSome

def Inquest.diligent (inquest : Inquest) : List Beat → Bool
  | [] => true
  | beat :: rest => inquest.scene.finds beat && (inquest.play beat).diligent rest

section

variable {settings : Online.Settings} {retries : Nat} {inquest : Inquest} {id : CallId}

theorem toil_put (ready : List Job) (outcome : Desk × Agenda.Line Job) (fresh : List Incident) :
    (inquest.put ready outcome fresh).toil retries = leftToil retries outcome + jobsToil ready := by
  rw [Inquest.toil, Inquest.put_desk, Inquest.put_ready, jobsToil_append, leftToil]
  omega

theorem Inquired.toil_lt (inquired : Inquired settings retries inquest)
    (allows : ∀ failed, settings.allows failed = decide (failed ≤ retries)) {beat : Beat}
    (finds : inquest.scene.finds beat = true) :
    (inquest.play beat).toil retries < inquest.toil retries := by
  cases beat with
  | move move =>
      cases move with
      | call clock request => cases finds
      | work clock place =>
          rcases Option.isSome_iff_exists.mp finds with ⟨job, found⟩
          rcases Inquest.play_work_of_ready found clock with ⟨front, back, whole, worked⟩
          have performed := inquired.toil_perform allows whole clock
          rw [worked, toil_put, Inquest.toil, whole]
          simp only [jobsToil_append, jobsToil_cons]
          omega
  | ring clock =>
      rcases Option.isSome_iff_exists.mp finds with ⟨alarm, fires⟩
      rcases Scene.of_due? fires with ⟨put, due, stamp, next⟩
      have rings := inquired.toil_ring next put clock
      rw [Inquest.play_ring_of_due fires, toil_put, Inquest.toil]
      omega

theorem Inquired.length_le_toil (inquired : Inquired settings retries inquest)
    (allows : ∀ failed, settings.allows failed = decide (failed ≤ retries)) {beats : List Beat}
    (diligent : inquest.diligent beats = true) : beats.length ≤ inquest.toil retries := by
  induction beats generalizing inquest with
  | nil => exact Nat.zero_le _
  | cons beat rest induction =>
      rcases Bool.and_eq_true_iff.mp diligent with ⟨finds, diligent⟩
      have fewer := inquired.toil_lt allows finds
      have within := induction (inquired.play allows beat) diligent
      rw [List.length_cons]
      omega

theorem Scene.quiet_of_finds {scene : Scene} (rests : ∀ beat, scene.finds beat = false) :
    scene.Quiet := by
  have idle : scene.ready = [] := by
    by_contra busy
    rcases List.exists_cons_of_ne_nil busy with ⟨job, jobs, ready⟩
    have first := rests (.move (.work ⟨0, 0⟩ 0))
    simp [finds, ready] at first
  refine ⟨idle, ?_⟩
  have due := rests (.ring ⟨0, 0⟩)
  simpa [finds, due?, idle, Agenda.Timers.next?] using due

/-- A call without a job and a timer waits behind another one for the lock of its user. -/
theorem Situation.queued_of_idle {call : Call} {line : Reference → List CallId}
    {asked : Option Request} {seen : List Incident} {results : List Result}
    (situation : Situation settings retries id line asked (some call) seen [] [] results) :
    id ∈ (line call.locked).tail := by
  cases situation with
  | live stands =>
      cases stands with
      | inquires away stage inquiring => cases inquiring
      | referred fails count last stage walking =>
          cases walking with
          | queued waits walk locked => exact waits

theorem Inquired.ended_of_quiet (inquired : Inquired settings retries inquest)
    (quiet : inquest.scene.Quiet) : inquest.desk.call? id = none := by
  have queued {id : CallId} {call : Call} (live : inquest.desk.call? id = some call) :
      id ∈ (inquest.desk.locks.line call.locked).tail := by
    have situation := inquired.situation id
    have idle : dutiesOf id inquest.ready = [] := congrArg (dutiesOf id) quiet.1
    have none_set : alarmsOf id inquest.desk.timers = [] := by
      rw [alarmsOf, show inquest.desk.timers.pending = [] from quiet.2]
      rfl
    rw [live, idle, none_set] at situation
    exact situation.queued_of_idle
  -- The first in the line where the call waits would wait there too, behind itself.
  by_contra busy
  rcases Option.ne_none_iff_exists'.mp busy with ⟨call, live⟩
  have waits := queued live
  cases line : inquest.desk.locks.line call.locked with
  | nil => rw [line] at waits; cases waits
  | cons first behind =>
      rcases inquired.waiting call.locked first (line ▸ List.mem_cons_self) with
        ⟨holder, holds, locked⟩
      have behind_itself := queued holds
      have single := inquired.single call.locked
      rw [locked, line] at behind_itself
      rw [line] at single
      exact (List.nodup_cons.mp single).1 behind_itself

end

end Gatehouse.Validation
