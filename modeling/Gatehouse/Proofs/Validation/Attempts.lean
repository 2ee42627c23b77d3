import Gatehouse.Proofs.Validation.Inquired

/-!
# Attempts at the authority

How what holds of an inquest is kept when the authority is asked, when an answer comes in time or
late, when the time for an attempt or a pause is over, and when a failed attempt is dealt with.
-/

namespace Gatehouse.Validation

open Gatehouse.Access Gatehouse.Authority Gatehouse.Register

theorem Online.answered_of_ne {request : Request} {stage : Online.Stage} {attempt : Nat}
    (elsewhere : stage ≠ .asking attempt) (result : Except Fault Verdict) :
    Online.answered request stage attempt result = .nothing := by
  cases stage with
  | asking current =>
      have different : attempt ≠ current := fun same => elsewhere (same ▸ rfl)
      cases result <;> exact if_neg different
  | _ => cases result <;> rfl

namespace Desk

variable {desk : Desk} {id : CallId} {attempt : Nat}

theorem hear_of_ne (unheard : ∀ call, desk.call? id = some call →
      call.inquiry ≠ some (.asking attempt)) (clock : Agenda.Clock)
    (result : Except Fault Verdict) : desk.hear clock id attempt result = (desk, []) := by
  unfold hear
  split
  · next call _ settings live _ =>
      split
      · next stage inquiry =>
          have elsewhere : stage ≠ .asking attempt := fun same =>
            unheard call live (same ▸ inquiry)
          rw [Online.answered_of_ne elsewhere]
          rfl
      · rfl
  · rfl

variable {remote : Remote} {settings : Online.Settings} {call : Call}

theorem hear_verdict (live : desk.call? id = some call)
    (asks : desk.remote = some (remote, settings))
    (stage : call.inquiry = some (.asking attempt)) (clock : Agenda.Clock) (verdict : Verdict) :
    desk.hear clock id attempt (.ok verdict) =
      { desk with timers := desk.timers.cancel (Alarm.isAttempt id attempt) }.stepOnline clock
        settings id call (.decide attempt (Online.decisionOf verdict call.request)) := by
  simp only [hear, live, asks, stage, Online.answered, if_true]

theorem hear_fault (live : desk.call? id = some call)
    (asks : desk.remote = some (remote, settings))
    (stage : call.inquiry = some (.asking attempt)) (clock : Agenda.Clock) (fault : Fault) :
    desk.hear clock id attempt (.error fault) =
      { desk with timers := desk.timers.cancel (Alarm.isAttempt id attempt) }.stepOnline clock
        settings id call (.recover attempt fault) := by
  simp only [hear, live, asks, stage, Online.answered, if_true]

theorem ring_attempt (live : desk.call? id = some call)
    (asks : desk.remote = some (remote, settings))
    (stage : call.inquiry = some (.asking attempt)) (clock : Agenda.Clock) :
    desk.ring clock (.attempt id attempt) =
      ({ desk with timers := desk.timers.rest }.giveUp id attempt).stepOnline clock settings id
        call (.recover attempt (.authorityTimeout settings.timeout)) := by
  unfold call? at live
  simp only [ring, call?, live, asks, stage, Online.timedOut, if_true]

theorem perform_ask (live : desk.call? id = some call)
    (asks : desk.remote = some (remote, settings)) (clock : Agenda.Clock) (attempt : Nat) :
    perform clock (.ask id attempt) desk = desk.ask clock remote id call attempt := by
  simp only [perform, live, asks]

theorem incidents_ask (live : desk.call? id = some call) (clock : Agenda.Clock) (attempt : Nat) :
    desk.incidents clock (.ask id attempt) = [.asked id attempt call.request] := by
  simp only [incidents, live]

theorem perform_recover (live : desk.call? id = some call)
    (asks : desk.remote = some (remote, settings)) (clock : Agenda.Clock) (attempt : Nat)
    (fault : Fault) :
    perform clock (.recover id attempt fault) desk =
      desk.stepOnline clock settings id call (Online.caught settings attempt fault) := by
  simp only [perform, live, asks]

theorem perform_resume (live : desk.call? id = some call)
    (asks : desk.remote = some (remote, settings)) (clock : Agenda.Clock) (attempt : Nat) :
    perform clock (.resume id attempt) desk =
      desk.stepOnline clock settings id call (.attempt (attempt + 1)) := by
  simp only [perform, live, asks, Online.resumed]

/-- What putting the question of an attempt does for its call: an answer may be on its way. -/
structure Asks (id : CallId) (attempt : Nat) (before : Desk) (outcome : Desk × Agenda.Line Job) :
    Prop where
  remote : outcome.1.remote = before.remote
  calls : outcome.1.calls = before.calls
  locks : outcome.1.locks = before.locks
  outcomes : outcome.1.outcomes = before.outcomes
  fallbacks : outcome.1.fallbacks = before.fallbacks
  alarms : ∀ other, alarmsOf other outcome.1.timers = alarmsOf other before.timers
  duties : ∀ other, dutiesOf other (outcome.2.map Prod.snd) = []
  jobs : ∀ entry ∈ outcome.2, entry.2.answers? = some (id, attempt)
  timers : ∀ timer ∈ outcome.1.timers.pending,
    timer ∈ before.timers.pending ∨ timer.item.answers? = some (id, attempt)

theorem asks_ask (desk : Desk) (clock : Agenda.Clock) (remote : Remote) (id : CallId)
    (call : Call) (attempt : Nat) :
    Asks id attempt desk (desk.ask clock remote id call attempt) := by
  simp only [ask]
  split
  · exact ⟨rfl, rfl, rfl, rfl, rfl, fun _ => rfl, fun _ => rfl, by simp [Job.answers?],
      fun _ => .inl⟩
  · refine ⟨rfl, rfl, rfl, rfl, rfl, fun other => ?_, fun _ => rfl, by simp,
      fun timer pending => ?_⟩
    · exact alarmsOf_set_of_ne (by simp [Alarm.duty?]) clock _
    · rcases Agenda.Timers.mem_pending_set.mp pending with rfl | before
      · exact .inr rfl
      · exact .inl before
  · exact ⟨rfl, rfl, rfl, rfl, rfl, fun _ => rfl, fun _ => rfl, by simp, fun _ => .inl⟩

end Desk

section

variable {settings : Online.Settings} {retries : Nat} {inquest : Inquest} {id : CallId}
  {call : Call} {request : Request} {fates : List Fate}

theorem le_of_asked {other : Request} {attempt : Nat}
    (member : .asked id attempt request ∈ tried id other fates) :
    1 ≤ attempt ∧ attempt ≤ fates.length := by
  rcases mem_tried member with ⟨number, low, high, same | ⟨fate, -, same⟩⟩
  · cases same
    exact ⟨low, high⟩
  · cases fate <;> cases same

theorem isLate_of_asked {other : Request} {attempt : Nat} {more : List Incident}
    (member : .asked id attempt request ∈ tried id other fates ++ more)
    (silent : .asked id attempt request ∉ more) (result : Except Fault Verdict) :
    (Incident.heard id attempt result).isLate (tried id other fates ++ more) = true := by
  have within := le_of_asked ((List.mem_append.mp member).resolve_right silent)
  have ended : (tried id other fates).any (Incident.ends attempt) = true := by
    rw [any_ends_tried, decide_eq_true within]
  simp only [Incident.isLate, List.any_append, ended, Bool.true_or]

theorem Inquiring.tried_or_waiting {stage : Online.Stage} {seen : List Incident}
    {jobs : List Job} {alarms : List Alarm}
    (inquiring : Inquiring settings retries id request stage seen jobs alarms) :
    (∃ fates, seen = tried id request fates ∧ ∀ attempt ≤ fates.length, stage ≠ .asking attempt) ∨
      ∃ fates, stage = .asking (fates.length + 1) ∧ fates.all Fate.fails = true ∧
        fates.length ≤ retries ∧
        seen = tried id request fates ++ [.asked id (fates.length + 1) request] ∧
        jobs = [] ∧ alarms = [.attempt id (fates.length + 1)] := by
  cases inquiring with
  | @due fates fails count =>
      refine .inl ⟨fates, rfl, fun attempt within same => ?_⟩
      cases same
      omega
  | @waiting fates fails count => exact .inr ⟨fates, rfl, fails, count, rfl, rfl, rfl⟩
  | failing => exact .inl ⟨_, rfl, fun _ _ same => nomatch same⟩
  | pausing => exact .inl ⟨_, rfl, fun _ _ same => nomatch same⟩
  | resuming => exact .inl ⟨_, rfl, fun _ _ same => nomatch same⟩
  | decided => exact .inl ⟨_, rfl, fun _ _ same => nomatch same⟩

theorem Situation.over_or_waiting {line : Reference → List CallId} {asked : Option Request}
    {known : Option Call} {seen : List Incident} {jobs : List Job} {alarms : List Alarm}
    {results : List Result} {attempt : Nat}
    (situation : Situation settings retries id line asked known seen jobs alarms results)
    (begun : .asked id attempt request ∈ seen) :
    ((∀ call, known = some call → call.inquiry ≠ some (.asking attempt)) ∧
        ∀ result, (Incident.heard id attempt result).isLate seen = true) ∨
      ∃ call fates, known = some call ∧ id ∉ line call.locked ∧
        call.inquiry = some (.asking attempt) ∧ fates.all Fate.fails = true ∧
        fates.length ≤ retries ∧ attempt = fates.length + 1 ∧
        seen = tried id call.request fates ++ [.asked id attempt call.request] ∧
        jobs = [] ∧ alarms = [.attempt id attempt] := by
  have late {fates : List Fate} {other : Request}
      (member : .asked id attempt request ∈ tried id other fates)
      (result : Except Fault Verdict) :
      (Incident.heard id attempt result).isLate (tried id other fates) = true := by
    have ended := isLate_of_asked (List.mem_append_left [] member) List.not_mem_nil result
    simpa using ended
  -- Only a call that waits for this attempt has it on; all else is past the attempts it tried.
  cases situation with
  | unknown => cases begun
  | ended course =>
      refine .inl ⟨fun _ gone => (nomatch gone), ?_⟩
      cases course with
      | decided => exact late begun
      | advised => exact isLate_of_asked begun (by simp)
  | @live call seen jobs alarms stands =>
      cases stands with
      | referred fails count last stage walking =>
          refine .inl ⟨?_, isLate_of_asked begun ?_⟩
          · rintro _ ⟨⟩ same
            cases stage.symm.trans same
          · simp only [List.mem_cons, reduceCtorEq, List.mem_filterMap, false_or, not_exists]
            rintro (_ | _ | _ | _ | _ | _ | _ | _ | _) ⟨-, ⟨⟩⟩
      | inquires away stage inquiring =>
          rcases inquiring.tried_or_waiting with
            ⟨fates, rfl, elsewhere⟩ | ⟨fates, rfl, fails, count, rfl, rfl, rfl⟩
          · refine .inl ⟨?_, late begun⟩
            rintro _ ⟨⟩ same
            exact elsewhere attempt (le_of_asked begun).2
              (Option.some.inj (stage.symm.trans same))
          · rcases List.mem_append.mp begun with before | last
            · refine .inl ⟨?_, isLate_of_asked (List.mem_append_left _ before) ?_⟩
              · rintro _ ⟨⟩ same
                have within := le_of_asked before
                cases stage.symm.trans same
                omega
              · have within := le_of_asked before
                simp
                omega
            · cases List.mem_singleton.mp last
              exact .inr ⟨call, fates, rfl, away, stage, fails, count, rfl, rfl, rfl, rfl⟩

theorem Left.refl {ready : List Job} (idle : dutiesOf id ready = []) : Left id ready ready :=
  ⟨.refl ready, idle, fun _ _ => rfl⟩

theorem Inquired.late (inquired : Inquired settings retries inquest) {incident : Incident}
    (mine : incident.call = id) (late : incident.isLate (inquest.promptOf id) = true) :
    Inquired settings retries
      (inquest.put inquest.ready (inquest.desk, []) [incident]) := by
  have mine : ∀ other ∈ [incident], other.call = id := by simpa using mine
  have ready : (inquest.put inquest.ready (inquest.desk, []) [incident]).ready = inquest.ready :=
    List.append_nil _
  have same : (inquest.put inquest.ready (inquest.desk, []) [incident]).promptOf id =
      inquest.promptOf id := by
    rw [promptOf_put mine, prompt_concat]
    exact if_pos late
  refine inquired.act id rfl rfl (fun other different => spares_put different rfl rfl rfl mine)
    (fun other _ => congrArg _ ready) (fun key member => inquired.waiting key id member) ?_ ?_
  · refine inquired.begun_put (.refl _) ?_ fun timer pending => .inl pending
    exact fun _ none => nomatch none
  · rw [same, ready]
    exact inquired.situation id

theorem Job.answers?_of_duty? {job : Job} (mine : job.duty? = some id) : job.answers? = none := by
  cases job <;> first | rfl | cases mine

/-- What a desk still holds when timers of a call were taken away or set: all but these. -/
structure Holds (id : CallId) (before after : Desk) (alarms : List Alarm) : Prop where
  remote : after.remote = before.remote
  calls : after.calls = before.calls
  locks : after.locks = before.locks
  outcomes : after.outcomes = before.outcomes
  mine : alarmsOf id after.timers = alarms
  others : ∀ other, other ≠ id → alarmsOf other after.timers = alarmsOf other before.timers
  answers : ∀ timer ∈ after.timers.pending,
    timer ∈ before.timers.pending ∨ timer.item.answers? = none

theorem Holds.refl (id : CallId) (desk : Desk) : Holds id desk desk (alarmsOf id desk.timers) :=
  ⟨rfl, rfl, rfl, rfl, rfl, fun _ _ => rfl, fun _ pending => .inl pending⟩

theorem Holds.set {before after : Desk} (holds : Holds id before after []) {alarm : Alarm}
    (mine : alarm.duty? = some id) (clock : Agenda.Clock) (delay : Nat) :
    Holds id before { after with timers := after.timers.set clock delay alarm } [alarm] where
  remote := holds.remote
  calls := holds.calls
  locks := holds.locks
  outcomes := holds.outcomes
  mine := alarmsOf_set_self mine holds.mine clock delay
  others other different := by
    refine (alarmsOf_set_of_ne (fun same => different ?_) clock delay).trans
      (holds.others other different)
    exact Option.some.inj (same.symm.trans mine)
  answers timer pending := by
    rcases Agenda.Timers.mem_pending_set.mp pending with rfl | before
    · right
      cases alarm <;> first | rfl | cases mine
    · exact holds.answers timer before

theorem Inquired.moves (inquired : Inquired settings retries inquest) {jobs ready : List Job}
    (known : Live settings retries inquest id call jobs)
    (away : id ∉ inquest.desk.locks.line call.locked) (left : Left id inquest.ready ready)
    {desk : Desk} {alarms : List Alarm} (holds : Holds id inquest.desk desk alarms)
    {stage : Online.Stage} {line : Agenda.Line Job} {fresh : List Incident}
    (own : ∀ entry ∈ line, entry.2.duty? = some id)
    (mine : ∀ incident ∈ fresh, incident.call = id)
    (inquiring : Inquiring settings retries id call.request stage
      (prompt (incidentsOf id inquest.seen ++ fresh)) (line.map Prod.snd) alarms) :
    Inquired settings retries
      (inquest.put ready (desk.setCall id { call with inquiry := some stage }, line) fresh) := by
  have own_jobs : ∀ job ∈ line.map Prod.snd, job.duty? = some id := by
    simpa using fun job rounds => own (rounds, job)
  have call? (other : CallId) : desk.call? other = inquest.desk.call? other := by
    rw [Desk.call?, holds.calls]
    rfl
  refine inquired.goesOn known left { call with inquiry := some stage } mine holds.remote
    holds.locks holds.outcomes (fun other => ?_) rfl rfl holds.others
    (fun other different => ?_) ?_ ?_
  · exact (Desk.call?_setCall desk id other _).trans (by rw [call?])
  · refine List.filter_eq_nil_iff.mpr fun job member => ?_
    simp [own_jobs job member, Ne.symm different]
  · refine inquired.begun_put left.sublist (fun entry member attempt answers => ?_)
      fun timer pending => ?_
    · cases (Job.answers?_of_duty? (own entry member)).symm.trans answers
    · refine (holds.answers timer pending).imp_right fun silent attempt answers => ?_
      cases silent.symm.trans answers
  · have all : dutiesOf id (line.map Prod.snd) = line.map Prod.snd :=
      List.filter_eq_self.mpr fun job member => by simp [own_jobs job member]
    rw [all, show alarmsOf id (desk.setCall id _).timers = alarms from holds.mine]
    exact .inquires away rfl inquiring

theorem Inquired.attempts (inquired : Inquired settings retries inquest) {jobs ready : List Job}
    (known : Live settings retries inquest id call jobs)
    (away : id ∉ inquest.desk.locks.line call.locked) (left : Left id inquest.ready ready)
    {desk : Desk} (holds : Holds id inquest.desk desk [])
    (seen : inquest.promptOf id = tried id call.request fates)
    (fails : fates.all Fate.fails = true) (count : fates.length ≤ retries)
    (clock : Agenda.Clock) :
    Inquired settings retries (inquest.put ready
      (desk.stepOnline clock settings id call (.attempt (fates.length + 1))) []) := by
  refine inquired.moves known away left (holds.set rfl clock _) (by simp [Job.duty?, Job.call])
    (by simp) ?_
  rw [List.append_nil, ← Inquest.promptOf, seen]
  exact .due fails count

theorem prompt_ends {seen : List Incident} (fate : Fate)
    (on : prompt seen = tried id request fates ++ [.asked id (fates.length + 1) request]) :
    prompt (seen ++ [fate.incident id (fates.length + 1)]) =
      tried id request (fates ++ [fate]) := by
  have first : (prompt seen).any (Incident.ends (fates.length + 1)) = false := by
    have beyond : ¬(1 ≤ fates.length + 1 ∧ fates.length + 1 ≤ fates.length) := by omega
    rw [on, List.any_append, any_ends_tried, decide_eq_false beyond]
    rfl
  have timely : (fate.incident id (fates.length + 1)).isLate (prompt seen) = false := by
    cases fate with
    | expired => rfl
    | heard result => exact first
  rw [prompt_concat, timely, on, tried_concat]
  simp

theorem Inquired.fails (inquired : Inquired settings retries inquest) {ready : List Job}
    (known : Live settings retries inquest id call [])
    (away : id ∉ inquest.desk.locks.line call.locked) (left : Left id inquest.ready ready)
    {desk : Desk} (holds : Holds id inquest.desk desk [])
    (on : inquest.promptOf id =
      tried id call.request fates ++ [.asked id (fates.length + 1) call.request])
    (fails : fates.all Fate.fails = true) (count : fates.length ≤ retries) (fate : Fate)
    {fault : Fault} (failed : fate.fault? settings = some fault) (clock : Agenda.Clock) :
    Inquired settings retries (inquest.put ready
      (desk.stepOnline clock settings id call (.recover (fates.length + 1) fault))
      [fate.incident id (fates.length + 1)]) := by
  refine inquired.moves known away left holds (by simp [Job.duty?, Job.call]) ?_ ?_
  · cases fate <;> simp [Fate.incident, Incident.call]
  · rw [prompt_ends fate on]
    exact .failing fails count failed

theorem Holds.cancel {desk : Desk} {attempt : Nat}
    (only : alarmsOf id desk.timers = [.attempt id attempt]) :
    Holds id desk { desk with timers := desk.timers.cancel (Alarm.isAttempt id attempt) } [] where
  remote := rfl
  calls := rfl
  locks := rfl
  outcomes := rfl
  mine := alarmsOf_cancel_self only
  others _ different := alarmsOf_cancel_of_ne different attempt
  answers _ pending := .inl (Agenda.Timers.mem_pending_cancel.mp pending).1

theorem Inquired.hear (inquired : Inquired settings retries inquest) {attempt : Nat}
    (begun : .asked id attempt request ∈ inquest.seen) (clock : Agenda.Clock)
    (result : Except Fault Verdict) :
    Inquired settings retries (inquest.put inquest.ready
      (inquest.desk.hear clock id attempt result) [.heard id attempt result]) := by
  have seen : .asked id attempt request ∈ inquest.promptOf id :=
    (mem_prompt fun _ => rfl).mpr (Agenda.mem_owned.mpr ⟨begun, rfl⟩)
  rcases inquired.remote with ⟨remote, asks⟩
  rcases (inquired.situation id).over_or_waiting seen with
    ⟨elsewhere, late⟩ | ⟨call, fates, live, away, stage, fails, count, rfl, on, idle, alarms⟩
  · -- The attempt is over, so neither the desk nor what counts of the trace changes.
    rw [Desk.hear_of_ne elsewhere]
    exact inquired.late rfl (late result)
  · have busy : alarmsOf id inquest.desk.timers ≠ [] := by simp [alarms]
    rcases inquired.live (.inr busy) with ⟨known, lives⟩
    cases live.symm.trans lives.live
    rw [idle] at lives
    have left : Left id inquest.ready inquest.ready := .refl idle
    cases result with
    | error fault =>
        rw [Desk.hear_fault live asks stage]
        exact inquired.fails lives away left (.cancel alarms) on fails count
          (.heard (.error fault)) rfl clock
    | ok verdict =>
        rw [Desk.hear_verdict live asks stage]
        refine inquired.moves lives away left (.cancel alarms) (by simp [Job.duty?, Job.call])
          (by simp [Incident.call]) ?_
        have timely := prompt_ends (.heard (.ok verdict)) on
        rw [Fate.incident] at timely
        rw [timely]
        exact .decided verdict fails count

section

variable {line : List CallId} {seen : List Incident} {jobs : List Job} {alarms : List Alarm}
  {attempt : Nat}

theorem Stands.of_ask
    (stands : Stands settings retries id call line seen [.ask id attempt] alarms) :
    id ∉ line ∧ alarms = [.attempt id attempt] ∧ ∃ fates, attempt = fates.length + 1 ∧
      fates.all Fate.fails = true ∧ fates.length ≤ retries ∧
      call.inquiry = some (.asking attempt) ∧ seen = tried id call.request fates := by
  cases stands with
  | inquires away stage inquiring =>
      cases inquiring with
      | due fails count => exact ⟨away, rfl, _, rfl, fails, count, stage, rfl⟩
  | referred _ _ _ _ walking => cases walking

theorem Stands.of_resume
    (stands : Stands settings retries id call line seen [.resume id attempt] alarms) :
    id ∉ line ∧ alarms = [] ∧ ∃ fates, attempt = fates.length ∧ fates.all Fate.fails = true ∧
      fates.length ≤ retries ∧ call.inquiry = some (.pausing attempt) ∧
      seen = tried id call.request fates := by
  cases stands with
  | inquires away stage inquiring =>
      cases inquiring with
      | resuming fails count => exact ⟨away, rfl, _, rfl, fails, count, stage, rfl⟩
  | referred _ _ _ _ walking => cases walking

theorem Stands.of_recover {fault : Fault}
    (stands : Stands settings retries id call line seen [.recover id attempt fault] alarms) :
    id ∉ line ∧ alarms = [] ∧ ∃ fates fate, attempt = fates.length + 1 ∧
      fates.all Fate.fails = true ∧ fates.length ≤ retries ∧ fate.fault? settings = some fault ∧
      call.inquiry = some (.failing attempt) ∧
      seen = tried id call.request (fates ++ [fate]) := by
  cases stands with
  | inquires away stage inquiring =>
      cases inquiring with
      | failing fails count failed => exact ⟨away, rfl, _, _, rfl, fails, count, failed, stage, rfl⟩
  | referred _ _ _ _ walking => cases walking

theorem Stands.of_pause
    (stands : Stands settings retries id call line seen jobs (.pause id attempt :: alarms)) :
    id ∉ line ∧ jobs = [] ∧ alarms = [] ∧ ∃ fates, attempt = fates.length ∧
      fates.all Fate.fails = true ∧ fates.length ≤ retries ∧
      call.inquiry = some (.pausing attempt) ∧ seen = tried id call.request fates := by
  cases stands with
  | inquires away stage inquiring =>
      cases inquiring with
      | pausing fails count => exact ⟨away, rfl, rfl, _, rfl, fails, count, stage, rfl⟩

/-- The timer of an attempt is set while its question is to be put or its answer is awaited. -/
theorem Stands.of_attempt
    (stands : Stands settings retries id call line seen jobs (.attempt id attempt :: alarms))
    (put : ∀ job ∈ jobs, job.isAsk = false) :
    id ∉ line ∧ jobs = [] ∧ alarms = [] ∧ ∃ fates, attempt = fates.length + 1 ∧
      fates.all Fate.fails = true ∧ fates.length ≤ retries ∧
      call.inquiry = some (.asking attempt) ∧
      seen = tried id call.request fates ++ [.asked id attempt call.request] := by
  cases stands with
  | inquires away stage inquiring =>
      cases inquiring with
      | due fails count => exact nomatch put _ List.mem_cons_self
      | waiting fails count => exact ⟨away, rfl, rfl, _, rfl, fails, count, stage, rfl⟩

end

/-- The call that goes on when the next timer fires, and what is left when it is taken away. -/
theorem Inquired.on_alarm (inquired : Inquired settings retries inquest) {due : Rat}
    {stamp : Nat} {alarm : Alarm} (next : inquest.desk.timers.next? = some ⟨due, stamp, alarm⟩)
    (mine : alarm.duty? = some id) :
    ∃ call alarms, Live settings retries inquest id call (dutiesOf id inquest.ready) ∧
      alarmsOf id inquest.desk.timers = alarm :: alarms ∧
      Holds id inquest.desk { inquest.desk with timers := inquest.desk.timers.rest } alarms := by
  have rings (other : CallId) : alarmsOf other inquest.desk.timers =
      (if alarm.duty? = some other then [alarm] else []) ++
        alarmsOf other inquest.desk.timers.rest := alarmsOf_rest next
  have own := rings id
  rw [if_pos mine, List.singleton_append] at own
  rcases inquired.live (.inr (own ▸ List.cons_ne_nil _ _)) with ⟨call, known⟩
  refine ⟨call, _, known, own, rfl, rfl, rfl, rfl, rfl, fun other different => ?_,
    fun timer pending => ?_⟩
  · have elsewhere : alarm.duty? ≠ some other := fun same =>
      different (Option.some.inj (same.symm.trans mine))
    rw [rings other, if_neg elsewhere]
    rfl
  · exact .inl (List.mem_of_mem_tail pending)

theorem Inquired.expiring (inquired : Inquired settings retries inquest) {due : Rat}
    {stamp attempt : Nat}
    (next : inquest.desk.timers.next? = some ⟨due, stamp, .attempt id attempt⟩)
    (put : ∀ job ∈ inquest.ready, job.isAsk = false) :
    ∃ call fates, Live settings retries inquest id call [] ∧
      id ∉ inquest.desk.locks.line call.locked ∧ Left id inquest.ready inquest.ready ∧
      Holds id inquest.desk { inquest.desk with timers := inquest.desk.timers.rest } [] ∧
      attempt = fates.length + 1 ∧ fates.all Fate.fails = true ∧ fates.length ≤ retries ∧
      call.inquiry = some (.asking attempt) ∧
      inquest.promptOf id =
        tried id call.request fates ++ [.asked id attempt call.request] := by
  rcases inquired.on_alarm next rfl with ⟨call, alarms, known, rings, taken⟩
  have stands := known.stands
  rw [rings] at stands
  rcases stands.of_attempt fun job member => put job (Agenda.mem_owned.mp member).1 with
    ⟨away, idle, rfl, fates, number, fails, count, stage, on⟩
  rw [idle] at known
  exact ⟨call, fates, known, away, .refl idle, taken, number, fails, count, stage, on⟩

theorem Inquired.expire (inquired : Inquired settings retries inquest) {due : Rat}
    {stamp attempt : Nat}
    (next : inquest.desk.timers.next? = some ⟨due, stamp, .attempt id attempt⟩)
    (put : ∀ job ∈ inquest.ready, job.isAsk = false) (clock : Agenda.Clock) :
    Inquired settings retries (inquest.put inquest.ready
      (inquest.desk.ring clock (.attempt id attempt)) [.expired id attempt]) := by
  rcases inquired.expiring next put with
    ⟨call, fates, known, away, left, taken, rfl, fails, count, stage, on⟩
  rcases inquired.remote with ⟨remote, asks⟩
  have holds : Holds id inquest.desk
      ({ inquest.desk with timers := inquest.desk.timers.rest }.giveUp id (fates.length + 1)) [] :=
    ⟨taken.remote, taken.calls, taken.locks, taken.outcomes, taken.mine, taken.others,
      taken.answers⟩
  rw [Desk.ring_attempt known.live asks stage]
  exact inquired.fails known away left holds on fails count .expired rfl clock

theorem Inquired.wake (inquired : Inquired settings retries inquest) {due : Rat}
    {stamp attempt : Nat}
    (next : inquest.desk.timers.next? = some ⟨due, stamp, .pause id attempt⟩)
    (clock : Agenda.Clock) :
    Inquired settings retries (inquest.put inquest.ready
      (inquest.desk.ring clock (.pause id attempt)) []) := by
  rcases inquired.on_alarm next rfl with ⟨call, alarms, known, rings, taken⟩
  have stands := known.stands
  rw [rings] at stands
  rcases stands.of_pause with ⟨away, idle, rfl, fates, rfl, fails, count, stage, seen⟩
  have wakes : inquest.desk.ring clock (.pause id fates.length) =
      ({ inquest.desk with timers := inquest.desk.timers.rest },
        [(0, .resume id fates.length)]) := rfl
  rw [idle] at known
  rw [wakes]
  refine inquired.goesOn known (.refl idle) call (by simp) rfl rfl rfl (fun other => ?_) rfl rfl
    taken.others (fun other different => dutiesOf_singleton_of_ne rfl different) ?_ ?_
  · split
    · next same => exact same ▸ known.live
    · rfl
  · refine inquired.begun_put (.refl _) (by simp [Job.answers?]) fun timer pending => ?_
    exact .inl (List.mem_of_mem_tail pending)
  · rw [List.append_nil, ← Inquest.promptOf, seen, List.map_singleton,
      dutiesOf_singleton rfl, taken.mine]
    exact .inquires away stage (.resuming fails count)

theorem Inquired.ask (inquired : Inquired settings retries inquest) {front back : List Job}
    {attempt : Nat} (whole : inquest.ready = front ++ .ask id attempt :: back)
    (clock : Agenda.Clock) :
    Inquired settings retries (inquest.put (front ++ back)
      (Desk.perform clock (.ask id attempt) inquest.desk)
      (inquest.desk.incidents clock (.ask id attempt))) := by
  have mine : (Job.ask id attempt).duty? = some id := rfl
  rcases inquired.on_duty whole mine with ⟨call, known, left⟩
  rcases known.stands.of_ask with ⟨away, alarms, fates, rfl, fails, count, stage, seen⟩
  rcases inquired.remote with ⟨remote, asks⟩
  have put := Desk.asks_ask inquest.desk clock remote id call (fates.length + 1)
  rw [Desk.perform_ask known.live asks, Desk.incidents_ask known.live]
  refine inquired.goesOn known left call (by simp [Incident.call]) put.remote put.locks
    put.outcomes (fun other => ?_) rfl rfl (fun other _ => put.alarms other)
    (fun other _ => put.duties other) ?_ ?_
  · rw [Desk.call?, put.calls]
    split
    · next same => exact same ▸ known.live
    · rfl
  · have mine {attempt : CallId × Nat}
        (answers : some (id, fates.length + 1) = some attempt) :
        ∃ request, .asked attempt.1 attempt.2 request ∈
          [Incident.asked id (fates.length + 1) call.request] := by
      cases answers
      exact ⟨_, List.mem_cons_self⟩
    exact inquired.begun_put left.sublist
      (fun entry member attempt answers => mine ((put.jobs entry member).symm.trans answers))
      fun timer pending => (put.timers timer pending).imp_right fun answers attempt known =>
        mine (answers.symm.trans known)
  · rw [put.duties, put.alarms, alarms, prompt_append (by simp [Incident.isLate]),
      ← Inquest.promptOf, seen]
    exact .inquires away stage (.waiting fails count)

theorem Inquired.resume (inquired : Inquired settings retries inquest) {front back : List Job}
    {attempt : Nat} (whole : inquest.ready = front ++ .resume id attempt :: back)
    (clock : Agenda.Clock) :
    Inquired settings retries (inquest.put (front ++ back)
      (Desk.perform clock (.resume id attempt) inquest.desk) []) := by
  have mine : (Job.resume id attempt).duty? = some id := rfl
  rcases inquired.on_duty whole mine with ⟨call, known, left⟩
  rcases known.stands.of_resume with ⟨away, alarms, fates, rfl, fails, count, -, seen⟩
  rcases inquired.remote with ⟨remote, asks⟩
  rw [Desk.perform_resume known.live asks]
  exact inquired.attempts known away left (alarms ▸ .refl id inquest.desk) seen fails count clock

theorem Inquired.take (inquired : Inquired settings retries inquest) {ready : List Job}
    {timers : Agenda.Timers Alarm} (duties : ∀ id, dutiesOf id ready = dutiesOf id inquest.ready)
    (alarms : ∀ id, alarmsOf id timers = alarmsOf id inquest.desk.timers)
    (fewer : ∀ attempt ∈ awaited ready timers,
      attempt ∈ awaited inquest.ready inquest.desk.timers) :
    Inquired settings retries
      (inquest.put ready ({ inquest.desk with timers := timers }, []) []) := by
  have jobs : (inquest.put ready ({ inquest.desk with timers := timers }, []) []).ready = ready :=
    List.append_nil _
  have seen : (inquest.put ready ({ inquest.desk with timers := timers }, []) []).seen =
      inquest.seen := List.append_nil _
  exact {
    remote := inquired.remote
    sound := inquired.sound
    single := inquired.single
    waiting := inquired.waiting
    situation := fun id => by
      rw [jobs, Inquest.promptOf, seen, duties]
      exact (alarms id).symm ▸ inquired.situation id
    begun := fun attempt member => by
      rw [jobs] at member
      rw [seen]
      exact inquired.begun attempt (fewer attempt member) }

theorem Situation.of_unknown {line : Reference → List CallId} {known : Option Call}
    {seen : List Incident} {jobs : List Job} {alarms : List Alarm} {results : List Result}
    (situation : Situation settings retries id line none known seen jobs alarms results) :
    known = none ∧ seen = [] ∧ jobs = [] ∧ alarms = [] ∧ results = [] := by
  cases situation
  exact ⟨rfl, rfl, rfl, rfl, rfl⟩

theorem Inquired.bring (inquired : Inquired settings retries inquest) (clock : Agenda.Clock)
    (request : Request) :
    Inquired settings retries (inquest.play (.move (.call clock request))) := by
  rcases inquired.remote with ⟨remote, asks⟩
  generalize name : inquest.scene.requests.length = id
  have fresh : inquest.scene.requests[id]? = none := List.getElem?_eq_none (name ▸ le_refl _)
  rcases (fresh ▸ inquired.situation id).of_unknown with ⟨gone, seen, idle, none_set, none_yet⟩
  let call : Call :=
    { request := request, started := inquest.desk.now clock, inquiry := none, walk := none
      locked := .null }
  have begins : inquest.desk.begin clock id request =
      inquest.desk.stepOnline clock settings id call (.attempt 1) := by
    simp only [Desk.begin, asks, Online.start, call]
  let enrolled : Inquest :=
    { inquest with scene := { inquest.scene with requests := inquest.scene.requests ++ [request] } }
  let after : Inquest := enrolled.put inquest.ready
    (inquest.desk.stepOnline clock settings id call (.attempt 1)) []
  have plays : inquest.play (.move (.call clock request)) = after := by
    show inquest.play _ = enrolled.put _ _ _
    rw [← begins, ← name]
    rfl
  have holds := (none_set ▸ Holds.refl id inquest.desk : Holds id inquest.desk inquest.desk []).set
    (show (Alarm.attempt id 1).duty? = some id from rfl) clock (Agenda.delay settings.timeout)
  have calls (other : CallId) : after.desk.call? other =
      if other = id then some { call with inquiry := some (.asking 1) }
      else inquest.desk.call? other := Desk.call?_setCall ..
  have same (other : CallId) : after.promptOf other = inquest.promptOf other :=
    congrArg prompt (congrArg (incidentsOf other) (List.append_nil _))
  have duties (other : CallId) : dutiesOf other after.ready =
      dutiesOf other inquest.ready ++ dutiesOf other [.ask id 1] := Agenda.owned_append ..
  rw [plays]
  refine inquired.act id rfl rfl (fun other different => ?spares) (fun other different => ?others)
    (fun key member => ?waits) (fun attempt member => ?begun) ?situation
  case spares =>
    refine ⟨?_, (calls other).trans (if_neg different), same other, holds.others other different,
      rfl⟩
    show (inquest.scene.requests ++ [request])[other]? = _
    rw [List.getElem?_append]
    split
    · rfl
    · next beyond =>
        have past : inquest.scene.requests.length < other :=
          Nat.lt_of_le_of_ne (Nat.le_of_not_lt beyond) (name ▸ different.symm)
        simp [List.getElem?_eq_none past.le, Nat.sub_eq_zero_iff_le, past]
  case others =>
    rw [duties, dutiesOf_singleton_of_ne rfl different, List.append_nil]
  case waits =>
    rcases inquired.waiting key id member with ⟨known, live, -⟩
    cases gone.symm.trans live
  case begun =>
    refine inquired.begun_put (.refl _) (by simp [Desk.stepOnline, Job.answers?]) ?_ attempt member
    exact fun timer pending => (holds.answers timer pending).imp_right fun silent attempt answers =>
      nomatch silent.symm.trans answers
  case situation =>
    have brought : after.scene.requests[id]? = some request :=
      name ▸ List.getElem?_concat_length
    have alarms : alarmsOf id after.desk.timers = [.attempt id 1] := holds.mine
    have results : after.desk.resultsOf id = [] := none_yet
    have stands : Stands settings retries id { call with inquiry := some (.asking 1) }
        (inquest.desk.locks.line call.locked) [] [.ask id 1] [.attempt id 1] := by
      refine .inquires (fun member => ?_) rfl
        (@Inquiring.due settings retries id request [] rfl (Nat.zero_le _))
      rcases inquired.waiting _ id member with ⟨known, live, -⟩
      cases gone.symm.trans live
    rw [brought, calls, if_pos rfl, same, seen, duties, idle, dutiesOf_singleton rfl, alarms,
      results]
    exact .live stands

end

end Gatehouse.Validation
