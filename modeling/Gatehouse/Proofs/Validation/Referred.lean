import Gatehouse.Proofs.Validation.Attempts

/-!
# Deciding without the authority

How what holds of an inquest is kept when all attempts have failed and somebody else decides: the
one who always says the same at once, and the register by a walk that may wait for the lock of a
user.
-/

namespace Gatehouse.Validation

open Gatehouse.Access Gatehouse.Authority Gatehouse.Register

namespace Desk

theorem holds_query (desk : Desk) (id : CallId) (query : Query) :
    Holds id desk (desk.query query).1 (alarmsOf id desk.timers) := by
  unfold Desk.query
  split <;> exact ⟨rfl, rfl, rfl, rfl, rfl, fun _ _ => rfl, fun _ => .inl⟩

theorem tells_query (desk : Desk) (user : Reference) (direction : Direction)
    (since : Option Time.Instant) :
    Tells True True (desk.query (.recentGrant user direction since)).2.1 := by
  unfold Desk.query
  split
  · next memory outages _ => exact tells_answerUnless memory outages user direction since
  · next answer _ =>
      dsimp only
      cases Sql.result (.recentGrant user direction since) (answer _) with
      | error fault => exact .failed fault
      | ok found => exact tells_recent _

theorem decideLocally_register {desk : Desk} (register : desk.fallback = .register)
    {call : Call} {query : Query} {stage : Offline.Stage}
    (first : Offline.start call.request = .ask query stage) (clock : Agenda.Clock) (id : CallId) :
    desk.decideLocally clock id call =
      ((desk.query query).1.setCall id
          { call with started := desk.now clock, walk := some stage },
        [((desk.query query).2.2, .replied id (desk.query query).2.1)]) := by
  unfold decideLocally
  rw [register]
  dsimp only
  rw [first]
  rfl

theorem resultsOf_close (desk : Desk) (id other : CallId) (outcome : Except Fault Decision) :
    (desk.close id outcome).resultsOf other = desk.resultsOf other ++
      if id = other then
        [(outcome, (desk.call? id).bind fun call => call.inquiry.bind Online.Stage.report?)]
      else [] := by
  by_cases same : id = other <;> simp [resultsOf, close, List.filter_append, same]

end Desk

section

variable {settings : Online.Settings} {retries : Nat} {inquest : Inquest} {id : CallId}
  {call : Call} {fates : List Fate} {fault : Fault}

/-- Why a call was referred: all its attempts have failed, the last one by some fault. -/
structure Exhausted (settings : Online.Settings) (retries : Nat) (fates : List Fate)
    (fault : Fault) : Prop where
  fails : fates.all Fate.fails = true
  count : fates.length = retries + 1
  last : fates.getLast?.bind (Fate.fault? settings) = some fault

theorem toList_advice? (job : Job) : [job].filterMap Job.advice? = job.advice?.toList := by
  cases job <;> rfl

theorem Inquired.proceeds (inquired : Inquired settings retries inquest) {jobs ready : List Job}
    (known : Live settings retries inquest id call jobs) (left : Left id inquest.ready ready)
    (exhausted : Exhausted settings retries fates fault) {desk after : Desk}
    (holds : Holds id inquest.desk desk []) (next : Call)
    (fields : after.remote = desk.remote ∧ after.locks = desk.locks ∧
      after.outcomes = desk.outcomes ∧ after.timers = desk.timers)
    (calls : ∀ other, after.call? other =
      if other = id then some next else inquest.desk.call? other)
    (request : next.request = call.request) (locked : next.locked = call.locked)
    (stage : next.inquiry = some (.fallback (retries + 1) fault)) (rounds : Nat) {job : Job}
    (mine : job.duty? = some id) {fresh : List Incident}
    (own : ∀ incident ∈ fresh, incident.call = id)
    (timely : ∀ incident ∈ fresh, ∀ before, incident.isLate before = false)
    (seen : inquest.promptOf id ++ fresh =
      tried id call.request fates ++ .consulted id call.request :: job.advice?.toList)
    (walking : Walking id next (inquest.desk.locks.line next.locked) [job]) :
    Inquired settings retries (inquest.put ready (after, [(rounds, job)]) fresh) := by
  rcases fields with ⟨remote, locks, outcomes, timers⟩
  refine inquired.goesOn known left next own (remote.trans holds.remote)
    (locks.trans holds.locks) (outcomes.trans holds.outcomes) calls request locked
    (fun other different => ?_) (fun other different => dutiesOf_singleton_of_ne mine different)
    ?_ ?_
  · exact (congrArg _ timers).trans (holds.others other different)
  · refine inquired.begun_put left.sublist ?_ fun timer pending => ?_
    · intro entry member attempt answers
      cases List.mem_singleton.mp member
      cases (Job.answers?_of_duty? mine).symm.trans answers
    · refine (holds.answers timer (timers ▸ pending)).imp_right fun silent attempt answers => ?_
      cases silent.symm.trans answers
  · rw [prompt_append timely, ← Inquest.promptOf, seen,
      List.map_singleton, dutiesOf_singleton mine, timers, holds.mine, ← toList_advice?, ← request]
    exact .referred exhausted.fails exhausted.count exhausted.last stage walking

structure Walks (settings : Online.Settings) (retries : Nat) (inquest : Inquest) (id : CallId)
    (call : Call) (fates : List Fate) (fault : Fault) (ready : List Job) : Prop where
  left : Left id inquest.ready ready
  exhausted : Exhausted settings retries fates fault
  stage : call.inquiry = some (.fallback (retries + 1) fault)
  alarms : alarmsOf id inquest.desk.timers = []
  seen : inquest.promptOf id =
    tried id call.request fates ++ [.consulted id call.request]

theorem Inquired.queries (inquired : Inquired settings retries inquest) {jobs ready : List Job}
    (known : Live settings retries inquest id call jobs)
    (walks : Walks settings retries inquest id call fates fault ready) (query : Query)
    (stage : Offline.Stage)
    (walking : Walking id { call with walk := some stage } (inquest.desk.locks.line call.locked)
      [.replied id (inquest.desk.query query).2.1]) :
    Inquired settings retries
      (inquest.put ready (inquest.desk.stepOffline id call (.ask query stage)) []) := by
  have step : inquest.desk.stepOffline id call (.ask query stage) =
      ((inquest.desk.query query).1.setCall id { call with walk := some stage },
        [((inquest.desk.query query).2.2, .replied id (inquest.desk.query query).2.1)]) := rfl
  have holds := inquest.desk.holds_query id query
  rw [walks.alarms] at holds
  rw [step]
  refine inquired.proceeds known walks.left walks.exhausted holds
    { call with walk := some stage } ?_ (fun other => ?_) rfl rfl walks.stage _ rfl ?_ ?_ ?_ walking
  · exact ⟨rfl, rfl, rfl, rfl⟩
  · refine (Desk.call?_setCall _ id other _).trans ?_
    rw [Desk.call?, holds.calls]
    rfl
  · simp
  · simp
  · rw [List.append_nil, walks.seen]
    rfl

theorem Inquired.rests (inquired : Inquired settings retries inquest) {jobs ready : List Job}
    (known : Live settings retries inquest id call jobs)
    (walks : Walks settings retries inquest id call fates fault ready)
    (away : id ∉ inquest.desk.locks.line call.locked) (subject : Offline.Subject)
    (user : UserView) :
    Inquired settings retries
      (inquest.put ready (inquest.desk.stepOffline id call (.rest (.checks subject user))) []) := by
  have step : inquest.desk.stepOffline id call (.rest (.checks subject user)) =
      (inquest.desk.setCall id { call with walk := some (.checks subject user) },
        [(0, .check id)]) := rfl
  have holds := Holds.refl id inquest.desk
  rw [walks.alarms] at holds
  rw [step]
  refine inquired.proceeds known walks.left walks.exhausted holds
    { call with walk := some (.checks subject user) } ?_
    (fun other => Desk.call?_setCall _ id other _) rfl rfl walks.stage _ rfl ?_ ?_ ?_
    (.checking away rfl)
  · exact ⟨rfl, rfl, rfl, rfl⟩
  · simp
  · simp
  · rw [List.append_nil, walks.seen]
    rfl

theorem Inquired.concludes (inquired : Inquired settings retries inquest)
    {jobs ready : List Job} (known : Live settings retries inquest id call jobs)
    (walks : Walks settings retries inquest id call fates fault ready)
    {outcome : Except Fault Decision} (rounds : Nat) {job : Job} (mine : job.duty? = some id)
    (advice : job.advice? = some (.advised id outcome))
    (walking : Walking id call (inquest.desk.locks.line call.locked) [job]) :
    Inquired settings retries
      (inquest.put ready (inquest.desk, [(rounds, job)]) [.advised id outcome]) := by
  have holds := Holds.refl id inquest.desk
  rw [walks.alarms] at holds
  refine inquired.proceeds known walks.left walks.exhausted holds call ⟨rfl, rfl, rfl, rfl⟩
    (fun other => ?_) rfl rfl walks.stage _ mine (by simp [Incident.call])
    (by simp [Incident.isLate]) ?_ walking
  · split
    · next same => exact same ▸ known.live
    · rfl
  · rw [walks.seen, advice]
    simp

theorem Inquired.queues (inquired : Inquired settings retries inquest)
    {jobs ready : List Job} (known : Live settings retries inquest id call jobs)
    (walks : Walks settings retries inquest id call fates fault ready)
    (away : id ∉ inquest.desk.locks.line call.locked) (subject : Offline.Subject) :
    Inquired settings retries (inquest.put ready
      (inquest.desk.stepOffline id call (.acquire subject.user (.queued subject))) []) := by
  let next : Call := { call with walk := some (.queued subject), locked := subject.user }
  generalize after_is : inquest.put ready
    (inquest.desk.stepOffline id call (.acquire subject.user (.queued subject))) [] = after
  have nowhere (key : Reference) : id ∉ inquest.desk.locks.line key := fun member =>
    away (inquired.locked_eq known.live key member ▸ member)
  have locks : after.desk.locks = (inquest.desk.locks.acquire subject.user id).1 := by
    rw [← after_is]
    rfl
  have calls (other : CallId) : after.desk.call? other =
      if other = id then some next else inquest.desk.call? other := by
    rw [← after_is]
    exact Desk.call?_setCall ..
  have same (other : CallId) : after.promptOf other = inquest.promptOf other := by
    rw [← after_is]
    exact congrArg prompt (congrArg (incidentsOf other) (List.append_nil _))
  have duties (other : CallId) : dutiesOf other after.ready = dutiesOf other ready ++
      if id = other ∧ (inquest.desk.locks.line subject.user).isEmpty then [.enter id] else [] := by
    rw [← after_is, Inquest.put_ready, dutiesOf_append]
    apply congrArg
    apply Agenda.owned_if
    rfl
  have spares (other : CallId) (different : other ≠ id) : inquest.Spares after other := by
    refine ⟨?_, (calls other).trans (if_neg different), same other, ?_, ?_⟩ <;>
      rw [← after_is] <;> rfl
  refine inquired.joins subject.user (by rw [← after_is]; rfl) locks spares
    (fun other different => ?others) nowhere ((calls id).trans (if_pos rfl)) rfl ?begun ?situation
  case others =>
    rw [duties, if_neg fun both => different both.1.symm, List.append_nil,
      walks.left.others other different]
  case begun =>
    rw [← after_is]
    refine inquired.begun_put walks.left.sublist (fun entry member => ?_) fun _ => .inl
    have enters : entry = (0, .enter id) := by
      simp only [Desk.stepOffline] at member
      split at member <;> simp_all
    simp [enters, Job.answers?]
  case situation =>
    have line : after.desk.locks.line subject.user =
        inquest.desk.locks.line subject.user ++ [id] := by
      rw [locks]
      exact (Lock.line_acquire inquired.sound subject.user _ id).trans (if_pos rfl)
    have request : after.scene.requests[id]? = some next.request := by
      rw [← after_is]
      exact known.request
    have alarms : alarmsOf id after.desk.timers = [] := by
      rw [← after_is]
      exact walks.alarms
    have results : after.desk.resultsOf id = [] := by
      rw [← after_is]
      exact known.results
    rw [request, calls, if_pos rfl, same, duties, walks.left.mine, List.nil_append, alarms, results,
      walks.seen]
    have walking : Walking id next (after.desk.locks.line next.locked)
        (if (inquest.desk.locks.line subject.user).isEmpty then [.enter id] else []) :=
      line ▸ .joining rfl rfl _
    have stage : next.inquiry = some (.fallback (retries + 1) fault) := walks.stage
    have stands := Stands.referred walks.exhausted.fails walks.exhausted.count
      walks.exhausted.last stage walking
    have silent : (if (inquest.desk.locks.line subject.user).isEmpty then [Job.enter id]
        else []).filterMap Job.advice? = [] := by
      split <;> rfl
    rw [silent] at stands
    simpa using Situation.live stands

theorem Inquired.outside (inquired : Inquired settings retries inquest)
    {jobs ready : List Job} (known : Live settings retries inquest id call jobs)
    (walks : Walks settings retries inquest id call fates fault ready)
    (away : id ∉ inquest.desk.locks.line call.locked) {now : Time.Instant}
    {next : Offline.Next} (outside : next.IsOutside now) :
    Inquired settings retries (inquest.put ready (inquest.desk.stepOffline id call next)
      ((next.outcome?.map (.advised id)).toList)) := by
  cases outside with
  | @ask query stage _ outside =>
      exact inquired.queries known walks query stage (.outside away rfl outside)
  | rest subject user => exact inquired.rests known walks away subject user
  | acquire subject => exact inquired.queues known walks away subject
  | @finish outcome rounds _ =>
      exact inquired.concludes known walks _ rfl rfl (.done away fun _ => trivial)

theorem Stands.of_walk {line : List CallId} {seen : List Incident} {job : Job}
    {alarms : List Alarm} (stands : Stands settings retries id call line seen [job] alarms)
    (other : ∀ stage seen alarms,
      ¬Inquiring settings retries id call.request stage seen [job] alarms) :
    ∃ fates fault, Exhausted settings retries fates fault ∧
      call.inquiry = some (.fallback (retries + 1) fault) ∧ alarms = [] ∧
      seen = tried id call.request fates ++
        .consulted id call.request :: job.advice?.toList ∧
      Walking id call line [job] := by
  cases stands with
  | inquires away stage inquiring => exact absurd inquiring (other _ _ _)
  | referred fails count last stage walking =>
      exact ⟨_, _, ⟨fails, count, last⟩, stage, rfl, by rw [toList_advice?], walking⟩

theorem dutiesOf_leave (id other : CallId) (ready : List Job) (next : Option CallId)
    (outcome : Except Fault Decision) :
    dutiesOf other (ready ++ (next.toList.map .enter ++ [.outcome id outcome])) =
      dutiesOf other ready ++ ((if next = some other then [.enter other] else []) ++
        if id = other then [.outcome id outcome] else []) := by
  have entering : dutiesOf other (next.toList.map Job.enter) =
      if next = some other then [.enter other] else [] := by
    unfold dutiesOf
    rw [Agenda.owned_map_toList]
    exact fun _ => rfl
  have ending : dutiesOf other [.outcome id outcome] =
      if id = other then [.outcome id outcome] else [] := by
    by_cases same : id = other <;> simp [dutiesOf, Agenda.owned, Job.duty?, Job.call, same]
  rw [← entering, ← ending]
  simp only [dutiesOf, Agenda.owned_append]

theorem Inquired.departs (inquired : Inquired settings retries inquest) {front back : List Job}
    {outcome : Except Fault Decision} (whole : inquest.ready = front ++ .leave id outcome :: back)
    (clock : Agenda.Clock) :
    Inquired settings retries (inquest.put (front ++ back)
      (Desk.perform clock (.leave id outcome) inquest.desk) []) := by
  have mine : (Job.leave id outcome).duty? = some id := rfl
  rcases inquired.on_duty whole mine with ⟨call, known, left⟩
  rcases known.stands.of_walk (fun _ _ _ inquiring => nomatch inquiring) with
    ⟨fates, fault, exhausted, stage, alarms, seen, walking⟩
  cases walking with
  | leaving holds _ =>
      rcases List.head?_eq_some_iff.mp holds with ⟨behind, line⟩
      have next : (inquest.desk.locks.release call.locked).2 = behind.head? := by
        rw [Lock.release_next, line]
        rfl
      have performs := Desk.perform_leave known.live clock outcome
      rw [next] at performs
      rw [performs]
      generalize after_is : inquest.put (front ++ back) _ [] = after
      have ready : after.ready =
          front ++ back ++ (behind.head?.toList.map .enter ++ [.outcome id outcome]) := by
        rw [← after_is, Inquest.put_ready]
        cases behind <;> rfl
      have duties (other : CallId) :=
        dutiesOf_leave id other (front ++ back) behind.head? outcome
      have same (other : CallId) : after.promptOf other = inquest.promptOf other := by
        rw [← after_is]
        exact congrArg prompt (congrArg (incidentsOf other) (List.append_nil _))
      have still (other : CallId) : after.desk.call? other = inquest.desk.call? other := by
        rw [← after_is]
        rfl
      have spares (other : CallId) (_ : other ≠ id) : inquest.Spares after other := by
        refine ⟨?_, still other, same other, ?_, ?_⟩ <;> rw [← after_is] <;> rfl
      refine inquired.leaves known.live line (by rw [← after_is]; rfl) (by rw [← after_is]; rfl)
        spares ((still id).trans known.live) (fun other different => ?others) ?begun
        fun distinct rest => ?situation
      case others =>
        rw [ready, duties, if_neg different.symm, List.append_nil, left.others other different]
      case begun =>
        rw [← after_is]
        refine inquired.begun_put left.sublist (fun entry member => ?_) fun _ => .inl
        rcases List.mem_append.mp member with enters | ends
        · rcases List.mem_map.mp enters with ⟨other, -, rfl⟩
          simp [Job.answers?]
        · cases List.mem_singleton.mp ends
          simp [Job.answers?]
      case situation =>
        have not_next : behind.head? ≠ some id := fun first => distinct (List.mem_of_head? first)
        have walking : Walking id call (after.desk.locks.line call.locked) [.outcome id outcome] :=
          .done (rest ▸ distinct) fun _ => trivial
        have stands := Stands.referred exhausted.fails exhausted.count exhausted.last stage walking
        have request : after.scene.requests[id]? = some call.request := by
          rw [← after_is]
          exact known.request
        have none_set : alarmsOf id after.desk.timers = [] := by
          rw [← after_is]
          exact alarms
        have results : after.desk.resultsOf id = [] := by
          rw [← after_is]
          exact known.results
        rw [request, still, known.live, same, seen, ready, duties, left.mine, if_neg not_next,
          if_pos rfl, none_set, results]
        exact .live stands

theorem Stands.of_outcome {line : List CallId} {seen : List Incident} {alarms : List Alarm}
    {outcome : Except Fault Decision}
    (stands : Stands settings retries id call line seen [.outcome id outcome] alarms) :
    id ∉ line ∧ alarms = [] ∧ Course settings retries id call.request seen
      (some (outcome, call.inquiry.bind Online.Stage.report?)) := by
  cases stands with
  | inquires away stage inquiring =>
      cases inquiring with
      | decided verdict fails count =>
          rw [stage]
          exact ⟨away, rfl, .decided verdict fails count⟩
  | referred fails count last stage walking =>
      rw [stage]
      cases walking with
      | done away _ => exact ⟨away, rfl, .advised outcome fails count last⟩

theorem Inquired.closes (inquired : Inquired settings retries inquest) {front back : List Job}
    {outcome : Except Fault Decision}
    (whole : inquest.ready = front ++ .outcome id outcome :: back) (clock : Agenda.Clock) :
    Inquired settings retries (inquest.put (front ++ back)
      (Desk.perform clock (.outcome id outcome) inquest.desk) []) := by
  have mine : (Job.outcome id outcome).duty? = some id := rfl
  rcases inquired.on_duty whole mine with ⟨call, known, left⟩
  rcases known.stands.of_outcome with ⟨away, alarms, course⟩
  have performs : Desk.perform clock (.outcome id outcome) inquest.desk =
      (inquest.desk.close id outcome, []) := rfl
  rw [performs]
  generalize after_is : inquest.put (front ++ back) (inquest.desk.close id outcome, []) [] = after
  have calls (other : CallId) : after.desk.call? other =
      if other = id then none else inquest.desk.call? other := by
    rw [← after_is]
    exact Desk.call?_close ..
  have same (other : CallId) : after.promptOf other = inquest.promptOf other := by
    rw [← after_is]
    exact congrArg prompt (congrArg (incidentsOf other) (List.append_nil _))
  have ready : after.ready = front ++ back := by
    rw [← after_is]
    exact List.append_nil _
  have results (other : CallId) : after.desk.resultsOf other =
      inquest.desk.resultsOf other ++
        if id = other then [(outcome, call.inquiry.bind Online.Stage.report?)] else [] := by
    have closed := inquest.desk.resultsOf_close id other outcome
    rw [known.live] at closed
    rw [← after_is]
    exact closed
  refine inquired.act id (by rw [← after_is]; rfl) (by rw [← after_is]; rfl)
    (fun other different => ?_) (fun other different => ?_) (fun key member => ?_) ?_ ?_
  · refine ⟨?_, (calls other).trans (if_neg different), same other, ?_, ?_⟩
    · rw [← after_is]
      rfl
    · rw [← after_is]
      rfl
    · rw [results, if_neg different.symm, List.append_nil]
  · rw [ready, left.others other different]
  · exact absurd (inquired.locked_eq known.live key member ▸ member) away
  · rw [← after_is]
    exact inquired.begun_put left.sublist (by simp) fun _ => .inl
  · have request : after.scene.requests[id]? = some call.request := by
      rw [← after_is]
      exact known.request
    have none_set : alarmsOf id after.desk.timers = [] := by
      rw [← after_is]
      exact alarms
    rw [request, calls, if_pos rfl, same, ready, left.mine, none_set, results, known.results,
      if_pos rfl]
    exact .ended course

theorem Inquired.refers (inquired : Inquired settings retries inquest) {jobs ready : List Job}
    (known : Live settings retries inquest id call jobs) (left : Left id inquest.ready ready)
    (away : id ∉ inquest.desk.locks.line call.locked)
    (alarms : alarmsOf id inquest.desk.timers = [])
    (exhausted : Exhausted settings retries fates fault)
    (seen : inquest.promptOf id = tried id call.request fates) (clock : Agenda.Clock) :
    Inquired settings retries (inquest.put ready
      (inquest.desk.stepOnline clock settings id call (.fallBack (retries + 1) fault))
      (.consulted id call.request ::
        (inquest.desk.fallback.outcome?.map (.advised id)).toList)) := by
  have holds := Holds.refl id inquest.desk
  rw [alarms] at holds
  cases local_is : inquest.desk.fallback with
  | fixed outcome =>
      have step : inquest.desk.stepOnline clock settings id call (.fallBack (retries + 1) fault) =
          ({ inquest.desk with fallbacks := inquest.desk.fallbacks + 1 }.setCall id
            { call with inquiry := some (.fallback (retries + 1) fault) },
            [(2, .outcome id outcome)]) := by
        simp [Desk.stepOnline, Desk.decideLocally, local_is, Desk.roundsOfInquiry]
      rw [step]
      refine inquired.proceeds known left exhausted holds
        { call with inquiry := some (.fallback (retries + 1) fault) } ?_ (fun other => ?_) rfl rfl
        rfl _ rfl ?_ ?_ ?_ (.done away fun _ => trivial)
      · exact ⟨rfl, rfl, rfl, rfl⟩
      · exact Desk.call?_setCall _ id other _
      · simp [Local.outcome?, Incident.call]
      · simp [Local.outcome?, Incident.isLate]
      · rw [seen]
        rfl
  | register =>
      rcases Offline.start_eq_ask call.request with ⟨query, stage, first, -, outside⟩
      let referred : Desk := { inquest.desk with fallbacks := inquest.desk.fallbacks + 1 }
      let asking : Call := { call with inquiry := some (.fallback (retries + 1) fault) }
      let next : Call := { asking with started := referred.now clock, walk := some stage }
      have step : inquest.desk.stepOnline clock settings id call (.fallBack (retries + 1) fault) =
          ((referred.query query).1.setCall id next,
            [((referred.query query).2.2, .replied id (referred.query query).2.1)]) := by
        have register : referred.fallback = .register := local_is
        have begins : Offline.start asking.request = .ask query stage := first
        exact Desk.decideLocally_register register begins clock id
      have queried := referred.holds_query id query
      rw [show alarmsOf id referred.timers = [] from alarms] at queried
      have holds : Holds id inquest.desk (referred.query query).1 [] :=
        ⟨queried.remote, queried.calls, queried.locks, queried.outcomes, queried.mine,
          queried.others, queried.answers⟩
      rw [step]
      refine inquired.proceeds known left exhausted holds next ?_ (fun other => ?_) rfl rfl rfl _
        rfl ?_ ?_ ?_ (.outside away rfl outside)
      · exact ⟨rfl, rfl, rfl, rfl⟩
      · refine (Desk.call?_setCall _ id other _).trans ?_
        rw [Desk.call?, holds.calls]
        rfl
      · simp [Local.outcome?, Incident.call]
      · simp [Local.outcome?, Incident.isLate]
      · rw [seen]
        rfl

theorem Inquired.recovers (inquired : Inquired settings retries inquest) {front back : List Job}
    {attempt : Nat} (whole : inquest.ready = front ++ .recover id attempt fault :: back)
    (allows : ∀ failed, settings.allows failed = decide (failed ≤ retries)) (clock : Agenda.Clock) :
    Inquired settings retries (inquest.put (front ++ back)
      (Desk.perform clock (.recover id attempt fault) inquest.desk)
      (inquest.desk.incidents clock (.recover id attempt fault))) := by
  have mine : (Job.recover id attempt fault).duty? = some id := rfl
  rcases inquired.on_duty whole mine with ⟨call, known, left⟩
  rcases known.stands.of_recover with
    ⟨away, alarms, fates, fate, rfl, fails, count, failed, -, seen⟩
  rcases inquired.remote with ⟨remote, asks⟩
  have all_fail : (fates ++ [fate]).all Fate.fails = true := by
    simp [fails, Fate.fails_of_fault? failed]
  have length : (fates ++ [fate]).length = fates.length + 1 := List.length_append
  have holds := Holds.refl id inquest.desk
  rw [alarms] at holds
  rw [Desk.perform_recover known.live asks]
  by_cases more : fates.length + 1 ≤ retries
  · have again : Online.caught settings (fates.length + 1) fault =
        if (Number.finite 0).lt settings.pause then .pause (fates.length + 1)
        else .attempt (fates.length + 2) := by
      rw [Online.caught, allows, decide_eq_true more]
      rfl
    have silent : inquest.desk.incidents clock (.recover id (fates.length + 1) fault) = [] := by
      cases pauses : (Number.finite 0).lt settings.pause <;>
        simp [Desk.incidents, known.live, asks, again, pauses]
    rw [silent, again]
    split
    · refine inquired.moves known away left
        (holds.set (show (Alarm.pause id (fates.length + 1)).duty? = some id from rfl) clock _)
        (by simp) (by simp) ?_
      rw [List.append_nil, ← Inquest.promptOf, seen, ← length]
      exact .pausing all_fail (length ▸ more)
    · rw [show fates.length + 2 = (fates ++ [fate]).length + 1 by rw [length]]
      exact inquired.attempts known away left holds seen all_fail (length ▸ more) clock
  · have last : fates.length = retries := by omega
    have exceeded : Online.caught settings (fates.length + 1) fault =
        .fallBack (retries + 1) fault := by
      rw [Online.caught, allows, decide_eq_false more, last]
      rfl
    have exhausted : Exhausted settings retries (fates ++ [fate]) fault :=
      ⟨all_fail, by rw [length, last], by simp [failed]⟩
    have shows : inquest.desk.incidents clock (.recover id (fates.length + 1) fault) =
        .consulted id call.request ::
          (inquest.desk.fallback.outcome?.map (.advised id)).toList := by
      simp only [Desk.incidents, known.live, asks, exceeded]
    rw [shows, exceeded]
    exact inquired.refers known left away alarms exhausted seen clock

theorem Inquired.inside (inquired : Inquired settings retries inquest)
    {jobs ready : List Job} (known : Live settings retries inquest id call jobs)
    (walks : Walks settings retries inquest id call fates fault ready)
    (holds : (inquest.desk.locks.line call.locked).head? = some id) {next : Offline.Next}
    (inside : (∃ entry, next = .ask (.append entry) .granting) ∨
      (∃ entry, next = .ask (.append entry) (.denying .antiPassback .locked)) ∨
      ∃ outcome rounds, next = .leave outcome rounds) :
    Inquired settings retries (inquest.put ready (inquest.desk.stepOffline id call next)
      ((next.outcome?.map (.advised id)).toList)) := by
  rcases inside with ⟨entry, rfl⟩ | ⟨entry, rfl⟩ | ⟨outcome, rounds, rfl⟩
  · exact inquired.queries known walks _ _ (.granting holds rfl)
  · exact inquired.queries known walks _ _ (.refusing holds rfl trivial)
  · exact inquired.concludes known walks rounds rfl rfl (.leaving holds fun _ => trivial)

theorem Inquired.walk (inquired : Inquired settings retries inquest) {front back : List Job}
    {job : Job} (whole : inquest.ready = front ++ job :: back) (mine : job.duty? = some id)
    (register : ∀ request stage seen alarms,
      ¬Inquiring settings retries id request stage seen [job] alarms)
    (quiet : job.advice? = none) (clock : Agenda.Clock) :
    Inquired settings retries (inquest.put (front ++ back)
      (Desk.perform clock job inquest.desk) (inquest.desk.incidents clock job)) := by
  rcases inquired.on_duty whole mine with ⟨call, known, left⟩
  rcases known.stands.of_walk (register call.request) with
    ⟨fates, fault, exhausted, stage, alarms, seen, walking⟩
  rw [quiet] at seen
  have walks : Walks settings retries inquest id call fates fault (front ++ back) :=
    ⟨left, exhausted, stage, alarms, seen⟩
  have steps {next : Offline.Next} (goesOn : inquest.desk.walkOn? clock job = some next)
      (here : job.call = id)
      (kept : Inquired settings retries (inquest.put (front ++ back)
        (inquest.desk.stepOffline id call next) ((next.outcome?.map (.advised id)).toList))) :
      Inquired settings retries (inquest.put (front ++ back)
        (Desk.perform clock job inquest.desk) (inquest.desk.incidents clock job)) := by
    rcases Desk.perform_walk goesOn (here ▸ known.live) with ⟨performs, shows⟩
    rw [performs, shows, here]
    exact kept
  -- The way in which the call stands fixes its one job, and so the next step of the walk.
  cases walking with
  | @outside stage reply away walk outside =>
      exact steps (Desk.walkOn?_replied known.live clock walk reply) rfl
        (inquired.outside known walks away (Offline.isOutside_resume _ _ _ _ outside _))
  | @checking subject user away walk =>
      exact steps (Desk.walkOn?_check known.live clock walk) rfl (inquired.outside known walks away
        (Offline.isOutside_check _ (inquest.desk.now clock) _ _ _ _))
  | @called subject holds walk locked =>
      refine steps (Desk.walkOn?_enter known.live clock walk) rfl ?_
      rw [Offline.enter]
      split
      · exact inquired.queries known walks _ _
          (.looking holds rfl locked (inquest.desk.tells_query _ _ _))
      · exact inquired.inside known walks holds (.inl ⟨_, rfl⟩)
  | @looking subject reply holds walk locked tells =>
      refine steps (Desk.walkOn?_replied known.live clock walk reply) rfl
        (inquired.inside known walks holds ?_)
      cases tells with
      | failed fault => exact .inr (.inr ⟨_, _, rfl⟩)
      | missing => exact .inl ⟨_, rfl⟩
      | found =>
          simp only [Offline.resume, Offline.deny]
          split
          · exact .inr (.inl ⟨_, rfl⟩)
          · exact .inr (.inr ⟨_, _, rfl⟩)
  | @granting reply holds walk =>
      rcases Offline.resume_granting inquest.desk.offline (inquest.desk.now clock) call.started
        call.request reply with ⟨outcome, rounds, ending, -⟩
      exact steps (Desk.walkOn?_replied known.live clock walk reply) rfl
        (inquired.inside known walks holds (.inr (.inr ⟨outcome, rounds, ending⟩)))
  | @refusing reply holds walk passed =>
      rcases Offline.resume_denying_locked inquest.desk.offline (inquest.desk.now clock)
        call.started call.request .antiPassback reply with ⟨outcome, rounds, ending⟩
      exact steps (Desk.walkOn?_replied known.live clock walk reply) rfl
        (inquired.inside known walks holds (.inr (.inr ⟨outcome, rounds, ending⟩)))
  | leaving holds reason => cases quiet
  | done away reason => cases quiet

end

end Gatehouse.Validation
