import Gatehouse.Proofs.Validation.Beats

/-!
# What is written down about attempts

The questions at the desk are those of the attempts that reach the authority (`Incident.posed?`). A
question is marked as given up just when the time for its attempt is over, and the desk counts how
often somebody else was asked to decide (`Marked`). An answer that comes when its attempt is over
changes nothing (`Inquired.idle_of_late`).
-/

namespace Gatehouse.Validation

open Gatehouse.Access Gatehouse.Authority Gatehouse.Register

def Question.name (question : Question) : CallId × Nat :=
  (question.call, question.attempt)

/-- The attempt whose question reaches the authority: in the same process each does, and over HTTP
those of requests that have a written time. -/
def Incident.posed? (remote : Remote) : Incident → Option (CallId × Nat)
  | .asked id attempt request =>
      match remote.channel with
      | .direct => some (id, attempt)
      | .http .. => (Time.Iso.write? request.timestamp).map fun _ => (id, attempt)
  | _ => none

/-- Whether an attempt begins or ends without an answer, or a call is referred. -/
def Incident.isMarked : Incident → Bool
  | .asked .. | .expired .. | .consulted .. => true
  | _ => false

/-- The authority, the questions that were asked, and how often a call was referred, are as they
were. -/
structure Unmarked (before after : Desk) : Prop where
  remote : after.remote = before.remote
  questions : after.questions = before.questions
  fallbacks : after.fallbacks = before.fallbacks

namespace Desk

variable (desk : Desk) (clock : Agenda.Clock) (id : CallId) (call : Call)

theorem unmarked_query (query : Query) : Unmarked desk (desk.query query).1 := by
  unfold Desk.query
  split <;> exact ⟨rfl, rfl, rfl⟩

theorem unmarked_stepOffline (next : Offline.Next) :
    Unmarked desk (desk.stepOffline id call next).1 := by
  cases next with
  | ask query stage =>
      have unmarked := desk.unmarked_query query
      exact ⟨unmarked.remote, unmarked.questions, unmarked.fallbacks⟩
  | rest | acquire | finish | leave => exact ⟨rfl, rfl, rfl⟩

theorem unmarked_decideLocally : Unmarked desk (desk.decideLocally clock id call).1 := by
  unfold decideLocally
  split
  · exact ⟨rfl, rfl, rfl⟩
  · exact desk.unmarked_stepOffline id _ _

theorem unmarked_stepOnline (settings : Online.Settings) {next : Online.Next}
    (decides : ∀ attempts fault, next ≠ .fallBack attempts fault) :
    Unmarked desk (desk.stepOnline clock settings id call next).1 := by
  cases next with
  | fallBack attempts fault => exact absurd rfl (decides attempts fault)
  | attempt | pause | recover | decide | nothing => exact ⟨rfl, rfl, rfl⟩

theorem unmarked_hear (attempt : Nat) (result : Except Fault Verdict) :
    Unmarked desk (desk.hear clock id attempt result).1 := by
  unfold hear
  split
  · next call _ settings _ _ =>
      split
      · next stage _ =>
          have decides : ∀ attempts fault,
              Online.answered call.request stage attempt result ≠ .fallBack attempts fault := by
            intro attempts fault
            unfold Online.answered
            split
            · split <;> simp
            · split <;> simp
            · simp
          have unmarked (desk : Desk) := desk.unmarked_stepOnline clock id call settings decides
          exact ⟨(unmarked _).remote, (unmarked _).questions, (unmarked _).fallbacks⟩
      · exact ⟨rfl, rfl, rfl⟩
  · exact ⟨rfl, rfl, rfl⟩

theorem unmarked_begin (request : Request) (asks : desk.remote.isSome) :
    Unmarked desk (desk.begin clock id request).1 := by
  unfold begin
  split
  · exact desk.unmarked_stepOnline clock id _ _ (by simp [Online.start])
  · next none => simp [none] at asks

/-- The jobs that neither ask the authority nor deal with a failed attempt mark nothing. -/
theorem unmarked_perform {job : Job} (asks : ∀ id attempt, job ≠ .ask id attempt)
    (recovers : ∀ id attempt fault, job ≠ .recover id attempt fault) :
    Unmarked desk (perform clock job desk).1 := by
  have same : Unmarked desk desk := ⟨rfl, rfl, rfl⟩
  cases job with
  | replied id reply =>
      simp only [perform]
      split
      · split
        · exact desk.unmarked_stepOffline id _ _
        · exact same
      · exact same
  | check id =>
      simp only [perform]
      split
      · split
        · exact desk.unmarked_stepOffline id _ _
        · exact same
      · exact same
  | enter id =>
      simp only [perform]
      split
      · split
        · exact desk.unmarked_stepOffline id _ _
        · exact same
      · exact same
  | leave id outcome =>
      simp only [perform]
      split
      · exact ⟨rfl, rfl, rfl⟩
      · exact same
  | ask id attempt => exact absurd rfl (asks id attempt)
  | answered id attempt result => exact desk.unmarked_hear clock id attempt result
  | recover id attempt fault => exact absurd rfl (recovers id attempt fault)
  | resume id attempt =>
      simp only [perform]
      split
      · exact desk.unmarked_stepOnline clock id _ _ (by simp [Online.resumed])
      · exact same
  | outcome id outcome => exact ⟨rfl, rfl, rfl⟩

theorem questions_ask (remote : Remote) (attempt : Nat) :
    ∃ asked, (desk.ask clock remote id call attempt).1.questions = desk.questions ++ asked ∧
      asked.map Question.name =
        (Incident.posed? remote (.asked id attempt call.request)).toList ∧
      ∀ question ∈ asked, question.asked.aborted = false := by
  have written : (desk.ask clock remote id call attempt).1.questions = desk.questions ++
      (remote.ask call.request desk.questions.length).asked.toList.map
        fun posted => ⟨id, attempt, ⟨clock.now, posted, false⟩⟩ := by
    simp only [ask]
    cases (remote.ask call.request desk.questions.length).asked <;> split <;> rfl
  refine ⟨_, written, ?_⟩
  rcases remote with ⟨channel, acts⟩
  cases channel with
  | direct => simp [Remote.ask, Incident.posed?, Question.name]
  | http url apiKey =>
      cases timed : Time.Iso.write? call.request.timestamp <;>
        simp [Remote.ask, Incident.posed?, Question.name, timed]

theorem names_giveUp (desk : Desk) (id : CallId) (attempt : Nat) :
    (desk.giveUp id attempt).questions.map Question.name = desk.questions.map Question.name := by
  rw [giveUp, List.map_map]
  apply List.map_congr_left
  intro question _
  simp only [Function.comp_apply, Question.name]
  split <;> rfl

/-- Just the questions of the attempt are given up, beside those that were before. -/
theorem mem_giveUp {desk : Desk} {id : CallId} {attempt : Nat} {question : Question}
    (member : question ∈ (desk.giveUp id attempt).questions) :
    ∃ before ∈ desk.questions, question.call = before.call ∧ question.attempt = before.attempt ∧
      (question.asked.aborted = true ↔
        before.asked.aborted = true ∨ before.call = id ∧ before.attempt = attempt) := by
  rcases List.mem_map.mp member with ⟨before, among, rfl⟩
  refine ⟨before, among, ?_⟩
  split <;> simp_all

end Desk

/-- What is written down at the desk agrees with what was seen: the questions are those of the
attempts that reach the authority, each is given up just when the time for its attempt is over, and
referred calls are counted. -/
structure Marked (remote : Remote) (inquest : Inquest) : Prop where
  asks : inquest.desk.remote.map Prod.fst = some remote
  posed : inquest.desk.questions.map Question.name =
    inquest.seen.filterMap (Incident.posed? remote)
  aborted : ∀ question ∈ inquest.desk.questions,
    question.asked.aborted = true ↔ .expired question.call question.attempt ∈ inquest.seen
  counted : inquest.desk.fallbacks = inquest.seen.countP Incident.isConsulted

section

variable {remote : Remote} {settings : Online.Settings} {retries : Nat} {inquest : Inquest}
  {id : CallId}

theorem Incident.eq_of_posed? {attempt : Nat} {request : Request} {name : CallId × Nat}
    (posed : posed? remote (.asked id attempt request) = some name) : name = (id, attempt) := by
  simp only [posed?] at posed
  split at posed
  · exact (Option.some.inj posed).symm
  · rcases Option.map_eq_some_iff.mp posed with ⟨-, -, same⟩
    exact same.symm

theorem Marked.start (remote : Remote) (settings : Online.Settings) (fallback : Local)
    (offline : Offline.Settings) (store : Store) :
    Marked remote (.start (.start (some (remote, settings)) fallback offline store)) where
  asks := rfl
  posed := rfl
  aborted _ member := nomatch member
  counted := rfl

/-- What neither begins an attempt nor ends the time for one keeps the marks, as long as referred
calls are counted. -/
theorem Marked.put (marked : Marked remote inquest) (ready : List Job)
    {outcome : Desk × Agenda.Line Job} {fresh : List Incident}
    (same : outcome.1.remote = inquest.desk.remote)
    (questions : outcome.1.questions = inquest.desk.questions)
    (counts : outcome.1.fallbacks =
      inquest.desk.fallbacks + fresh.countP Incident.isConsulted)
    (begins : ∀ incident ∈ fresh, incident.posed? remote = none)
    (running : ∀ id attempt, .expired id attempt ∉ fresh) :
    Marked remote (inquest.put ready outcome fresh) where
  asks := by
    rw [Inquest.put_desk, same]
    exact marked.asks
  posed := by
    rw [Inquest.put_desk, Inquest.put_seen, questions, List.filterMap_append, marked.posed,
      List.filterMap_eq_nil_iff.mpr begins, List.append_nil]
  aborted question member := by
    rw [Inquest.put_desk, questions] at member
    rw [marked.aborted question member, Inquest.put_seen, List.mem_append,
      or_iff_left (running _ _)]
  counted := by
    rw [Inquest.put_desk, Inquest.put_seen, counts, List.countP_append, marked.counted]

theorem Marked.keep (marked : Marked remote inquest) (ready : List Job)
    {outcome : Desk × Agenda.Line Job} (unmarked : Unmarked inquest.desk outcome.1)
    {fresh : List Incident} (quiet : ∀ incident ∈ fresh, incident.isMarked = false) :
    Marked remote (inquest.put ready outcome fresh) := by
  refine marked.put ready unmarked.remote unmarked.questions ?_ ?_
    fun id attempt member => nomatch quiet _ member
  · have none_referred : fresh.countP Incident.isConsulted = 0 := by
      refine List.countP_eq_zero.mpr fun incident member referred => ?_
      have marks : incident.isMarked = true := by
        cases incident <;> first | rfl | cases referred
      exact Bool.false_ne_true ((quiet incident member).symm.trans marks)
    rw [unmarked.fallbacks, none_referred, Nat.add_zero]
  · intro incident member
    cases incident with
    | asked => exact nomatch quiet _ member
    | heard | expired | consulted | advised => rfl

theorem Marked.ask (marked : Marked remote inquest) (inquired : Inquired settings retries inquest)
    {front back : List Job} {attempt : Nat}
    (whole : inquest.ready = front ++ .ask id attempt :: back) (clock : Agenda.Clock) :
    Marked remote (inquest.put (front ++ back) (Desk.perform clock (.ask id attempt) inquest.desk)
      (inquest.desk.incidents clock (.ask id attempt))) := by
  have mine : (Job.ask id attempt).duty? = some id := rfl
  rcases inquired.on_duty whole mine with ⟨call, known, -⟩
  rcases known.stands.of_ask with ⟨-, -, fates, number, -, -, -, seen⟩
  rcases inquired.remote with ⟨authority, asks⟩
  obtain rfl : authority = remote := by simpa [asks] using marked.asks
  -- All that is over was tried before this attempt.
  have on_time : .expired id attempt ∉ inquest.seen := fun expired => by
    have known : .expired id attempt ∈ inquest.promptOf id :=
      (mem_prompt fun _ => rfl).mpr (Agenda.mem_owned.mpr ⟨expired, rfl⟩)
    rw [seen] at known
    rcases mem_tried known with ⟨_, -, within, asked | ⟨fate, -, ended⟩⟩
    · cases asked
    · cases fate <;> cases ended
      omega
  have put := Desk.asks_ask inquest.desk clock authority id call attempt
  rcases inquest.desk.questions_ask clock id call authority attempt with
    ⟨asked, questions, posed, open_yet⟩
  rw [Desk.perform_ask known.live asks, Desk.incidents_ask known.live]
  constructor
  case asks =>
    rw [Inquest.put_desk, put.remote]
    exact marked.asks
  case posed =>
    rw [Inquest.put_desk, Inquest.put_seen, questions, List.map_append, List.filterMap_append,
      marked.posed, posed]
    rfl
  case aborted =>
    intro question member
    rw [Inquest.put_desk, questions] at member
    rw [Inquest.put_seen, List.mem_append, List.mem_singleton, or_iff_left (by simp)]
    rcases List.mem_append.mp member with before | new
    · exact marked.aborted question before
    · have name : question.name = (id, attempt) := by
        have member : question.name ∈ asked.map Question.name := List.mem_map_of_mem new
        rw [posed, Option.mem_toList] at member
        exact Incident.eq_of_posed? member
      obtain ⟨call_is, attempt_is⟩ := Prod.mk.inj name
      rw [open_yet question new, call_is, attempt_is]
      exact ⟨fun same => (Bool.false_ne_true same).elim, fun expired => (on_time expired).elim⟩
  case counted =>
    rw [Inquest.put_desk, Inquest.put_seen, put.fallbacks, List.countP_append, marked.counted]
    rfl

theorem Marked.expire (marked : Marked remote inquest)
    (inquired : Inquired settings retries inquest) {due : Rat} {stamp attempt : Nat}
    (next : inquest.desk.timers.next? = some ⟨due, stamp, .attempt id attempt⟩)
    (put : ∀ job ∈ inquest.ready, job.isAsk = false) (clock : Agenda.Clock) :
    Marked remote (inquest.put inquest.ready (inquest.desk.ring clock (.attempt id attempt))
      [.expired id attempt]) := by
  rcases inquired.expiring next put with
    ⟨call, fates, known, -, -, -, -, -, -, stage, -⟩
  rcases inquired.remote with ⟨remote, asks⟩
  rw [Desk.ring_attempt known.live asks stage]
  let given := { inquest.desk with timers := inquest.desk.timers.rest }.giveUp id attempt
  have unmarked := given.unmarked_stepOnline clock id call settings
    (fun attempts fault => (nofun : Online.Next.recover attempt
      (.authorityTimeout settings.timeout) ≠ .fallBack attempts fault))
  constructor
  case asks =>
    rw [Inquest.put_desk, unmarked.remote]
    exact marked.asks
  case posed =>
    rw [Inquest.put_desk, Inquest.put_seen, unmarked.questions, Desk.names_giveUp,
      List.filterMap_append]
    exact marked.posed.trans (List.append_nil _).symm
  case aborted =>
    intro question member
    rw [Inquest.put_desk, unmarked.questions] at member
    rcases Desk.mem_giveUp member with ⟨before, among, call_is, attempt_is, aborted⟩
    rw [aborted, marked.aborted before among, Inquest.put_seen, List.mem_append,
      List.mem_singleton, call_is, attempt_is]
    simp
  case counted =>
    rw [Inquest.put_desk, Inquest.put_seen, unmarked.fallbacks, List.countP_append]
    exact marked.counted

theorem Marked.recover (marked : Marked remote inquest)
    (inquired : Inquired settings retries inquest) {front back : List Job} {attempt : Nat}
    {fault : Fault} (whole : inquest.ready = front ++ .recover id attempt fault :: back)
    (clock : Agenda.Clock) :
    Marked remote (inquest.put (front ++ back)
      (Desk.perform clock (.recover id attempt fault) inquest.desk)
      (inquest.desk.incidents clock (.recover id attempt fault))) := by
  have mine : (Job.recover id attempt fault).duty? = some id := rfl
  rcases inquired.on_duty whole mine with ⟨call, known, -⟩
  rcases inquired.remote with ⟨remote, asks⟩
  rw [Desk.perform_recover known.live asks]
  simp only [Desk.incidents, known.live, asks]
  split
  · next attempts cause caught =>
      let referred : Desk := { inquest.desk with fallbacks := inquest.desk.fallbacks + 1 }
      have decided := referred.unmarked_decideLocally clock id
        { call with inquiry := some (.fallback attempts cause) }
      rw [caught]
      refine marked.put _ decided.remote decided.questions (decided.fallbacks.trans ?_) ?_ ?_
      · cases inquest.desk.fallback.outcome? <;> rfl
      · simp [Incident.posed?]
      · simp
  · next others =>
      exact marked.keep _ (inquest.desk.unmarked_stepOnline clock id call settings others)
        (by simp)

theorem Marked.work (marked : Marked remote inquest) (inquired : Inquired settings retries inquest)
    {front back : List Job} {job : Job} (whole : inquest.ready = front ++ job :: back)
    (clock : Agenda.Clock) :
    Marked remote (inquest.put (front ++ back) (Desk.perform clock job inquest.desk)
      (inquest.desk.incidents clock job)) := by
  have other (asks : ∀ id attempt, job ≠ .ask id attempt)
      (hears : ∀ id attempt result, job ≠ .answered id attempt result)
      (recovers : ∀ id attempt fault, job ≠ .recover id attempt fault) :
      Marked remote (inquest.put (front ++ back) (Desk.perform clock job inquest.desk)
        (inquest.desk.incidents clock job)) := by
    refine marked.keep _ (inquest.desk.unmarked_perform clock asks recovers) ?_
    rcases inquest.desk.incidents_eq_advised clock asks hears recovers with ⟨said, advised⟩
    rw [advised]
    cases said <;> simp [Incident.isMarked]
  cases job with
  | ask id attempt => exact marked.ask inquired whole clock
  | recover id attempt fault => exact marked.recover inquired whole clock
  | answered id attempt result =>
      exact marked.keep _ (inquest.desk.unmarked_hear clock id attempt result)
        (by simp [Desk.incidents, Incident.isMarked])
  | _ => exact other (by simp) (by simp) (by simp)

theorem Marked.play (marked : Marked remote inquest) (inquired : Inquired settings retries inquest)
    (beat : Beat) : Marked remote (inquest.play beat) := by
  cases beat with
  | move move =>
      cases move with
      | call clock request =>
          rcases inquired.remote with ⟨authority, asks⟩
          have begun := inquest.desk.unmarked_begin clock inquest.scene.requests.length request
            (asks ▸ rfl)
          have kept : Marked remote (inquest.put inquest.ready
              (inquest.desk.begin clock inquest.scene.requests.length request) []) :=
            marked.keep inquest.ready begun (by simp)
          exact ⟨kept.asks, kept.posed, kept.aborted, kept.counted⟩
      | work clock place =>
          rcases inquest.play_work clock place with same | ⟨front, job, back, whole, worked⟩
          · rw [same]
            exact marked
          · rw [worked]
            exact marked.work inquired whole clock
  | ring clock =>
      rcases inquest.play_ring clock with same | ⟨due, stamp, alarm, put, next, rings⟩
      · rw [same]
        exact marked
      · rw [rings]
        cases alarm with
        | attempt id attempt => exact marked.expire inquired next put clock
        | pause id attempt => exact marked.keep _ ⟨rfl, rfl, rfl⟩ (by simp [Alarm.incidents])
        | answer id attempt result =>
            let taken : Desk := { inquest.desk with timers := inquest.desk.timers.rest }
            have heard := taken.unmarked_hear clock id attempt result
            exact marked.keep _ ⟨heard.remote, heard.questions, heard.fallbacks⟩
              (by simp [Alarm.incidents, Incident.isMarked])

theorem Marked.playAll (marked : Marked remote inquest)
    (inquired : Inquired settings retries inquest)
    (allows : ∀ failed, settings.allows failed = decide (failed ≤ retries)) (beats : List Beat) :
    Marked remote (inquest.playAll beats) := by
  induction beats using List.reverseRecOn with
  | nil => exact marked
  | append_singleton beats beat induction =>
      rw [Inquest.playAll_concat]
      exact induction.play (inquired.playAll allows beats) beat

/-- What is left out as late does not end an attempt that is not over without it. -/
theorem any_ends_prompt (seen : List Incident) (attempt : Nat) :
    (prompt seen).any (Incident.ends attempt) = seen.any (Incident.ends attempt) := by
  induction seen using List.reverseRecOn with
  | nil => rfl
  | append_singleton seen last induction =>
      rw [prompt_concat, List.any_append, ← induction]
      split
      · next late =>
          cases last with
          | heard id number result =>
              by_cases same : number = attempt
              · have ended : (prompt seen).any (Incident.ends attempt) = true := same ▸ late
                rw [ended, Bool.true_or]
              · simp [Incident.ends, same]
          | _ => cases late
      · rw [List.any_append]

theorem Desk.eq_answered {desk : Desk} {clock : Agenda.Clock} {job : Job} {attempt : Nat}
    {result : Except Fault Verdict}
    (heard : desk.incidents clock job = [.heard id attempt result]) :
    job = .answered id attempt result := by
  have other (asks : ∀ id attempt, job ≠ .ask id attempt)
      (hears : ∀ id attempt result, job ≠ .answered id attempt result)
      (recovers : ∀ id attempt fault, job ≠ .recover id attempt fault) : False := by
    rcases desk.incidents_eq_advised clock asks hears recovers with ⟨_ | said, advised⟩ <;>
      cases advised.symm.trans heard
  cases job with
  | answered => simpa [incidents] using heard
  | ask id attempt =>
      simp only [incidents] at heard
      split at heard <;> cases heard
  | recover id attempt fault =>
      simp only [incidents] at heard
      split at heard
      · split at heard <;> cases heard
      · cases heard
  | _ => exact (other (by simp) (by simp) (by simp)).elim

/-- An answer that comes when its attempt is over finds nobody who waits for it. -/
theorem Inquired.unheard (inquired : Inquired settings retries inquest) {attempt : Nat}
    (awaits : (id, attempt) ∈ awaited inquest.ready inquest.desk.timers)
    (ended : (incidentsOf id inquest.seen).any (Incident.ends attempt) = true) :
    ∀ call, inquest.desk.call? id = some call → call.inquiry ≠ some (.asking attempt) := by
  rcases inquired.begun (id, attempt) awaits with ⟨request, begun⟩
  have seen : .asked id attempt request ∈ inquest.promptOf id :=
    (mem_prompt fun _ => rfl).mpr (Agenda.mem_owned.mpr ⟨begun, rfl⟩)
  rcases (inquired.situation id).over_or_waiting seen with
    ⟨elsewhere, -⟩ | ⟨call, fates, -, -, -, -, -, rfl, on, -, -⟩
  · exact elsewhere
  · have beyond : ¬(1 ≤ fates.length + 1 ∧ fates.length + 1 ≤ fates.length) := by omega
    rw [← any_ends_prompt, ← Inquest.promptOf, on, List.any_append, any_ends_tried,
      decide_eq_false beyond] at ended
    cases ended

/-- The scene when the job or the timer of a beat is used up, and nothing else happens. -/
def Scene.without (scene : Scene) : Beat → Scene
  | .move (.call ..) => scene
  | .move (.work _ place) => { scene with pool := ⟨scene.desk, scene.ready.eraseIdx place⟩ }
  | .ring _ =>
      { scene with pool :=
          ⟨{ scene.desk with timers := scene.desk.timers.rest }, scene.ready⟩ }

/-- An answer that comes when its attempt is over changes nothing: its job or its timer is used up,
and that is all. -/
theorem Inquired.idle_of_late (inquired : Inquired settings retries inquest) {beat : Beat}
    {attempt : Nat} {result : Except Fault Verdict}
    (heard : inquest.scene.incidents beat = [.heard id attempt result])
    (ended : (incidentsOf id inquest.seen).any (Incident.ends attempt) = true) :
    (inquest.play beat).scene = inquest.scene.without beat := by
  cases beat with
  | move move =>
      cases move with
      | call => cases heard
      | work clock place =>
          simp only [Scene.incidents] at heard
          split at heard
          · next job found =>
              cases Desk.eq_answered heard
              have awaits : (id, attempt) ∈ awaited inquest.ready inquest.desk.timers :=
                mem_awaited.mpr (.inl ⟨_, List.mem_of_getElem? found, rfl⟩)
              have idle := Desk.hear_of_ne (inquired.unheard awaits ended) clock result
              have found : inquest.scene.pool.ready[place]? = _ := found
              have performs : Desk.perform clock (.answered id attempt result)
                  inquest.scene.pool.state = (inquest.scene.pool.state, []) := idle
              simp only [Inquest.play, Scene.beat, Scene.play, Agenda.Pool.work, found,
                Agenda.Pool.after, performs, List.map_nil, List.append_nil]
              rfl
          · cases heard
  | ring clock =>
      simp only [Scene.incidents] at heard
      split at heard
      · next alarm fires =>
          have answer : alarm = .answer id attempt result := by
            cases alarm <;> cases heard
            rfl
          rcases Scene.of_due? (answer ▸ fires) with ⟨-, due, stamp, next⟩
          have awaits : (id, attempt) ∈ awaited inquest.ready inquest.desk.timers :=
            mem_awaited.mpr (.inr ⟨_, List.mem_of_head? next, rfl⟩)
          let taken : Desk := { inquest.desk with timers := inquest.desk.timers.rest }
          have unheard : ∀ call, taken.call? id = some call →
              call.inquiry ≠ some (.asking attempt) := inquired.unheard awaits ended
          have rings : inquest.scene.desk.ring clock (.answer id attempt result) = (taken, []) :=
            Desk.hear_of_ne unheard clock result
          simp only [Inquest.play, Scene.beat, fires, answer, Agenda.Pool.after, rings,
            List.map_nil, List.append_nil]
          rfl
      · cases heard

end

end Gatehouse.Validation
