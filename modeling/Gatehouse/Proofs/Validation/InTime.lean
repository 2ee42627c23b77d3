import Gatehouse.Proofs.Validation.Marks
import Gatehouse.Proofs.Validation.Toil

/-!
# A verdict in time, or somebody else

An authority is asked at most once more than the number of retries. The first verdict that comes
while its attempt is not over decides; where there is none, somebody else is asked, once, when the
last attempt has failed. This holds for every script of the authority and every order of jobs and
timers, with other calls in between: `verdict_in_time_or_fallback`.
-/

namespace Gatehouse.Validation

open Gatehouse.Access Gatehouse.Authority Gatehouse.Register

def Incident.isAsked : Incident → Bool
  | .asked .. => true
  | _ => false

namespace Inquest

def InTime (inquest : Inquest) (id : CallId) (attempt : Nat) (verdict : Verdict) : Prop :=
  ∃ before after, incidentsOf id inquest.seen =
    before ++ .heard id attempt (.ok verdict) :: after ∧
      before.any (Incident.ends attempt) = false

/-- Only so many beats find something to do one after another, and something holds whenever there
is nothing left to do. -/
structure Ends (inquest : Inquest) (holds : Inquest → Prop) : Prop where
  bounded : ∃ bound, ∀ beats, inquest.diligent beats = true → beats.length ≤ bound
  rest : ∀ beats, (∀ beat, (inquest.playAll beats).scene.finds beat = false) →
    holds (inquest.playAll beats)

/-- How a call is served whose request was brought. -/
structure Serves (inquest : Inquest) (settings : Online.Settings) (retries : Nat) (id : CallId)
    (request : Request) : Prop where
  course : ∃ result, Course settings retries id request (inquest.promptOf id) result ∧
    (inquest.desk.resultsOf id = [] ∨
      ∃ known, result = some known ∧ inquest.desk.resultsOf id = [known])
  asked : (incidentsOf id inquest.seen).countP Incident.isAsked ≤ retries + 1
  decided : ∀ attempt verdict, inquest.InTime id attempt verdict →
    (incidentsOf id inquest.seen).countP Incident.isAsked = attempt ∧
      (∀ other, .consulted id other ∉ inquest.seen) ∧
      inquest.Ends fun rest => rest.desk.resultsOf id =
        [(.ok (Online.decisionOf verdict request), some ⟨attempt, false, none⟩)]
  referred : ∀ result, inquest.desk.resultsOf id = [result] →
    (∀ attempt verdict, ¬inquest.InTime id attempt verdict) →
    ∃ fates fault outcome, fates.length = retries + 1 ∧ fates.all Fate.fails = true ∧
      inquest.promptOf id =
        tried id request fates ++ [.consulted id request, .advised id outcome] ∧
      result = (outcome, some ⟨retries + 1, true, some (.authorityFailed (retries + 1) fault)⟩)
  ends : inquest.Ends fun rest => ∃ result, rest.desk.resultsOf id = [result]

end Inquest

theorem mem_prompt_iff {seen : List Incident} {incident : Incident} :
    incident ∈ prompt seen ↔
      ∃ before after, seen = before ++ incident :: after ∧ incident.isLate before = false := by
  have late (incident : Incident) (seen : List Incident) :
      incident.isLate (prompt seen) = incident.isLate seen := by
    cases incident with
    | heard id attempt result => exact any_ends_prompt seen attempt
    | _ => rfl
  induction seen using List.reverseRecOn with
  | nil => simp [prompt]
  | append_singleton seen last induction =>
      rw [prompt_concat, late]
      -- The last incident is found behind all others, and an earlier one where it was.
      constructor
      · intro member
        have known : incident ∈ prompt seen ∨ incident = last ∧ last.isLate seen = false := by
          split at member
          · exact .inl member
          · next timely => simpa [timely] using member
        rcases known with before | ⟨rfl, timely⟩
        · rcases induction.mp before with ⟨front, back, rfl, timely⟩
          exact ⟨front, back ++ [last], by simp, timely⟩
        · exact ⟨seen, [], rfl, timely⟩
      · rintro ⟨front, back, whole, timely⟩
        rcases List.eq_nil_or_concat back with rfl | ⟨rest, other, rfl⟩
        · rcases List.append_inj' whole rfl with ⟨rfl, same⟩
          cases same
          simp [timely]
        · have whole : seen ++ [last] = (front ++ incident :: rest) ++ [other] := by
            simpa using whole
          rcases List.append_inj' whole rfl with ⟨rfl, -⟩
          have before := induction.mpr ⟨front, rest, rfl, timely⟩
          split
          · exact before
          · exact List.mem_append_left _ before

theorem Inquest.inTime_iff {inquest : Inquest} {id : CallId} {attempt : Nat} {verdict : Verdict} :
    inquest.InTime id attempt verdict ↔
      .heard id attempt (.ok verdict) ∈ inquest.promptOf id :=
  mem_prompt_iff.symm

theorem countP_isAsked_prompt (seen : List Incident) :
    (prompt seen).countP Incident.isAsked = seen.countP Incident.isAsked := by
  induction seen using List.reverseRecOn with
  | nil => rfl
  | append_singleton seen last induction =>
      rw [prompt_concat, List.countP_append, ← induction]
      split
      · next late => cases last <;> first | rfl | cases late
      · exact List.countP_append

section

variable {settings : Online.Settings} {retries : Nat} {id : CallId} {request : Request}
  {fates : List Fate} {seen : List Incident} {result : Option Result}

theorem countP_isAsked_tried :
    (tried id request fates).countP Incident.isAsked = fates.length := by
  induction fates using List.reverseRecOn with
  | nil => rfl
  | append_singleton fates fate induction =>
      rw [tried_concat, List.countP_append, induction, List.length_append]
      cases fate <;> rfl

theorem not_mem_tried_of_fails (fails : fates.all Fate.fails = true) (attempt : Nat)
    (verdict : Verdict) : .heard id attempt (.ok verdict) ∉ tried id request fates := by
  intro member
  rcases mem_tried member with ⟨number, -, -, asked | ⟨fate, among, same⟩⟩
  · cases asked
  · have failed := List.all_eq_true.mp fails fate among
    cases fate with
    | expired => cases same
    | heard result =>
        cases same
        cases failed

theorem Course.asked_le (course : Course settings retries id request seen result) :
    seen.countP Incident.isAsked ≤ retries + 1 := by
  cases course with
  | failed fails count => rwa [countP_isAsked_tried]
  | asking fails count =>
      rw [List.countP_append, countP_isAsked_tried]
      exact Nat.succ_le_succ count
  | decided verdict fails count =>
      rw [countP_isAsked_tried, List.length_append]
      exact Nat.succ_le_succ count
  | consulting fails count =>
      rw [List.countP_append, countP_isAsked_tried, count]
      rfl
  | advised outcome fails count last =>
      rw [List.countP_append, countP_isAsked_tried, count]
      rfl

theorem Course.of_verdict (course : Course settings retries id request seen result)
    {attempt : Nat} {verdict : Verdict} (heard : .heard id attempt (.ok verdict) ∈ seen) :
    result = some (.ok (Online.decisionOf verdict request), some ⟨attempt, false, none⟩) ∧
      seen.countP Incident.isAsked = attempt ∧ ∀ other, .consulted id other ∉ seen := by
  have never {fates : List Fate} (fails : fates.all Fate.fails = true) :
      .heard id attempt (.ok verdict) ∉ tried id request fates :=
    not_mem_tried_of_fails fails attempt verdict
  cases course with
  | failed fails count => exact absurd heard (never fails)
  | asking fails count => simp [never fails] at heard
  | consulting fails count => simp [never fails] at heard
  | advised outcome fails count last => simp [never fails] at heard
  | @decided fates known fails count =>
      rw [tried_concat] at heard ⊢
      rcases List.mem_append.mp heard with before | last
      · exact absurd before (never fails)
      · obtain ⟨rfl, rfl⟩ : attempt = fates.length + 1 ∧ verdict = known := by
          simpa [Fate.incident] using last
        refine ⟨rfl, ?_, fun other consulted => ?_⟩
        · rw [List.countP_append, countP_isAsked_tried]
          rfl
        · rcases List.mem_append.mp consulted with before | last
          · rcases mem_tried before with ⟨number, -, -, asked | ⟨fate, -, same⟩⟩
            · cases asked
            · cases fate <;> cases same
          · simp [Fate.incident] at last

/-- Where no verdict came in time, somebody else was asked after the last attempt, and said how. -/
theorem Course.of_result {known : Result}
    (course : Course settings retries id request seen (some known))
    (unheard : ∀ attempt verdict, .heard id attempt (.ok verdict) ∉ seen) :
    ∃ fates fault outcome, fates.length = retries + 1 ∧ fates.all Fate.fails = true ∧
      seen = tried id request fates ++ [.consulted id request, .advised id outcome] ∧
      known =
        (outcome, some ⟨retries + 1, true, some (.authorityFailed (retries + 1) fault)⟩) := by
  cases course with
  | @decided fates verdict fails count =>
      refine absurd ?_ (unheard (fates.length + 1) verdict)
      rw [tried_concat]
      simp [Fate.incident]
  | @advised fates fault outcome fails count last =>
      exact ⟨fates, fault, outcome, count, fails, rfl, rfl⟩

theorem Stands.course {call : Call} {line : List CallId} {jobs : List Job} {alarms : List Alarm}
    (stands : Stands settings retries id call line seen jobs alarms) :
    ∃ result, Course settings retries id call.request seen result := by
  cases stands with
  | inquires away stage inquiring =>
      cases inquiring with
      | due fails count => exact ⟨_, .failed fails (Nat.le_succ_of_le count)⟩
      | waiting fails count => exact ⟨_, .asking fails count⟩
      | @failing fates fate fault fails count failed =>
          refine ⟨_, .failed ?_ ?_⟩
          · simp [fails, Fate.fails_of_fault? failed]
          · rw [List.length_append]
            exact Nat.succ_le_succ count
      | pausing fails count => exact ⟨_, .failed fails (Nat.le_succ_of_le count)⟩
      | resuming fails count => exact ⟨_, .failed fails (Nat.le_succ_of_le count)⟩
      | decided verdict fails count => exact ⟨_, .decided verdict fails count⟩
  | referred fails count last stage walking =>
      cases walking with
      | leaving holds reason => exact ⟨_, .advised _ fails count last⟩
      | done away reason => exact ⟨_, .advised _ fails count last⟩
      | _ => exact ⟨_, .consulting fails count⟩

theorem Situation.course {line : Reference → List CallId} {known : Option Call}
    {jobs : List Job} {alarms : List Alarm} {results : List Result}
    (situation : Situation settings retries id line (some request) known seen jobs alarms results) :
    ∃ result, Course settings retries id request seen result ∧
      (results = [] ∨ ∃ known, result = some known ∧ results = [known]) := by
  cases situation with
  | live stands =>
      rcases stands.course with ⟨result, course⟩
      exact ⟨result, course, .inl rfl⟩
  | ended course => exact ⟨_, course, .inr ⟨_, rfl, rfl⟩⟩

theorem Situation.outcome_of_ended {line : Reference → List CallId} {jobs : List Job}
    {alarms : List Alarm} {results : List Result}
    (situation : Situation settings retries id line (some request) none seen jobs alarms results) :
    ∃ result, results = [result] := by
  cases situation with
  | ended course => exact ⟨_, rfl⟩

end

section

variable {settings : Online.Settings} {retries : Nat} {inquest : Inquest} {id : CallId}
  {request : Request}

theorem requests_playAll (brought : inquest.scene.requests[id]? = some request)
    (beats : List Beat) : (inquest.playAll beats).scene.requests[id]? = some request := by
  induction beats using List.reverseRecOn with
  | nil => exact brought
  | append_singleton beats beat induction =>
      rw [Inquest.playAll_concat]
      generalize inquest.playAll beats = before at induction
      cases beat with
      | move move =>
          cases move with
          | call clock other =>
              show (before.scene.requests ++ [other])[id]? = _
              rw [List.getElem?_append_left (List.getElem?_eq_some_iff.mp induction).1]
              exact induction
          | work clock place =>
              rcases before.play_work clock place with same | ⟨front, job, back, whole, worked⟩
              · rw [same]
                exact induction
              · rw [worked]
                exact induction
      | ring clock =>
          rcases before.play_ring clock with same | ⟨due, stamp, alarm, put, next, rings⟩
          · rw [same]
            exact induction
          · rw [rings]
            exact induction

theorem seen_playAll (inquest : Inquest) (beats : List Beat) :
    ∃ more, (inquest.playAll beats).seen = inquest.seen ++ more := by
  induction beats using List.reverseRecOn with
  | nil => exact ⟨[], (List.append_nil _).symm⟩
  | append_singleton beats beat induction =>
      rcases induction with ⟨more, seen⟩
      refine ⟨more ++ (inquest.playAll beats).scene.incidents beat, ?_⟩
      rw [Inquest.playAll_concat, ← List.append_assoc, ← seen]
      rfl

theorem Inquest.InTime.playAll {attempt : Nat} {verdict : Verdict}
    (timely : inquest.InTime id attempt verdict) (beats : List Beat) :
    (inquest.playAll beats).InTime id attempt verdict := by
  rcases timely with ⟨before, after, seen, open_yet⟩
  rcases seen_playAll inquest beats with ⟨more, grown⟩
  refine ⟨before, after ++ incidentsOf id more, ?_, open_yet⟩
  rw [grown, incidentsOf_append, seen]
  simp

/-- Any inquest comes to rest, and every call whose request was brought has its outcome then. -/
theorem Inquired.ends (inquired : Inquired settings retries inquest)
    (allows : ∀ failed, settings.allows failed = decide (failed ≤ retries))
    (brought : inquest.scene.requests[id]? = some request) :
    inquest.Ends fun rest => ∃ result, rest.desk.resultsOf id = [result] where
  bounded := ⟨inquest.toil retries, fun _ => inquired.length_le_toil allows⟩
  rest beats idle := by
    have later := inquired.playAll allows beats
    have situation := later.situation id
    rw [requests_playAll brought, later.ended_of_quiet (Scene.quiet_of_finds idle)] at situation
    exact situation.outcome_of_ended

theorem Inquired.serves (inquired : Inquired settings retries inquest)
    (allows : ∀ failed, settings.allows failed = decide (failed ≤ retries))
    (brought : inquest.scene.requests[id]? = some request) :
    inquest.Serves settings retries id request := by
  rcases (brought ▸ inquired.situation id).course with ⟨result, course, results⟩
  have ends := inquired.ends allows brought
  have asked := course.asked_le
  rw [Inquest.promptOf, countP_isAsked_prompt] at asked
  refine ⟨⟨result, course, results⟩, asked, fun attempt verdict timely => ?decided,
    fun known came unheard => ?referred, ends⟩
  case decided =>
    rcases course.of_verdict (Inquest.inTime_iff.mp timely) with ⟨-, count, alone⟩
    rw [Inquest.promptOf, countP_isAsked_prompt] at count
    refine ⟨count, fun other consulted => alone other ?_, ends.bounded, fun beats idle => ?_⟩
    · exact (mem_prompt fun _ => rfl).mpr (Agenda.mem_owned.mpr ⟨consulted, rfl⟩)
    · have later := inquired.playAll allows beats
      rcases (requests_playAll brought beats ▸ later.situation id).course with
        ⟨comes, course, results⟩
      have decided := (course.of_verdict (Inquest.inTime_iff.mp (timely.playAll beats))).1
      rcases ends.rest beats idle with ⟨final, came⟩
      rcases results with silent | ⟨known, same, came⟩
      · cases came.symm.trans silent
      · rw [came]
        cases decided.symm.trans same
        rfl
  case referred =>
    rcases results with silent | ⟨other, rfl, came'⟩
    · cases came.symm.trans silent
    · cases came.symm.trans came'
      exact course.of_result fun attempt verdict heard =>
        unheard attempt verdict (Inquest.inTime_iff.mpr heard)

end

/-- The first verdict in time decides, and somebody else does where there is none. -/
theorem verdict_in_time_or_fallback (remote : Remote) (timeout pause : Number) (retries : Nat)
    (fallback : Local) (offline : Offline.Settings) (store : Store) (beats : List Beat) :
    let settings := Online.Settings.ofNumbers timeout (.ofNat retries) pause
    let inquest := (Inquest.start (.start (some (remote, settings)) fallback offline store)).playAll
      beats
    (∀ id request, inquest.scene.requests[id]? = some request →
      inquest.Serves settings retries id request) ∧
    Marked remote inquest ∧
    (∀ beat id attempt result, inquest.scene.incidents beat = [.heard id attempt result] →
      (incidentsOf id inquest.seen).any (Incident.ends attempt) = true →
      (inquest.play beat).scene = inquest.scene.without beat) ∧
    ∀ verdict request, ∃ shown, Online.decisionOf verdict request =
      if verdict.granted then .granted shown request.direction request.reader .online
      else .denied .remoteDenied shown .online := by
  intro settings inquest
  have allows := Online.allows_ofNumbers timeout pause retries
  have start : Inquired settings retries
      (.start (.start (some (remote, settings)) fallback offline store)) :=
    .start remote fallback offline store
  have inquired := start.playAll allows beats
  refine ⟨fun id request brought => inquired.serves allows brought,
    (Marked.start remote settings fallback offline store).playAll start allows beats,
    fun beat id attempt result heard ended => inquired.idle_of_late heard ended,
    fun verdict request => ?_⟩
  unfold Online.decisionOf
  split <;> exact ⟨_, rfl⟩

/-- An authority that grants too late and then denies in time, and somebody who never decides. -/
def Desk.askingTwice : Desk :=
  .start (some (⟨.direct, [⟨.verdict ⟨true, none, none⟩, .later 700⟩,
      ⟨.verdict ⟨false, none, none⟩, .later 100⟩]⟩,
    Online.Settings.ofNumbers (.finite 500) (.ofNat 1) (.finite 100)))
    (.fixed (.error .noTimeText)) ⟨.finite 0, true, .finite 0⟩ (.database fun _ => .ok [])

/-- A request; the first attempt is over, and so is the pause; then both verdicts come, and the
outcome is known. -/
def lateAndTimely : List Beat :=
  [.move (.call ⟨0, 0⟩ ⟨"7", .moment 0, .entry, .card⟩), .move (.work ⟨0, 1⟩ 0), .ring ⟨500, 2⟩,
    .move (.work ⟨500, 3⟩ 0), .ring ⟨600, 4⟩, .move (.work ⟨600, 5⟩ 0), .move (.work ⟨600, 6⟩ 0),
    .ring ⟨700, 7⟩, .ring ⟨700, 8⟩, .move (.work ⟨700, 9⟩ 0)]

theorem lateAndTimely_decided :
    ((Inquest.start .askingTwice).playAll lateAndTimely).desk.resultsOf 0 =
        [(.ok (.denied .remoteDenied Display.denied .online), some ⟨2, false, none⟩)] ∧
      (incidentsOf 0 ((Inquest.start .askingTwice).playAll lateAndTimely).seen).countP
        Incident.isAsked = 2 := by
  refine ⟨by decide +kernel, ?_⟩
  have served := (verdict_in_time_or_fallback
    ⟨.direct, [⟨.verdict ⟨true, none, none⟩, .later 700⟩,
      ⟨.verdict ⟨false, none, none⟩, .later 100⟩]⟩ (.finite 500) (.finite 100) 1
    (.fixed (.error .noTimeText)) ⟨.finite 0, true, .finite 0⟩ (.database fun _ => .ok [])
    lateAndTimely).1 0 ⟨"7", .moment 0, .entry, .card⟩ (by decide +kernel)
  refine (served.decided 2 ⟨false, none, none⟩ ⟨[.asked 0 1 ⟨"7", .moment 0, .entry, .card⟩,
    .expired 0 1, .asked 0 2 ⟨"7", .moment 0, .entry, .card⟩,
    .heard 0 1 (.ok ⟨true, none, none⟩)], [], ?_, rfl⟩).1
  decide +kernel

end Gatehouse.Validation
