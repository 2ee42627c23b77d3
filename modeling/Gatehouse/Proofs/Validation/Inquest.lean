import Gatehouse.Proofs.Validation.Scene

/-!
# What is seen of an inquiry

Requests are brought to a desk, its jobs are performed in any order, and its timers fire in between.
Beside the desk is written down what is seen of its calls: attempts to ask the authority, answers,
the ends of the time for attempts, and what is heard from the one who decides without the authority.

An answer counts only while its attempt is not over. `prompt` leaves out those that come later, and
`Course` says how a call may go as far as the rest shows.
-/

namespace Gatehouse.Validation

open Gatehouse.Access Gatehouse.Authority Gatehouse.Register

/-- What is seen of a call: the authority is asked, an answer of it comes, the time for an attempt
is over, somebody is asked who decides without the authority, and says how. -/
inductive Incident where
  | asked (call : CallId) (attempt : Nat) (request : Request)
  | heard (call : CallId) (attempt : Nat) (result : Except Fault Verdict)
  | expired (call : CallId) (attempt : Nat)
  | consulted (call : CallId) (request : Request)
  | advised (call : CallId) (outcome : Except Fault Decision)
  deriving DecidableEq

def Incident.call : Incident → CallId
  | .asked call _ _ | .heard call _ _ | .expired call _ => call
  | .consulted call _ | .advised call _ => call

def Incident.isConsulted : Incident → Bool
  | .consulted .. => true
  | _ => false

/-- What is seen of a call, in its order. -/
def incidentsOf (id : CallId) (seen : List Incident) : List Incident :=
  Agenda.owned (fun incident => some incident.call) id seen

def Offline.Next.outcome? : Offline.Next → Option (Except Fault Decision)
  | .finish outcome _ | .leave outcome _ => some outcome
  | _ => none

def Local.outcome? : Local → Option (Except Fault Decision)
  | .register => none
  | .fixed outcome => some outcome

namespace Desk

def walkOn? (clock : Agenda.Clock) (desk : Desk) : Job → Option Offline.Next
  | .replied id reply => do
      let call ← desk.call? id
      let stage ← call.walk
      return Offline.resume desk.offline (desk.now clock) call.started call.request stage reply
  | .check id =>
      match desk.call? id with
      | some call =>
          match call.walk with
          | some (.checks subject user) =>
              some (Offline.check desk.offline (desk.now clock) call.started call.request subject
                user)
          | _ => none
      | none => none
  | .enter id =>
      match desk.call? id with
      | some call =>
          match call.walk with
          | some (.queued subject) =>
              some (Offline.enter desk.offline (desk.now clock) call.request subject)
          | _ => none
      | none => none
  | _ => none

def incidents (clock : Agenda.Clock) (desk : Desk) : Job → List Incident
  | .ask id attempt =>
      match desk.call? id with
      | some call => [.asked id attempt call.request]
      | none => []
  | .answered id attempt result => [.heard id attempt result]
  | .recover id attempt fault =>
      match desk.call? id, desk.remote with
      | some call, some (_, settings) =>
          match Online.caught settings attempt fault with
          | .fallBack .. =>
              .consulted id call.request :: (desk.fallback.outcome?.map (.advised id)).toList
          | _ => []
      | _, _ => []
  | job => (((desk.walkOn? clock job).bind Offline.Next.outcome?).map (.advised job.call)).toList

end Desk

namespace Desk

section

variable {desk : Desk} {id : CallId} {call : Call} (live : desk.call? id = some call)
  (clock : Agenda.Clock)

include live

theorem walkOn?_replied {stage : Offline.Stage} (walk : call.walk = some stage) (reply : Reply) :
    desk.walkOn? clock (.replied id reply) = some (Offline.resume desk.offline (desk.now clock)
      call.started call.request stage reply) := by
  simp [walkOn?, live, walk]

theorem walkOn?_check {subject : Offline.Subject} {user : UserView}
    (walk : call.walk = some (.checks subject user)) :
    desk.walkOn? clock (.check id) = some (Offline.check desk.offline (desk.now clock)
      call.started call.request subject user) := by
  simp [walkOn?, live, walk]

theorem walkOn?_enter {subject : Offline.Subject} (walk : call.walk = some (.queued subject)) :
    desk.walkOn? clock (.enter id) = some (Offline.enter desk.offline (desk.now clock)
      call.request subject) := by
  simp [walkOn?, live, walk]

end

theorem perform_walk {desk : Desk} {clock : Agenda.Clock} {job : Job} {next : Offline.Next}
    {call : Call} (goesOn : desk.walkOn? clock job = some next)
    (live : desk.call? job.call = some call) :
    perform clock job desk = desk.stepOffline job.call call next ∧
      desk.incidents clock job = (next.outcome?.map (.advised job.call)).toList := by
  have seen : desk.incidents clock job = (((desk.walkOn? clock job).bind
      Offline.Next.outcome?).map (.advised job.call)).toList := by
    cases job <;> first | rfl | cases goesOn
  constructor
  · cases job with
    | replied id reply =>
        rw [Job.call] at live
        cases walk : call.walk <;> simp_all [walkOn?, perform, Job.call]
    | check id =>
        rw [Job.call] at live
        simp only [walkOn?, live] at goesOn
        split at goesOn
        · next walk =>
            cases goesOn
            simp only [perform, live, walk, Job.call]
        · cases goesOn
    | enter id =>
        rw [Job.call] at live
        simp only [walkOn?, live] at goesOn
        split at goesOn
        · next walk =>
            cases goesOn
            simp only [perform, live, walk, Job.call]
        · cases goesOn
    | _ => cases goesOn
  · rw [seen, goesOn]
    rfl

end Desk

/-- A job that is no part of an inquiry at the authority shows at most the end of a walk. -/
theorem Desk.incidents_eq_advised (desk : Desk) (clock : Agenda.Clock) {job : Job}
    (asks : ∀ id attempt, job ≠ .ask id attempt)
    (hears : ∀ id attempt result, job ≠ .answered id attempt result)
    (recovers : ∀ id attempt fault, job ≠ .recover id attempt fault) :
    ∃ said : Option (Except Fault Decision),
      desk.incidents clock job = (said.map (.advised job.call)).toList := by
  cases job with
  | ask id attempt => exact absurd rfl (asks id attempt)
  | answered id attempt result => exact absurd rfl (hears id attempt result)
  | recover id attempt fault => exact absurd rfl (recovers id attempt fault)
  | replied | check | enter => exact ⟨_, rfl⟩
  | leave | resume | outcome => exact ⟨none, rfl⟩

def Alarm.incidents : Alarm → List Incident
  | .attempt id number => [.expired id number]
  | .pause .. => []
  | .answer id number result => [.heard id number result]

def Job.isAsk : Job → Bool
  | .ask .. => true
  | _ => false

/-- What happens at a desk that asks an authority: a move, or its next timer fires. -/
inductive Beat where
  | move (move : Move)
  | ring (clock : Agenda.Clock)

namespace Scene

/-- The timer that may fire. The question of an attempt is put before any timer fires. -/
def due? (scene : Scene) : Option Alarm :=
  if scene.ready.any Job.isAsk then none else scene.desk.timers.next?.map Agenda.Pending.item

def beat (scene : Scene) : Beat → Scene
  | .move move => scene.play move
  | .ring clock =>
      match scene.due? with
      | some alarm => { scene with pool := scene.pool.after (scene.desk.ring clock alarm) }
      | none => scene

def incidents (scene : Scene) : Beat → List Incident
  | .move (.call ..) => []
  | .move (.work clock place) =>
      match scene.ready[place]? with
      | some job => scene.desk.incidents clock job
      | none => []
  | .ring _ =>
      match scene.due? with
      | some alarm => alarm.incidents
      | none => []

def Quiet (scene : Scene) : Prop :=
  scene.ready = [] ∧ scene.desk.timers.pending = []

end Scene

/-- A scene, and all that was seen so far. -/
structure Inquest where
  scene : Scene
  seen : List Incident

namespace Inquest

def start (desk : Desk) : Inquest :=
  ⟨.start desk, []⟩

def play (inquest : Inquest) (beat : Beat) : Inquest :=
  ⟨inquest.scene.beat beat, inquest.seen ++ inquest.scene.incidents beat⟩

def playAll (inquest : Inquest) (beats : List Beat) : Inquest :=
  beats.foldl play inquest

theorem playAll_concat (inquest : Inquest) (beats : List Beat) (beat : Beat) :
    inquest.playAll (beats ++ [beat]) = (inquest.playAll beats).play beat := by
  rw [playAll, List.foldl_append]
  rfl

end Inquest

inductive Fate where
  | expired
  | heard (result : Except Fault Verdict)

namespace Fate

def incident (id : CallId) (attempt : Nat) : Fate → Incident
  | .expired => .expired id attempt
  | .heard result => .heard id attempt result

def fault? (settings : Online.Settings) : Fate → Option Fault
  | .expired => some (.authorityTimeout settings.timeout)
  | .heard (.error fault) => some fault
  | .heard (.ok _) => none

def fails : Fate → Bool
  | .heard (.ok _) => false
  | _ => true

theorem fails_of_fault? {settings : Online.Settings} {fate : Fate} {fault : Fault}
    (failed : fate.fault? settings = some fault) : fate.fails = true := by
  rcases fate with _ | (_ | _)
  · rfl
  · rfl
  · cases failed

end Fate

def tried (id : CallId) (request : Request) (fates : List Fate) : List Incident :=
  (fates.zipIdx 1).flatMap fun (fate, attempt) =>
    [.asked id attempt request, fate.incident id attempt]

/-- Whether an attempt of a call is over with what is seen. -/
def Incident.ends (attempt : Nat) : Incident → Bool
  | .heard _ number _ | .expired _ number => number == attempt
  | _ => false

def Incident.isLate (before : List Incident) : Incident → Bool
  | .heard _ attempt _ => before.any (Incident.ends attempt)
  | _ => false

/-- What is seen of a call but for the answers that come when their attempts are over. -/
def prompt (seen : List Incident) : List Incident :=
  seen.foldl (fun kept incident => if incident.isLate kept then kept else kept ++ [incident]) []

abbrev Result := Except Fault Decision × Option Online.Report

/-- How a call may go, as what is seen of it in time shows, and what it comes to. -/
inductive Course (settings : Online.Settings) (retries : Nat) (id : CallId) (request : Request) :
    List Incident → Option Result → Prop
  | failed {fates : List Fate} :
      fates.all Fate.fails = true → fates.length ≤ retries + 1 →
      Course settings retries id request (tried id request fates) none
  | asking {fates : List Fate} :
      fates.all Fate.fails = true → fates.length ≤ retries →
      Course settings retries id request
        (tried id request fates ++ [.asked id (fates.length + 1) request]) none
  | decided {fates : List Fate} (verdict : Verdict) :
      fates.all Fate.fails = true → fates.length ≤ retries →
      Course settings retries id request (tried id request (fates ++ [.heard (.ok verdict)]))
        (some (.ok (Online.decisionOf verdict request), some ⟨fates.length + 1, false, none⟩))
  | consulting {fates : List Fate} :
      fates.all Fate.fails = true → fates.length = retries + 1 →
      Course settings retries id request (tried id request fates ++ [.consulted id request]) none
  | advised {fates : List Fate} {fault : Fault} (outcome : Except Fault Decision) :
      fates.all Fate.fails = true → fates.length = retries + 1 →
      fates.getLast?.bind (Fate.fault? settings) = some fault →
      Course settings retries id request
        (tried id request fates ++ [.consulted id request, .advised id outcome])
        (some (outcome,
          some ⟨retries + 1, true, some (.authorityFailed (retries + 1) fault)⟩))

def Desk.resultsOf (desk : Desk) (id : CallId) : List Result :=
  (desk.outcomes.filter fun (other, _) => other = id).map Prod.snd

theorem incidentsOf_append (id : CallId) (left right : List Incident) :
    incidentsOf id (left ++ right) = incidentsOf id left ++ incidentsOf id right :=
  List.filter_append ..

theorem incidentsOf_of_forall {id other : CallId} {seen : List Incident}
    (mine : ∀ incident ∈ seen, incident.call = id) :
    incidentsOf other seen = if other = id then seen else [] := by
  split
  · next same =>
      subst same
      exact List.filter_eq_self.mpr fun incident member => by simp [mine incident member]
  · next different =>
      refine List.filter_eq_nil_iff.mpr fun incident member => ?_
      simp [mine incident member, Ne.symm different]

theorem prompt_concat (seen : List Incident) (incident : Incident) :
    prompt (seen ++ [incident]) =
      if incident.isLate (prompt seen) then prompt seen else prompt seen ++ [incident] := by
  rw [prompt, List.foldl_append]
  rfl

theorem prompt_append {fresh : List Incident}
    (timely : ∀ incident ∈ fresh, ∀ before, incident.isLate before = false)
    (seen : List Incident) : prompt (seen ++ fresh) = prompt seen ++ fresh := by
  induction fresh using List.reverseRecOn with
  | nil => simp
  | append_singleton fresh last induction =>
      rw [← List.append_assoc, prompt_concat, timely last (by simp), ← List.append_assoc,
        induction fun incident member => timely incident (List.mem_append_left _ member)]
      rfl

theorem mem_prompt {seen : List Incident} {incident : Incident}
    (timely : ∀ before, incident.isLate before = false) :
    incident ∈ prompt seen ↔ incident ∈ seen := by
  induction seen using List.reverseRecOn with
  | nil => simp [prompt]
  | append_singleton seen last induction =>
      rw [prompt_concat]
      split
      · next late =>
          rw [induction, List.mem_append, List.mem_singleton]
          constructor
          · exact .inl
          · rintro (member | rfl)
            · exact member
            · exact absurd late (by simp [timely])
      · rw [List.mem_append, List.mem_append, induction]

theorem tried_concat (id : CallId) (request : Request) (fates : List Fate) (fate : Fate) :
    tried id request (fates ++ [fate]) = tried id request fates ++
      [.asked id (fates.length + 1) request, fate.incident id (fates.length + 1)] := by
  simp [tried, List.zipIdx_append, Nat.add_comm]

section

variable {id : CallId} {request : Request} {fates : List Fate}

theorem any_ends_tried (attempt : Nat) :
    (tried id request fates).any (Incident.ends attempt) =
      decide (1 ≤ attempt ∧ attempt ≤ fates.length) := by
  induction fates using List.reverseRecOn with
  | nil =>
      simp only [tried, List.zipIdx_nil, List.flatMap_nil, List.any_nil, List.length_nil]
      exact (decide_eq_false (by omega)).symm
  | append_singleton fates fate induction =>
      have begins : (Incident.asked id (fates.length + 1) request).ends attempt = false := rfl
      have last : (fate.incident id (fates.length + 1)).ends attempt =
          (fates.length + 1 == attempt) := by
        cases fate <;> rfl
      rw [tried_concat, List.any_append, induction, List.any_cons, List.any_cons, List.any_nil,
        begins, last, List.length_append, List.length_singleton, Bool.eq_iff_iff]
      simp only [Bool.or_eq_true, decide_eq_true_eq, beq_iff_eq, Bool.false_eq_true, false_or,
        or_false]
      omega

theorem mem_tried {incident : Incident} (member : incident ∈ tried id request fates) :
    ∃ attempt, 1 ≤ attempt ∧ attempt ≤ fates.length ∧ (incident = .asked id attempt request ∨
      ∃ fate ∈ fates, incident = Fate.incident id attempt fate) := by
  rcases List.mem_flatMap.mp member with ⟨⟨fate, attempt⟩, numbered, one⟩
  rcases List.mem_zipIdx numbered with ⟨low, high, among⟩
  refine ⟨attempt, low, by omega, ?_⟩
  rcases List.mem_cons.mp one with asked | ended
  · exact .inl asked
  · exact .inr ⟨fate, among ▸ List.getElem_mem _, List.mem_singleton.mp ended⟩

end

end Gatehouse.Validation
