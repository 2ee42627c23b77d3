import Gatehouse.Proofs.Validation.Inquiring
import Gatehouse.Proofs.Validation.Proceedings

/-!
# What a call has entered in the log

A call enters at most one record, last of all, and a question that fails ends it. So what was
entered for a call and which of its questions failed tell its outcome: `Settles`. `Board.Sound` says
so of all calls at once, together with how each of them stands in the line of its lock, and every
step keeps it: `Board.Sound.step`.
-/

namespace Gatehouse.Validation

open Gatehouse.Access Gatehouse.Register

/-- An outcome, with what was entered in the log for it and the failures of the register. -/
inductive Settles : Except Fault Decision → List LogEntry → List Fault → Prop
  | granted {decision : Decision} {entry : LogEntry} :
      decision.isGrant = true → entry.granted = true → Settles (.ok decision) [entry] []
  | denied {decision : Decision} {entries : List LogEntry} :
      decision.isGrant = false → (∀ entry ∈ entries, entry.granted = false) →
      Settles (.ok decision) entries []
  | failed {fault : Fault} {faults : List Fault} :
      (∀ other ∈ faults, other = fault) → Settles (.error fault) [] faults

def Offline.Stage.isAsking : Offline.Stage → Bool
  | .checks .. | .queued _ => false
  | _ => true

def Offline.Stage.isWriting : Offline.Stage → Bool
  | .denying .. | .granting => true
  | _ => false

def Reply.isFailure : Reply → Bool
  | .failed _ => true
  | _ => false

/-- What was entered for a call and which of its questions failed, as its stage and its job tell. -/
inductive Accounts (id : CallId) (walk : Option Offline.Stage) :
    List Job → List LogEntry → List Fault → Prop
  | queued : Accounts id walk [] [] []
  | checking : Accounts id walk [.check id] [] []
  | entering : Accounts id walk [.enter id] [] []
  | failed {stage : Offline.Stage} {fault : Fault} :
      walk = some stage → stage.isAsking = true →
      Accounts id walk [.replied id (.failed fault)] [] [fault]
  | told {stage : Offline.Stage} {reply : Reply} :
      walk = some stage → stage.isWriting = false → Reply.isFailure reply = false →
      Accounts id walk [.replied id reply] [] []
  | granted {entry : LogEntry} :
      walk = some .granting → entry.granted = true →
      Accounts id walk [.replied id .appended] [entry] []
  | denied {reason : Denial} {phase : Offline.Phase} {entry : LogEntry} :
      walk = some (.denying reason phase) → entry.granted = false →
      Accounts id walk [.replied id .appended] [entry] []
  | leaving {outcome : Except Fault Decision} {entries : List LogEntry} {faults : List Fault} :
      Settles outcome entries faults → Accounts id walk [.leave id outcome] entries faults
  | done {outcome : Except Fault Decision} {entries : List LogEntry} {faults : List Fault} :
      Settles outcome entries faults → Accounts id walk [.outcome id outcome] entries faults

namespace Offline

/-- What a question can be with which a stage begins: a record is entered only by those stages that
wait for it. -/
inductive Asks : Query → Stage → Prop
  | look {query : Query} {stage : Stage} :
      (∀ entry, query ≠ .append entry) → stage.isAsking = true → stage.isWriting = false →
      Asks query stage
  | grant {entry : LogEntry} : entry.granted = true → Asks (.append entry) .granting
  | deny {entry : LogEntry} (reason : Denial) (phase : Phase) :
      entry.granted = false → Asks (.append entry) (.denying reason phase)

inductive Next.Accords : Next → List LogEntry → List Fault → Prop
  | ask {query : Query} {stage : Stage} : Asks query stage → Next.Accords (.ask query stage) [] []
  | rest (stage : Stage) : Next.Accords (.rest stage) [] []
  | acquire (user : Reference) (stage : Stage) : Next.Accords (.acquire user stage) [] []
  | finish {outcome : Except Fault Decision} {entries : List LogEntry} {faults : List Fault}
      (rounds : Nat) : Settles outcome entries faults →
      Next.Accords (.finish outcome rounds) entries faults
  | leave {outcome : Except Fault Decision} {entries : List LogEntry} {faults : List Fault}
      (rounds : Nat) : Settles outcome entries faults →
      Next.Accords (.leave outcome rounds) entries faults

theorem Next.Accords.blank {next : Next} {entries : List LogEntry} {faults : List Fault}
    (accords : next.Accords entries faults) (goes : next.outcome? = none) :
    entries = [] ∧ faults = [] := by
  cases accords with
  | ask asks => exact ⟨rfl, rfl⟩
  | rest stage => exact ⟨rfl, rfl⟩
  | acquire user stage => exact ⟨rfl, rfl⟩
  | finish rounds settles => cases goes
  | leave rounds settles => cases goes

theorem Next.Accords.settles {next : Next} {entries : List LogEntry} {faults : List Fault}
    {outcome : Except Fault Decision} (accords : next.Accords entries faults)
    (ends : next.outcome? = some outcome) : Settles outcome entries faults := by
  cases accords with
  | ask asks => cases ends
  | rest stage => cases ends
  | acquire user stage => cases ends
  | finish rounds settles => exact Option.some.inj ends ▸ settles
  | leave rounds settles => exact Option.some.inj ends ▸ settles

section

variable (settings : Settings) (now started : Time.Instant) (request : Request)

theorem accords_conclude {outcome : Except Fault Decision} {entries : List LogEntry}
    {faults : List Fault} (settles : Settles outcome entries faults) (phase : Phase) (more : Nat) :
    (conclude phase outcome more).Accords entries faults := by
  cases phase with
  | resolving => exact .finish _ settles
  | checking => exact .finish _ settles
  | locked => exact .leave _ settles

theorem accords_deny (subject : Subject) (reason : Denial) (phase : Phase) :
    (deny settings now request subject reason phase).Accords [] [] := by
  unfold deny
  split
  · exact .ask (.deny reason phase rfl)
  · exact accords_conclude (.denied rfl (by simp)) phase 1

theorem accords_recordGrant (subject : Subject) :
    (recordGrant now request subject).Accords [] [] :=
  .ask (.grant rfl)

theorem accords_start : (start request).Accords [] [] := by
  unfold start
  split <;> exact .ask (.look (by simp) rfl rfl)

theorem accords_checkCard (credential : String) (card : CardView) :
    (checkCard settings now started request credential card).Accords [] [] := by
  unfold checkCard
  simp only
  split
  · exact accords_deny ..
  · split
    · exact .ask (.look (by simp) rfl rfl)
    · exact accords_deny ..
    · exact .finish _ (.failed (by simp))

theorem accords_check (subject : Subject) (user : UserView) :
    (check settings now started request subject user).Accords [] [] := by
  unfold check
  split
  · exact accords_deny ..
  · split
    · exact .finish _ (.failed (by simp))
    · exact accords_deny ..
    · split
      · exact .acquire ..
      · exact accords_deny ..

theorem accords_enter (subject : Subject) :
    (enter settings now request subject).Accords [] [] := by
  unfold enter
  split
  · exact .ask (.look (by simp) rfl rfl)
  · exact accords_recordGrant ..

theorem accords_told {stage : Stage} {reply : Reply} (reading : stage.isWriting = false)
    (told : Reply.isFailure reply = false) :
    (resume settings now started request stage reply).Accords [] [] := by
  unfold resume
  split
  · cases told
  · cases told
  · cases told
  · exact .rest _
  · exact accords_deny ..
  · exact accords_checkCard ..
  · exact accords_deny ..
  · exact .rest _
  · exact accords_deny ..
  · cases reading
  · cases reading
  · cases told
  · exact accords_deny ..
  · exact accords_recordGrant ..
  · cases reading
  · cases reading
  · exact .rest _
  · exact .rest _

theorem accords_failed {stage : Stage} (asking : stage.isAsking = true) (fault : Fault) :
    (resume settings now started request stage (.failed fault)).Accords [] [fault] := by
  have settles : Settles (.error fault) [] [fault] := .failed fun _ => List.mem_singleton.mp
  cases stage with
  | code credential => exact .finish _ settles
  | card credential => exact .finish _ settles
  | holder credential card => exact .finish _ settles
  | denying reason phase => exact accords_conclude settles phase 0
  | passback subject => exact .leave _ settles
  | granting => exact .leave _ settles
  | checks subject user => cases asking
  | queued subject => cases asking

end

end Offline

variable {settings : Offline.Settings} {id : CallId} {call : Call} {job : Job}
  {next : Offline.Next} {now : Time.Instant} {entries : List LogEntry} {faults : List Fault}

theorem Call.GoesOn.accords (goesOn : call.GoesOn settings now id job next)
    (accounts : Accounts id call.walk [job] entries faults) : next.Accords entries faults := by
  cases goesOn with
  | @replied stage reply walk =>
      rw [walk] at accounts
      cases accounts with
      | @failed _ fault same asking =>
          cases same
          exact Offline.accords_failed _ _ _ _ asking fault
      | told same reading told =>
          cases same
          exact Offline.accords_told _ _ _ _ reading told
      | @granted entry same granted =>
          cases same
          exact .leave _ (.granted rfl granted)
      | @denied reason phase entry same denied =>
          cases same
          refine Offline.accords_conclude (.denied rfl fun other member => ?_) phase 0
          rw [List.mem_singleton.mp member]
          exact denied
  | checks walk =>
      cases accounts
      exact Offline.accords_check ..
  | enters walk =>
      cases accounts
      exact Offline.accords_enter ..

theorem Dealing.entry?_of_ne {query : Query} {reply : Reply} (other : reply ≠ .appended) :
    Dealing.entry? ⟨id, query, reply⟩ = none := by
  cases query with
  | append entry => cases reply <;> first | rfl | exact absurd rfl other
  | _ => rfl

/-- What was entered by a question, and whether it failed, is what its stage and its job tell. -/
theorem Offline.Asks.accounts {query : Query} {stage : Offline.Stage}
    (asks : Offline.Asks query stage) {memory : Memory} {outages : List (String × String)}
    {reply : Reply} (answer : (memory.answerUnless outages query).2 = reply) :
    Accounts id (some stage) [.replied id reply] (Dealing.entry? ⟨id, query, reply⟩).toList
      (Dealing.fault? ⟨id, query, reply⟩).toList := by
  have failing (asking : stage.isAsking = true) (fault : Fault) :
      Accounts id (some stage) [.replied id (.failed fault)]
        (Dealing.entry? ⟨id, query, .failed fault⟩).toList [fault] := by
    have other : Reply.failed fault ≠ .appended := by simp
    rw [Dealing.entry?_of_ne other]
    exact .failed rfl asking
  cases asks with
  | look looks asking reading =>
      have other : reply ≠ .appended := answer ▸ (memory.answerUnless_look outages looks).2
      cases reply with
      | failed fault => exact failing asking fault
      | appended => exact absurd rfl other
      | _ =>
          rw [Dealing.entry?_of_ne other]
          exact .told rfl reading rfl
  | @grant entry granted =>
      rcases memory.answerUnless_append outages entry with ⟨fault, failed⟩ | added
      · cases answer.symm.trans (congrArg Prod.snd failed)
        exact failing rfl fault
      · cases answer.symm.trans (congrArg Prod.snd added)
        exact .granted rfl granted
  | @deny entry reason phase denied =>
      rcases memory.answerUnless_append outages entry with ⟨fault, failed⟩ | added
      · cases answer.symm.trans (congrArg Prod.snd failed)
        exact failing rfl fault
      · cases answer.symm.trans (congrArg Prod.snd added)
        exact .denied rfl denied

inductive Proceeds (id : CallId) (call : Call) (line : List CallId) : Offline.Next → Prop
  | ask {query : Query} {stage : Offline.Stage} :
      (∀ (memory : Memory) (outages : List (String × String)),
        Walking id { call with walk := some stage } line
          [.replied id (memory.answerUnless outages query).2]) →
      Proceeds id call line (.ask query stage)
  | rest {stage : Offline.Stage} :
      Walking id { call with walk := some stage } line [.check id] →
      Proceeds id call line (.rest stage)
  | acquire {subject : Offline.Subject} :
      id ∉ line → Proceeds id call line (.acquire subject.user (.queued subject))
  | finish {outcome : Except Fault Decision} (rounds : Nat) :
      Walking id call line [.outcome id outcome] → Proceeds id call line (.finish outcome rounds)
  | leave {outcome : Except Fault Decision} (rounds : Nat) :
      Walking id call line [.leave id outcome] → Proceeds id call line (.leave outcome rounds)

section

variable {line : List CallId}

theorem proceeds_outside (away : id ∉ line) (outside : next.IsOutside now) :
    Proceeds id call line next := by
  cases outside with
  | ask harmless outside => exact .ask fun _ _ => .outside away rfl outside
  | rest subject user => exact .rest (.checking away rfl)
  | acquire subject => exact .acquire away
  | finish rounds other => exact .finish rounds (.done away fun _ => trivial)

theorem proceeds_start (away : id ∉ line) (request : Request) :
    Proceeds id call line (Offline.start request) := by
  rcases Offline.start_eq_ask request with ⟨query, stage, first, -, outside⟩
  rw [first]
  exact .ask fun _ _ => .outside away rfl outside

theorem proceeds_recordGrant (holds : line.head? = some id) (request : Request)
    (subject : Offline.Subject) :
    Proceeds id call line (Offline.recordGrant now request subject) :=
  .ask fun _ _ => .granting holds rfl

theorem Call.GoesOn.proceeds (goesOn : call.GoesOn settings now id job next)
    (walking : Walking id call line [job]) : Proceeds id call line next := by
  cases walking with
  | @outside stage reply away walk outside =>
      cases goesOn with
      | replied _ same =>
          cases walk.symm.trans same
          exact proceeds_outside away (Offline.isOutside_resume _ now _ _ outside reply)
  | checking away walk =>
      cases goesOn with
      | checks same => exact proceeds_outside away (Offline.isOutside_check ..)
  | called holds walk locked =>
      cases goesOn with
      | enters same =>
          cases walk.symm.trans same
          unfold Offline.enter
          split
          · exact .ask fun memory outages =>
              .looking holds rfl locked (tells_answerUnless memory outages _ _ _)
          · exact proceeds_recordGrant holds _ _
  | looking holds walk locked tells =>
      cases goesOn with
      | replied _ same =>
          cases walk.symm.trans same
          cases tells with
          | failed fault => exact .leave 0 (.leaving holds fun _ => trivial)
          | found _ =>
              show Proceeds id call line (Offline.deny ..)
              unfold Offline.deny
              split
              · exact .ask fun _ _ => .refusing holds rfl trivial
              · exact .leave _ (.leaving holds fun _ => trivial)
          | missing _ => exact proceeds_recordGrant holds _ _
  | @granting reply holds walk =>
      cases goesOn with
      | replied _ same =>
          cases walk.symm.trans same
          rcases Offline.resume_granting settings now call.started call.request reply with
            ⟨outcome, rounds, ending, -⟩
          exact ending ▸ .leave rounds (.leaving holds fun _ => trivial)
  | @refusing reply holds walk _ =>
      cases goesOn with
      | replied _ same =>
          cases walk.symm.trans same
          rcases Offline.resume_denying_locked settings now call.started call.request
            .antiPassback reply with ⟨outcome, rounds, ending⟩
          exact ending ▸ .leave rounds (.leaving holds fun _ => trivial)
  | leaving holds _ => cases goesOn
  | done away _ => cases goesOn

end

end Gatehouse.Validation
