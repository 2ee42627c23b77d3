import Gatehouse.Register.Memory

/-!
# Questions to the register

What deciding a request needs of a register, whatever keeps it: three look-ups, the search for a
recent grant, and adding to the log. The answers hold only what a decision looks at.
-/

namespace Gatehouse.Register

inductive Query where
  | cardByNumber (number : String)
  | userByRegistration (registration : Reference)
  | userByCode (code : String)
  | recentGrant (user : Reference) (direction : Access.Direction) (since : Option Time.Instant)
  | append (entry : LogEntry)
  deriving DecidableEq

/-- A bound of a period: there is none, it is an instant, or it is something that is no instant and
cannot be compared with one. -/
inductive Bound where
  | unbounded
  | moment (instant : Time.Instant)
  | unusable
  deriving DecidableEq

namespace Bound

def ofOption : Option Time.Instant → Bound
  | some instant => .moment instant
  | none => .unbounded

def passes (bound : Bound) (beyond : Time.Instant → Bool) : Except Fault Bool :=
  match bound with
  | .unbounded => .ok true
  | .moment instant => .ok !beyond instant
  | .unusable => .error (.mistyped "the bound of a period is no instant")

end Bound

structure CardView where
  holder : Reference
  registration : Reference
  active : Bool
  validFrom : Bound
  validUntil : Bound
  deriving DecidableEq

structure UserView where
  id : Reference
  registration : Reference
  active : Bool
  validFrom : Bound
  validUntil : Bound
  allowCard : Bool
  allowBiometric : Bool
  allowKeypad : Bool
  deriving DecidableEq

inductive Reply where
  | card (card : Option CardView)
  | user (user : Option UserView)
  | recent (found : Bool)
  | appended
  | failed (fault : Fault)
  deriving DecidableEq

def Query.name : Query → String
  | .cardByNumber _ => "findCardByNumber"
  | .userByRegistration _ => "findUserByRegistration"
  | .userByCode _ => "findUserByCode"
  | .recentGrant .. => "findRecentGrantedAccess"
  | .append _ => "appendAccessLog"

def Card.view (card : Card) : CardView :=
  { holder := card.holder, registration := .text card.registration, active := card.active
    validFrom := .ofOption card.validFrom, validUntil := .ofOption card.validUntil }

def User.view (user : User) : UserView :=
  { id := .ofInt user.id, registration := .text user.registration, active := user.active
    validFrom := .ofOption user.validFrom, validUntil := .ofOption user.validUntil
    allowCard := user.allowCard
    allowBiometric := user.allowBiometric, allowKeypad := user.allowKeypad }

def liesWithin (validFrom validUntil : Bound) (now : Time.Instant) : Except Fault Bool := do
  if ← validFrom.passes now.before then validUntil.passes fun stop => stop.before now
  else return false

/-- For bounds that are instants or missing, lying within a period is what it is for records. -/
theorem liesWithin_ofOption (validFrom validUntil : Option Time.Instant) (now : Time.Instant) :
    liesWithin (.ofOption validFrom) (.ofOption validUntil) now =
      .ok (isWithin validFrom validUntil now) := by
  cases validFrom with
  | none => cases validUntil <;> rfl
  | some start =>
      cases early : now.before start <;> cases validUntil <;>
        simp [liesWithin, Bound.passes, Bound.ofOption, isWithin, early, bind, Except.bind, pure,
          Except.pure]

def UserView.allows (user : UserView) : Access.Reader → Bool
  | .card => user.allowCard
  | .biometric => user.allowBiometric
  | .keypad => user.allowKeypad

namespace Memory

def answer (memory : Memory) (query : Query) : Memory × Reply :=
  match query with
  | .cardByNumber number => (memory, .card ((memory.card? number).map Card.view))
  | .userByRegistration registration =>
      (memory, .user ((registration.text?.bind memory.userByRegistration?).map User.view))
  | .userByCode code => (memory, .user ((memory.userByCode? code).map User.view))
  | .recentGrant user direction since =>
      match memory.recentGrant? user direction since with
      | .ok found => (memory, .recent found.isSome)
      | .error fault => (memory, .failed fault)
  | .append entry => ((memory.append entry).1, .appended)

/-- The answer of a register of which some questions fail, each in its own words. A question that
fails changes nothing. -/
def answerUnless (memory : Memory) (outages : List (String × String)) (query : Query) :
    Memory × Reply :=
  match outages.lookup query.name with
  | some text => (memory, .failed (.reported text))
  | none => memory.answer query

end Memory

end Gatehouse.Register
