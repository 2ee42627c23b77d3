import Gatehouse.Access.Display
import Gatehouse.Register.Query

/-!
# Deciding from the register

A request is checked against the register in a fixed order, and the first failed check decides. The
search for a recent grant and the entry of the new grant happen under the user's lock, so that two
requests of one user cannot both pass where one should. Every outcome is entered in the log, denials
only if the settings say so.

A decision is a walk through stages. In each stage it has asked the register something, waits for
the lock of a user, or is about to check a user; `start`, `resume`, `check` and `enter` say what
comes next. The rounds say for how long an outcome travels before it is known outside.
-/

namespace Gatehouse.Validation.Offline

open Gatehouse.Access Gatehouse.Register

structure Settings where
  window : Number
  logDenials : Bool
  ahead : Number
  deriving DecidableEq

/-- The anti-passback window where none is asked for, in milliseconds. -/
def defaultWindow : Number := .finite 300000

structure Subject where
  user : Reference
  registration : Reference
  credential : String
  deriving DecidableEq

/-- Where in the course of a decision a denial arises: while the user is looked for, while the user
is checked, or under the user's lock. -/
inductive Phase where
  | resolving
  | checking
  | locked
  deriving DecidableEq

inductive Stage where
  | code (credential : String)
  | card (credential : String)
  | holder (credential : String) (card : CardView)
  | checks (subject : Subject) (user : UserView)
  | denying (reason : Denial) (phase : Phase)
  | queued (subject : Subject)
  | passback (subject : Subject)
  | granting
  deriving DecidableEq

/-- What comes next in a decision: a question to the register, a short rest, the lock of a user, the
outcome, or the outcome together with leaving the lock. -/
inductive Next where
  | ask (query : Query) (stage : Stage)
  | rest (stage : Stage)
  | acquire (user : Reference) (stage : Stage)
  | finish (outcome : Except Fault Decision) (rounds : Nat)
  | leave (outcome : Except Fault Decision) (rounds : Nat)

def logEntry (now : Time.Instant) (request : Request) (subject : Subject) (granted : Bool)
    (display : String) : LogEntry :=
  { user := subject.user, registration := subject.registration
    credential := subject.credential, direction := request.direction, reader := request.reader
    granted := granted, display := display, timestamp := some now }

def denial (request : Request) (reason : Denial) : Decision :=
  .denied reason (Display.ofDenial request.reader reason) .offline

def grant (request : Request) : Decision :=
  .granted Display.granted request.direction request.reader .offline

/-- Ends with an outcome that arose in a phase. The rounds are those of a denial that was entered in
the log. -/
def conclude (phase : Phase) (outcome : Except Fault Decision) (more : Nat) : Next :=
  match phase with
  | .resolving => .finish outcome (2 + more)
  | .checking => .finish outcome (1 + more)
  | .locked => .leave outcome (1 + more)

/-- Denies a request, and enters it in the log first if the settings say so. -/
def deny (settings : Settings) (now : Time.Instant) (request : Request) (subject : Subject)
    (reason : Denial) (phase : Phase) : Next :=
  if settings.logDenials then
    .ask (.append (logEntry now request subject false (Display.ofDenial request.reader reason)))
      (.denying reason phase)
  else conclude phase (.ok (denial request reason)) 1

def recordGrant (now : Time.Instant) (request : Request) (subject : Subject) : Next :=
  .ask (.append (logEntry now request subject true Display.granted)) .granting

/-- The first question: a code is looked up without blanks, a card in normal form. -/
def start (request : Request) : Next :=
  match request.reader with
  | .keypad =>
      let credential := Text.trim request.credential
      .ask (.userByCode credential) (.code credential)
  | .card | .biometric =>
      let credential := normalizeCard request.credential
      .ask (.cardByNumber credential) (.card credential)

def checkCard (settings : Settings) (now started : Time.Instant) (request : Request)
    (credential : String) (card : CardView) : Next :=
  let subject : Subject := ⟨card.holder, card.registration, credential⟩
  if !card.active then deny settings now request subject .cardInactive .resolving
  else
    match liesWithin card.validFrom card.validUntil started with
    | .ok true => .ask (.userByRegistration card.registration) (.holder credential card)
    | .ok false => deny settings now request subject .cardExpired .resolving
    | .error fault => .finish (.error fault) 1

def subjectOf (credential : String) (user : UserView) : Subject :=
  ⟨user.id, user.registration, credential⟩

/-- Continues after an answer of the register. The request came at `started`. -/
def resume (settings : Settings) (now started : Time.Instant) (request : Request) (stage : Stage)
    (reply : Reply) : Next :=
  match stage, reply with
  | .code _, .failed fault | .card _, .failed fault | .holder .., .failed fault =>
      .finish (.error fault) 1
  | .code credential, .user (some user) => .rest (.checks (subjectOf credential user) user)
  | .code credential, _ =>
      deny settings now request ⟨.null, .null, credential⟩ .codeNotFound .resolving
  | .card credential, .card (some card) => checkCard settings now started request credential card
  | .card credential, _ =>
      deny settings now request ⟨.null, .null, credential⟩ .cardNotFound .resolving
  | .holder credential _, .user (some user) => .rest (.checks (subjectOf credential user) user)
  | .holder credential card, _ =>
      deny settings now request ⟨card.holder, card.registration, credential⟩ .userNotFound
        .resolving
  | .denying _ phase, .failed fault => conclude phase (.error fault) 0
  | .denying reason phase, _ => conclude phase (.ok (denial request reason)) 0
  | .passback _, .failed fault => .leave (.error fault) 0
  | .passback subject, .recent true => deny settings now request subject .antiPassback .locked
  | .passback subject, _ => recordGrant now request subject
  | .granting, .failed fault => .leave (.error fault) 0
  | .granting, _ => .leave (.ok (grant request)) 0
  | .checks .., _ | .queued _, _ => .rest stage

def check (settings : Settings) (now started : Time.Instant) (request : Request)
    (subject : Subject) (user : UserView) : Next :=
  if !user.active then deny settings now request subject .userInactive .checking
  else
    match liesWithin user.validFrom user.validUntil started with
    | .error fault => .finish (.error fault) 0
    | .ok false => deny settings now request subject .userExpired .checking
    | .ok true =>
        if user.allows request.reader then .acquire subject.user (.queued subject)
        else deny settings now request subject .methodNotPermitted .checking

def enter (settings : Settings) (now : Time.Instant) (request : Request) (subject : Subject) :
    Next :=
  if request.direction.isWatched then
    .ask (.recentGrant subject.user request.direction (some (now.back settings.window)))
      (.passback subject)
  else recordGrant now request subject

end Gatehouse.Validation.Offline
