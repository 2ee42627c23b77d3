import Gatehouse.Access.Basic
import Gatehouse.Fault
import Gatehouse.Json.Value
import Gatehouse.Text.Blank
import Gatehouse.Text.UpperCase

/-!
# Records of the register

The register knows users, their cards, and a log of decided requests. Users and cards may be
limited to a period. Card numbers are kept and looked up in a normal form; codes are looked up
without blanks.
-/

namespace Gatehouse.Register

/-- The number under which the register knows a user, a card or a log record. -/
abbrev Id := Int

/-- What the log and the decisions call a user by: the number or the registration, null for nobody.
What a database gives in place of these is passed on and compared, but never looked into. -/
abbrev Reference := Json

structure UserDetails where
  registration : String
  name : String
  active : Bool
  validFrom : Option Time.Instant
  validUntil : Option Time.Instant
  allowCard : Bool
  allowBiometric : Bool
  allowKeypad : Bool
  code : Option String
  deriving DecidableEq

structure User extends UserDetails where
  id : Id
  deriving DecidableEq

structure CardDetails where
  cardNumber : String
  registration : String
  active : Bool
  validFrom : Option Time.Instant
  validUntil : Option Time.Instant
  deriving DecidableEq

structure Card extends CardDetails where
  id : Id
  holder : Reference
  deriving DecidableEq

/-- What the log says about a decided request. Entries that are made elsewhere may lack their
instant. -/
structure LogEntry where
  user : Reference
  registration : Reference
  credential : String
  direction : Access.Direction
  reader : Access.Reader
  granted : Bool
  display : String
  timestamp : Option Time.Instant
  deriving DecidableEq

structure LogRecord extends LogEntry where
  id : Id
  deriving DecidableEq

/-- The normal form of a card number: no blanks at the ends, and upper case. -/
def normalizeCard (number : String) : String :=
  Text.upper (Text.trim number)

/-- Whether a moment lies in a period; a missing bound does not limit, and neither does an invalid
one. -/
def isWithin (validFrom validUntil : Option Time.Instant) (now : Time.Instant) : Bool :=
  !(validFrom.any fun start => now.before start) && !(validUntil.any fun stop => stop.before now)

def instantMissing : Fault := .mistyped "Cannot read properties of null (reading 'getTime')"

/-- Whether a moment that may be missing lies in a period. Only a period without bounds can do
without a moment. -/
def checkWithin (validFrom validUntil : Option Time.Instant) :
    Option Time.Instant → Except Fault Bool
  | some now => .ok (isWithin validFrom validUntil now)
  | none => if validFrom.isSome || validUntil.isSome then .error instantMissing else .ok true

/-- Whether an instant is no earlier than another one; neither may be missing. -/
def checkSince (instant since : Option Time.Instant) : Except Fault Bool :=
  match instant, since with
  | some instant, some since => .ok (instant.since since)
  | _, _ => .error instantMissing

end Gatehouse.Register
