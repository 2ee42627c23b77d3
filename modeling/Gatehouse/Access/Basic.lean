import Gatehouse.Time.Instant

/-!
# Requests and decisions

A reader asks whether a credential may pass. The answer is a grant, or a denial with its reason;
either comes with a text for the display of the reader.
-/

namespace Gatehouse.Access

inductive Direction where
  | unknown
  | entry
  | exit
  deriving DecidableEq

namespace Direction

def all : List Direction := [.entry, .exit, .unknown]

def name : Direction → String
  | .unknown => "UNKNOWN"
  | .entry => "ENTRY"
  | .exit => "EXIT"

def ofName? (name : String) : Option Direction :=
  all.find? fun direction => direction.name == name

def code : Direction → Nat
  | .unknown => 0
  | .entry => 1
  | .exit => 2

def isWatched : Direction → Bool
  | .entry | .exit => true
  | .unknown => false

end Direction

inductive Reader where
  | card
  | biometric
  | keypad
  deriving DecidableEq

namespace Reader

def all : List Reader := [.card, .biometric, .keypad]

def name : Reader → String
  | .card => "CARD"
  | .biometric => "BIOMETRIC"
  | .keypad => "KEYPAD"

def ofName? (name : String) : Option Reader :=
  all.find? fun reader => reader.name == name

def code : Reader → Nat
  | .card => 1
  | .keypad => 3
  | .biometric => 5

end Reader

structure Request where
  credential : String
  timestamp : Time.Instant
  direction : Direction
  reader : Reader
  deriving DecidableEq

inductive Denial where
  | cardNotFound
  | codeNotFound
  | cardInactive
  | cardExpired
  | userNotFound
  | userInactive
  | userExpired
  | methodNotPermitted
  | antiPassback
  | remoteDenied
  | malformedRequest
  | validationError
  deriving DecidableEq

namespace Denial

def all : List Denial :=
  [.cardNotFound, .codeNotFound, .cardInactive, .cardExpired, .userNotFound, .userInactive,
    .userExpired, .methodNotPermitted, .antiPassback, .remoteDenied, .malformedRequest,
    .validationError]

def name : Denial → String
  | .cardNotFound => "CARD_NOT_FOUND"
  | .codeNotFound => "CODE_NOT_FOUND"
  | .cardInactive => "CARD_INACTIVE"
  | .cardExpired => "CARD_EXPIRED"
  | .userNotFound => "USER_NOT_FOUND"
  | .userInactive => "USER_INACTIVE"
  | .userExpired => "USER_EXPIRED"
  | .methodNotPermitted => "METHOD_NOT_PERMITTED"
  | .antiPassback => "ANTI_PASSBACK"
  | .remoteDenied => "REMOTE_DENIED"
  | .malformedRequest => "MALFORMED_REQUEST"
  | .validationError => "VALIDATION_ERROR"

def ofName? (name : String) : Option Denial :=
  all.find? fun denial => denial.name == name

end Denial

inductive Source where
  | offline
  | online
  deriving DecidableEq

def Source.name : Source → String
  | .offline => "offline"
  | .online => "online"

inductive Decision where
  | granted (display : String) (direction : Direction) (reader : Reader) (source : Source)
  | denied (reason : Denial) (display : String) (source : Source)
  deriving DecidableEq

namespace Decision

def isGrant : Decision → Bool
  | .granted .. => true
  | .denied .. => false

def display : Decision → String
  | .granted display .. => display
  | .denied _ display _ => display

def source : Decision → Source
  | .granted _ _ _ source => source
  | .denied _ _ source => source

def reason? : Decision → Option Denial
  | .granted .. => none
  | .denied reason .. => some reason

def name (decision : Decision) : String :=
  if decision.isGrant then "GRANTED" else "DENIED"

end Decision

end Gatehouse.Access
