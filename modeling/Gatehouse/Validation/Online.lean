import Gatehouse.Access.Display
import Gatehouse.Agenda.Timers
import Gatehouse.Authority.Exchange

/-!
# Asking the authority first

A request is put to the remote authority in a bounded number of attempts, each bounded in time,
with a pause between them. The first verdict that comes in time decides; when every attempt has
failed the request is decided from the register, once.

An inquiry is a walk through stages; `answered`, `timedOut`, `caught` and `resumed` say what comes
next. An answer to an attempt that is over changes nothing.
-/

namespace Gatehouse.Validation.Online

open Gatehouse.Access Gatehouse.Authority

/-- How an authority is asked: the time for each attempt and between attempts, in milliseconds, and
how many further attempts follow a failed one. -/
structure Settings where
  timeout : Number
  retries : Number
  pause : Number
  deriving DecidableEq

def minTimeout : Number := .finite 500

def maxTimeout : Number := .finite 10000

def defaultTimeout : Number := .finite 3000

def defaultRetries : Number := .finite 2

def defaultPause : Number := .finite 100

def clampTimeout (timeout : Number) : Number :=
  Number.min maxTimeout (Number.max minTimeout timeout)

/-- Settings from numbers: the time is brought within its bounds, a number of retries loses its
fraction, and nothing is negative. -/
def Settings.ofNumbers (timeout retries pause : Number) : Settings :=
  { timeout := clampTimeout timeout
    retries := Number.max (.finite 0) retries.floor
    pause := Number.max (.finite 0) pause }

def Settings.allows (settings : Settings) (failed : Nat) : Bool :=
  (Number.ofNat failed).le settings.retries

/-- The decision that a verdict amounts to. A text that leaves nothing to show is replaced. -/
def decisionOf (verdict : Verdict) (request : Request) : Decision :=
  let shown := (verdict.display.map Display.line).getD ""
  let lineOr (fallback : String) : String := if shown.isEmpty then fallback else shown
  if verdict.granted then
    .granted (lineOr Display.granted) request.direction request.reader .online
  else .denied .remoteDenied (lineOr Display.denied) .online

/-- Where an inquiry stands. The count is that of attempts begun. -/
inductive Stage where
  | asking (attempt : Nat)
  | failing (attempt : Nat)
  | pausing (attempt : Nat)
  | resting (attempt : Nat)
  | fallback (attempts : Nat) (cause : Fault)
  | decided (attempts : Nat) (decision : Decision)
  deriving DecidableEq

/-- How an inquiry ended: who decided, after how many attempts, and why the authority did not. -/
structure Report where
  attempts : Nat
  fellBack : Bool
  error : Option Fault
  deriving DecidableEq

def Stage.report? : Stage → Option Report
  | .decided attempts _ => some { attempts := attempts, fellBack := false, error := none }
  | .fallback attempts cause =>
      some { attempts := attempts, fellBack := true
             error := some (.authorityFailed attempts cause) }
  | _ => none

/-- What comes next in an inquiry: an attempt begins, a pause begins, a failed attempt is dealt
with, the register decides, or the verdict does. -/
inductive Next where
  | attempt (number : Nat)
  | pause (attempt : Nat)
  | recover (attempt : Nat) (fault : Fault)
  | fallBack (attempts : Nat) (fault : Fault)
  | decide (attempts : Nat) (decision : Decision)
  | nothing

def start : Next := .attempt 1

def answered (request : Request) (stage : Stage) (attempt : Nat) (result : Except Fault Verdict) :
    Next :=
  match stage, result with
  | .asking current, .ok verdict =>
      if attempt = current then .decide attempt (decisionOf verdict request) else .nothing
  | .asking current, .error fault =>
      if attempt = current then .recover attempt fault else .nothing
  | _, _ => .nothing

def timedOut (settings : Settings) (stage : Stage) (attempt : Nat) : Next :=
  match stage with
  | .asking current =>
      if attempt = current then .recover attempt (.authorityTimeout settings.timeout) else .nothing
  | _ => .nothing

def caught (settings : Settings) (attempt : Nat) (fault : Fault) : Next :=
  if settings.allows attempt then
    if (Number.finite 0).lt settings.pause then .pause attempt else .attempt (attempt + 1)
  else .fallBack attempt fault

def resumed (attempt : Nat) : Next := .attempt (attempt + 1)

end Gatehouse.Validation.Online
