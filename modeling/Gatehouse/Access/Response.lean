import Gatehouse.Access.Display
import Gatehouse.Message
import Gatehouse.Number.Text

/-!
# Responses

The message that tells a reader about a decision: a grant command for the direction, or the denial
command, with the seconds for which the display keeps the line, and the line.
-/

namespace Gatehouse.Access

structure DisplaySeconds where
  grant : Number
  deny : Number
  deriving DecidableEq

def DisplaySeconds.standard : DisplaySeconds := { grant := .finite 5, deny := .finite 0 }

def Direction.grantCommand : Direction → Command
  | .entry => .grantEntry
  | .exit => .grantExit
  | .unknown => .grantBoth

def Decision.response (decision : Decision) (device : Device) (seconds : DisplaySeconds) :
    Message :=
  let shown := Display.line decision.display
  match decision with
  | .granted _ direction _ _ =>
      { device := device, command := direction.grantCommand, fields := [seconds.grant.text, shown] }
  | .denied .. =>
      { device := device, command := .denyAccess, fields := [seconds.deny.text, shown] }

def Decision.failure (reason : Denial) : Decision :=
  .denied reason Display.denied .offline

end Gatehouse.Access
