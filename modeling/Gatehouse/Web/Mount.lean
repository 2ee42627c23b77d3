import Gatehouse.Fault
import Gatehouse.Pattern.Matching
import Gatehouse.Pattern.Reading
import Gatehouse.Text.Percent
import Gatehouse.Web.Address
import Gatehouse.Web.Template

/-!
# Mounts

Where in all paths an interface stands. The root takes every path as it is, and a star takes every
path as a whole; otherwise a template says which paths begin at the mount. What the mount takes must
be the front of the path, and must end where a part of the path ends.
-/

namespace Gatehouse.Web

/-- A place at which an interface stands. At some there is nothing. A template has a number of names
for what its groups take. -/
inductive Mount where
  | nowhere
  | root
  | whole
  | template (pattern : Pattern) (names : Nat)
  deriving DecidableEq

/-- What a mount makes of a path: it may miss it, it may take so many units of it, a part of it may
be unreadable, or may have no name. -/
inductive Mount.Taken where
  | missed
  | units (count : Nat)
  | unreadable
  | nameless
  deriving DecidableEq

namespace Mount

def ofBasePath (basePath : String) : Except Fault Mount :=
  if basePath = "/" then .ok .root
  else
    match Pattern.read (Template.pattern basePath) with
    | .error flaw => .error (.pattern (Template.patternText basePath) flaw)
    | .ok pattern =>
        .ok (if basePath = "*" then .whole else .template pattern (Template.names basePath))

def endsPart : List Nat → Bool
  | [] => true
  | next :: _ => next == '/'.toNat || next == '.'.toNat

def isReadable (taken : Option (List Nat)) : Bool :=
  Text.Percent.isReadable (Text.decodeUnits (taken.getD []))

/-- What a match takes of a path. What the groups have taken is read in order, under so many
names. -/
def takenBy (path : List Nat) (names : Nat) (found : Pattern.Match) : Taken :=
  let size := found.whole.length
  if !(found.groups.take names).all isReadable then .unreadable
  else if names < found.groups.length then .nameless
  else if size = 0 then .units 0
  else if found.whole = path.take size && endsPart (path.drop size) then .units size
  else .missed

def take (mount : Mount) (path : List Char) : Taken :=
  let units := path.flatMap Text.encodeChar
  match mount with
  | .nowhere => .missed
  | .root => .units 0
  | .whole => if Text.Percent.isReadable path then .units units.length else .unreadable
  | .template pattern names => ((pattern.find units).map (takenBy units names)).getD .missed

end Mount

end Gatehouse.Web
