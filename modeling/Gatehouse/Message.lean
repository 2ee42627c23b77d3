import Gatehouse.Command
import Gatehouse.Device

/-!
# Messages

A message goes to or comes from one reader and carries a command with text fields.
-/

namespace Gatehouse

structure Message where
  device : Device
  command : Command
  fields : List String
  deriving DecidableEq

end Gatehouse
