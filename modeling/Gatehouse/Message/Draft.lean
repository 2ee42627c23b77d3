import Gatehouse.Message.Text

/-!
# Messages under construction

A draft collects fields one by one and refuses a field with a delimiter at once; the sizes are
checked when the message is taken out. A refused field leaves the draft as it was.
-/

namespace Gatehouse.Message

structure Draft where
  device : Device
  command : Command
  fields : List String
  deriving DecidableEq

namespace Draft

def empty (device : Device) (command : Command) : Draft :=
  { device := device, command := command, fields := [] }

def add (draft : Draft) (field : String) : Except Fault Draft :=
  match Field.check (.ofNat draft.fields.length) field with
  | .ok () => .ok { draft with fields := draft.fields ++ [field] }
  | .error fault => .error fault

def addAll (draft : Draft) : List String → Draft × Option Fault
  | [] => (draft, none)
  | field :: rest =>
      match draft.add field with
      | .ok longer => longer.addAll rest
      | .error fault => (draft, some fault)

def build (draft : Draft) : Except Fault Message :=
  match Field.checkSizes Field.maxLength Field.maxCount draft.fields with
  | .ok () => .ok { device := draft.device, command := draft.command, fields := draft.fields }
  | .error fault => .error fault

end Draft

end Gatehouse.Message
