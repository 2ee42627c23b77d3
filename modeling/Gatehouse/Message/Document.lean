import Gatehouse.Device.Reading
import Gatehouse.Json.Members
import Gatehouse.Message.Text

/-!
# Messages in documents

How messages are written as documents, and how they are read from them. Reading refuses an address
out of range, and nothing else.
-/

namespace Gatehouse

def Device.ofDocument (document : Json) : Except Fault Device :=
  Device.ofNumber (document.numberAt "device" .nan)

def Command.named (document : Json) (name : String) : Command :=
  (Command.ofName? (document.textAt name)).getD .queryStatus

namespace Message

def members (message : Message) : List (String × Json) := [
  ("device", .count message.device.number),
  ("command", .text message.command.name),
  ("fields", .texts message.fields)]

def document (message : Message) : Json :=
  .object message.members

def fullDocument (message : Message) : Json :=
  .object (message.members ++ [("text", .text message.text)])

def ofDocument (document : Json) : Except Fault Message := do
  let device ← Device.ofDocument document
  return { device := device, command := Command.named document "command"
           fields := document.textsAt "fields" }

end Message

end Gatehouse
