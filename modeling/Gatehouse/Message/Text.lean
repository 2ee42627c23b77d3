import Gatehouse.Device.Reading
import Gatehouse.Field
import Gatehouse.Message
import Gatehouse.Text.Units

/-!
# The text of a message

A message is written as the address, the protocol word and the command code with a plus between
them, then each field after a bracket, and a last bracket if there are fields. Reading accepts
blanks around the text and around the address, and a missing last bracket. The code is everything
up to the first bracket, so codes that hold a plus survive.
-/

namespace Gatehouse.Message

def protocolMark : List Char := "REON+".toList

def characters (message : Message) : List Char :=
  message.device.digits ++ '+' :: protocolMark ++ message.command.code.toList ++
    (if message.fields.isEmpty then []
      else message.fields.flatMap (fun field => ']' :: field.toList) ++ [']'])

def text (message : Message) : String :=
  String.ofList message.characters

/-- The fields of the text after the first bracket. One empty segment at the end is dropped. -/
def splitFields (text : List Char) : List String :=
  if text.isEmpty then []
  else
    let segments := text.splitOn ']'
    let kept := if segments.getLast? = some [] then segments.dropLast else segments
    kept.map String.ofList

def readBody (body : List Char) : Except Fault (Command × List String) :=
  let code := body.takeWhile (· != ']')
  let tail := body.dropWhile (· != ']')
  if code.isEmpty then .error (.message .noCommand)
  else
    match Command.ofCode? (String.ofList code) with
    | none => .error (.unknownCommand (String.ofList code))
    | some command => .ok (command, if tail.isEmpty then [] else splitFields (tail.drop 1))

def afterProtocol (rest : List Char) : Except Fault (List Char) :=
  if protocolMark.isPrefixOf rest then .ok (rest.drop protocolMark.length)
  else .error (.message (.otherProtocol (String.ofList (Text.takeUnits protocolMark.length rest))))

def readTrimmed (trimmed : List Char) : Except Fault Message := do
  let address := trimmed.takeWhile (· != '+')
  let tail := trimmed.dropWhile (· != '+')
  if trimmed.isEmpty then throw (.message .empty)
  if tail.isEmpty then throw (.message (.noProtocol (String.ofList trimmed)))
  if address.isEmpty then throw (.message .noDevice)
  let device ← Device.read (String.ofList address)
  let body ← afterProtocol (tail.drop 1)
  let (command, fields) ← readBody body
  Field.checkSizes Field.maxLength Field.maxCount fields
  Field.checkAll fields
  return { device := device, command := command, fields := fields }

def read (text : String) : Except Fault Message :=
  readTrimmed (Text.trimList text.toList)

example : (read " 1 +REON+000+0]a]]").toOption =
    some ⟨⟨1, by decide⟩, .accessRequest, ["a", ""]⟩ := by decide +kernel
example : text ⟨⟨7, by decide⟩, .grantExit, ["5", ""]⟩ = "07+REON+00+6]5]]" := by decide +kernel

end Gatehouse.Message
