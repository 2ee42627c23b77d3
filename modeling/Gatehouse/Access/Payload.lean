import Gatehouse.Access.Basic
import Gatehouse.Device.Reading
import Gatehouse.Message
import Gatehouse.Text.Units
import Gatehouse.Time.Stamp

/-!
# Requests and reports in messages

An access request and a report on a rotation carry four fields: credential, timestamp, direction
code and reader code. More fields are ignored. A report may leave the credential empty.
-/

namespace Gatehouse.Access

def minCredential : Nat := 3

def maxCredential : Nat := 20

def payloadFields : Nat := 4

def readCredential (index : Number) (field : String) : Except Fault String :=
  let units := Text.unitCount field
  if units < minCredential || maxCredential < units then
    .error (.field index field (.credentialLength units))
  else .ok field

def readTimestamp (field : String) : Except Fault Time.Instant :=
  match Time.Stamp.read field with
  | some instant => .ok instant
  | none => .error (.message (.unreadableTime field))

def readCode (index : Number) (field : String) (flaw : FieldFlaw) : Except Fault Nat :=
  if Device.isShortCode field.toList then .ok (Number.digitsValue field.toList)
  else .error (.field index field flaw)

def readDirection (index : Number) (field : String) : Except Fault Direction :=
  match readCode index field .directionForm with
  | .ok 0 => .ok .unknown
  | .ok 1 => .ok .entry
  | .ok 2 => .ok .exit
  | .ok _ => .error (.field index field .direction)
  | .error fault => .error fault

def readReader (index : Number) (field : String) : Except Fault Reader :=
  match readCode index field .readerForm with
  | .ok 0 | .ok 1 => .ok .card
  | .ok 3 => .ok .keypad
  | .ok 5 => .ok .biometric
  | .ok _ => .error (.field index field .reader)
  | .error fault => .error fault

def credentialPlace : Number := .finite 0

def directionPlace : Number := .finite 2

def readerPlace : Number := .finite 3

namespace Request

def ofMessage (message : Message) : Except Fault Request := do
  match message.fields with
  | credential :: timestamp :: direction :: reader :: _ =>
      let credential ← readCredential credentialPlace credential
      let timestamp ← readTimestamp timestamp
      let direction ← readDirection directionPlace direction
      let reader ← readReader readerPlace reader
      return { credential := credential, timestamp := timestamp, direction := direction
               reader := reader }
  | fields => throw (.missingFields .accessRequest payloadFields fields.length)

def toMessage (request : Request) (device : Device) : Message :=
  { device := device, command := .accessRequest
    fields := [request.credential, Time.Stamp.write request.timestamp,
      toString request.direction.code, toString request.reader.code] }

end Request

structure Report where
  status : Turnstile.Status
  credential : Option String
  timestamp : Time.Instant
  direction : Direction
  reader : Reader
  deriving DecidableEq

def Report.ofMessage (message : Message) : Except Fault Report := do
  match Turnstile.Status.ofCommand? message.command with
  | none => throw (.message (.notRotationStatus message.command))
  | some status =>
      match message.fields with
      | credential :: timestamp :: direction :: reader :: _ =>
          let credential ←
            if credential.isEmpty then pure none
            else (readCredential credentialPlace credential).map some
          let timestamp ← readTimestamp timestamp
          let direction ← readDirection directionPlace direction
          let reader ← readReader readerPlace reader
          return { status := status, credential := credential, timestamp := timestamp
                   direction := direction, reader := reader }
      | fields => throw (.missingFields .rotationStatus payloadFields fields.length)

end Gatehouse.Access
