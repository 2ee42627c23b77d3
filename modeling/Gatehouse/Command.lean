/-!
# Commands

The commands of the bus and the codes that stand for them. The codes of answers and status reports
hold the delimiter of the header, so a code is all that stands between the header and the first
field.
-/

namespace Gatehouse

inductive Command where
  | accessRequest
  | grantBoth
  | grantManual
  | grantEntry
  | grantExit
  | denyAccess
  | waitingRotation
  | rotationCompleted
  | rotationTimeout
  | sendConfig
  | sendCards
  | sendUsers
  | sendBiometrics
  | sendDateTime
  | receiveLogs
  | receiveConfig
  | queryStatus
  deriving DecidableEq

namespace Command

def all : List Command :=
  [.accessRequest, .grantBoth, .grantManual, .grantEntry, .grantExit, .denyAccess,
    .waitingRotation, .rotationCompleted, .rotationTimeout, .sendConfig, .sendCards, .sendUsers,
    .sendBiometrics, .sendDateTime, .receiveLogs, .receiveConfig, .queryStatus]

theorem mem_all (command : Command) : command ∈ all := by
  cases command <;> decide

def code : Command → String
  | .accessRequest => "000+0"
  | .grantBoth => "00+1"
  | .grantManual => "00+4"
  | .grantEntry => "00+5"
  | .grantExit => "00+6"
  | .denyAccess => "00+30"
  | .waitingRotation => "000+80"
  | .rotationCompleted => "000+81"
  | .rotationTimeout => "000+82"
  | .sendConfig => "EC"
  | .sendCards => "ECAR"
  | .sendUsers => "EU"
  | .sendBiometrics => "ED"
  | .sendDateTime => "EH"
  | .receiveLogs => "ER"
  | .receiveConfig => "RC"
  | .queryStatus => "RQ"

def name : Command → String
  | .accessRequest => "AccessRequest"
  | .grantBoth => "GrantBoth"
  | .grantManual => "GrantManual"
  | .grantEntry => "GrantEntry"
  | .grantExit => "GrantExit"
  | .denyAccess => "DenyAccess"
  | .waitingRotation => "WaitingRotation"
  | .rotationCompleted => "RotationCompleted"
  | .rotationTimeout => "RotationTimeout"
  | .sendConfig => "SendConfig"
  | .sendCards => "SendCards"
  | .sendUsers => "SendUsers"
  | .sendBiometrics => "SendBiometrics"
  | .sendDateTime => "SendDateTime"
  | .receiveLogs => "ReceiveLogs"
  | .receiveConfig => "ReceiveConfig"
  | .queryStatus => "QueryStatus"

def ofCode? (code : String) : Option Command :=
  all.find? fun command => command.code == code

def ofName? (name : String) : Option Command :=
  all.find? fun command => command.name == name

def isGrant : Command → Bool
  | .grantBoth | .grantManual | .grantEntry | .grantExit => true
  | _ => false

def isAccessControl : Command → Bool
  | .accessRequest | .denyAccess => true
  | command => command.isGrant

def isRotationStatus : Command → Bool
  | .waitingRotation | .rotationCompleted | .rotationTimeout => true
  | _ => false

def isManagement : Command → Bool
  | .sendConfig | .sendCards | .sendUsers | .sendBiometrics | .sendDateTime | .receiveLogs
  | .receiveConfig => true
  | _ => false

theorem ofCode?_code (command : Command) : ofCode? command.code = some command := by
  cases command <;> decide +kernel

theorem ofCode?_eq_some_iff {code : String} {command : Command} :
    ofCode? code = some command ↔ command.code = code := by
  constructor
  · intro found
    simpa using List.find?_some found
  · rintro rfl
    exact ofCode?_code command

theorem ofName?_name (command : Command) : ofName? command.name = some command := by
  cases command <;> decide +kernel

end Command

end Gatehouse
