import Gatehouse.Command
import Gatehouse.Device
import Gatehouse.Number.Text
import Gatehouse.Pattern.Flaw
import Gatehouse.Turnstile.Cycle

/-!
# Faults

Everything that can go wrong, by cause. Each cause carries the data that its report needs; codes,
categories and wording are functions of the cause.
-/

namespace Gatehouse

inductive MessageFlaw where
  | empty
  | emptyBody (size : Nat)
  | noDevice
  | unreadableDevice (text : String)
  | deviceOutOfRange (number : Number)
  | noProtocol (text : String)
  | otherProtocol (found : String)
  | noCommand
  | notRotationStatus (command : Command)
  | unprintable
  | notBasic
  | unreadableTime (text : String)
  deriving DecidableEq

namespace MessageFlaw

def reason : MessageFlaw → String
  | .empty | .emptyBody _ => "EMPTY_MESSAGE"
  | .noDevice => "MISSING_DEVICE_ID"
  | .unreadableDevice _ | .deviceOutOfRange _ => "INVALID_DEVICE_ID"
  | .noProtocol _ | .otherProtocol _ => "MISSING_PROTOCOL_ID"
  | .noCommand | .notRotationStatus _ => "MISSING_COMMAND"
  | .unprintable | .notBasic => "NON_ASCII_PAYLOAD"
  | .unreadableTime _ => "INVALID_TIMESTAMP"

def message : MessageFlaw → String
  | .empty => "Empty message"
  | .emptyBody size => s!"Frame body of {size} bytes carries no payload"
  | .noDevice => "Missing device ID"
  | .unreadableDevice text => s!"Invalid device ID '{text}'"
  | .deviceOutOfRange number => "Device ID must be 1-99, got " ++ number.text
  | .noProtocol text => s!"Missing protocol ID in '{text}'"
  | .otherProtocol found => s!"Expected 'REON+' after device ID, got '{found}'"
  | .noCommand => "Missing command code"
  | .notRotationStatus command => command.name ++ " is not a rotation status command"
  | .unprintable => "Outbound message must be printable ASCII"
  | .notBasic => "Frame payload is not ASCII"
  | .unreadableTime text => s!"Invalid timestamp '{text}' (expected dd/mm/yyyy hh:mm:ss)"

end MessageFlaw

inductive FieldFlaw where
  | reserved (delimiter : Char)
  | tooMany (count : Nat) (limit : Number)
  | tooLong (size : Nat) (limit : Number)
  | directionForm
  | direction
  | readerForm
  | reader
  | credentialLength (units : Nat)
  deriving DecidableEq

namespace FieldFlaw

def limit : FieldFlaw → Option Number
  | .tooMany _ limit | .tooLong _ limit => some limit
  | .credentialLength _ => some (.finite 20)
  | _ => none

def message (index : Number) (field : String) : FieldFlaw → String
  | .reserved delimiter =>
      "Field " ++ index.text ++
        s!" ('{field}') contains reserved protocol delimiter '{delimiter}'"
  | .tooMany count limit => s!"Message carries {count} fields, limit is " ++ limit.text
  | .tooLong size limit =>
      "Field " ++ index.text ++ " exceeds maximum length " ++ limit.text ++ s!" (got {size} bytes)"
  | .directionForm => s!"Invalid direction code '{field}'"
  | .direction => s!"Invalid direction code '{field}' (expected 0, 1 or 2)"
  | .readerForm => s!"Invalid reader type code '{field}'"
  | .reader => s!"Invalid reader type code '{field}' (expected 0, 1, 3 or 5)"
  | .credentialLength units => s!"Credential length must be 3-20 characters, got {units}"

end FieldFlaw

structure Issue where
  path : List String
  message : String
  deriving DecidableEq

inductive SettingsFlaw where
  | unknownCheck (name : String)
  | checkSetting (value : String)
  | noAuthorityUrl
  | seedUnreadable (file : String)
  | seedInvalid (file : String) (issues : List Issue)
  deriving DecidableEq

namespace SettingsFlaw

def message : SettingsFlaw → String
  | .unknownCheck name => s!"Unknown integrity check '{name}' (expected xor8, sum8 or crc16)"
  | .checkSetting value =>
      s!"PROTOCOL_INTEGRITY_CHECK must be xor8, sum8 or crc16, got '{value}'"
  | .noAuthorityUrl => "VALIDATION_MODE=online requires REMOTE_AUTH_URL"
  | .seedUnreadable file => s!"Access seed file {file} is not valid JSON"
  | .seedInvalid file _ => s!"Access seed file {file} is invalid"

end SettingsFlaw

inductive Payload where
  | accessRequest
  | rotationStatus
  deriving DecidableEq

def Payload.name : Payload → String
  | .accessRequest => "Access request"
  | .rotationStatus => "Rotation status"

/-- The cause of a failure. The last eight lie outside the gateway: a failure that a surrounding
system reports in its own words, a failed exchange with the authority, a value of a kind that
cannot be used in its place, a text that is no pattern, an instant that has no text, a limit that is
no count, a missing file, and a document that breaks its schema. -/
inductive Fault where
  | message (flaw : MessageFlaw)
  | unknownCommand (code : String)
  | field (index : Number) (content : String) (flaw : FieldFlaw)
  | missingFields (payload : Payload) (expected actual : Nat)
  | checkMismatch (expected actual : String)
  | frameTooLarge (size : Nat) (limit : Number)
  | storeUnavailable (operation : String) (cause : Fault)
  | authorityFailed (attempts : Nat) (cause : Fault)
  | authorityTimeout (limit : Number)
  | transition (device : Device) (before : Turnstile.State) (event : Turnstile.Event)
  | settings (flaw : SettingsFlaw)
  | reported (text : String)
  | exchange (text : String)
  | mistyped (text : String)
  | pattern (text : String) (flaw : Pattern.Flaw)
  | noTimeText
  | badLength
  | noFile
  | schema (issues : List Issue)
  deriving DecidableEq

namespace Fault

def text : Fault → String
  | .message flaw => flaw.message
  | .unknownCommand code => s!"Unknown command code '{code}'"
  | .field index content flaw => flaw.message index content
  | .missingFields payload expected actual =>
      payload.name ++ s!" requires {expected} fields, got {actual}"
  | .checkMismatch expected actual => s!"Checksum mismatch: expected {expected}, got {actual}"
  | .frameTooLarge size limit =>
      s!"Frame of {size} bytes exceeds the " ++ limit.text ++ " byte limit"
  | .storeUnavailable operation _ => s!"Access store failed during {operation}"
  | .authorityFailed attempts _ => s!"Remote authority failed after {attempts} attempt(s)"
  | .authorityTimeout limit => "Remote authority did not answer within " ++ limit.text ++ " ms"
  | .transition device before event =>
      "Turnstile " ++ device.text ++ ": event " ++ event.name ++ " cannot move " ++ before.name ++
        " to " ++ event.target.name
  | .settings flaw => flaw.message
  | .reported text | .exchange text | .mistyped text => text
  | .pattern text flaw => "Invalid regular expression: /" ++ text ++ "/i: " ++ flaw.message
  | .noTimeText => "Invalid time value"
  | .badLength => "Invalid array length"
  | .noFile => "no such file"
  | .schema _ => "invalid document"

/-- The code of a fault of the gateway's own; faults from outside have none. -/
def code? : Fault → Option String
  | .message _ => some "INVALID_MESSAGE_FORMAT"
  | .unknownCommand _ => some "INVALID_COMMAND_CODE"
  | .field .. => some "INVALID_FIELD_FORMAT"
  | .missingFields .. => some "MISSING_FIELD"
  | .checkMismatch .. => some "CHECKSUM_MISMATCH"
  | .frameTooLarge .. => some "FRAME_TOO_LARGE"
  | .storeUnavailable .. => some "STORE_UNAVAILABLE"
  | .authorityFailed .. => some "REMOTE_AUTHORITY_FAILED"
  | .authorityTimeout _ => some "REMOTE_TIMEOUT"
  | .transition .. => some "INVALID_STATE_TRANSITION"
  | .settings _ => some "CONFIG_ERROR"
  | .reported _ | .exchange _ | .mistyped _ | .pattern .. | .noTimeText | .badLength | .noFile
  | .schema _ => none

def category? : Fault → Option String
  | .message _ | .unknownCommand _ | .field .. | .missingFields .. => some "format"
  | .checkMismatch .. | .frameTooLarge .. => some "integrity"
  | .storeUnavailable .. => some "store"
  | .authorityFailed .. | .authorityTimeout _ => some "remote"
  | .transition .. => some "state"
  | .settings _ => some "config"
  | .reported _ | .exchange _ | .mistyped _ | .pattern .. | .noTimeText | .badLength | .noFile
  | .schema _ => none

end Fault

end Gatehouse
