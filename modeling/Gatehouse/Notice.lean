/-!
# Notices

What the gateway tells its operators while it works: each notice has a level and a fixed wording.
-/

namespace Gatehouse

inductive Level where
  | debug
  | info
  | warn
  | error
  deriving DecidableEq

def Level.name : Level → String
  | .debug => "debug"
  | .info => "info"
  | .warn => "warn"
  | .error => "error"

inductive Notice where
  | staleRotationClosed
  | rotationTimedOut
  | validationFailed
  | requestProcessed
  | bytesDiscarded
  | frameDropped
  | tooManyErrors
  | messageFailed
  | requestMalformed
  | requestFailed
  | managementReceived
  | decisionIgnored
  | statusReceived
  | statusUnreadable
  | turnstileMoved
  | statusUnexpected
  | listening
  | listenerFailed
  | connectionRefused
  | connectionClosing
  | readerConnected
  | readerIdle
  | readerFailed
  | readerDisconnected
  deriving DecidableEq

namespace Notice

def level : Notice → Level
  | .statusReceived => .debug
  | .rotationTimedOut | .requestProcessed | .managementReceived | .turnstileMoved | .listening
  | .readerConnected | .readerIdle | .readerDisconnected => .info
  | .staleRotationClosed | .bytesDiscarded | .frameDropped | .requestMalformed | .decisionIgnored
  | .statusUnreadable | .connectionRefused | .connectionClosing | .readerFailed => .warn
  | .validationFailed | .tooManyErrors | .messageFailed | .requestFailed | .statusUnexpected
  | .listenerFailed => .error

def wording : Notice → String
  | .staleRotationClosed => "Closed stale rotation before new access request"
  | .rotationTimedOut => "Rotation timed out without a status from the device"
  | .validationFailed => "Access validation failed"
  | .requestProcessed => "Processed access request"
  | .bytesDiscarded => "Discarded bytes outside a frame"
  | .frameDropped => "Dropped invalid frame"
  | .tooManyErrors => "Too many consecutive protocol errors"
  | .messageFailed => "Unhandled error processing turnstile message"
  | .requestMalformed => "Rejected malformed access request"
  | .requestFailed => "Access request failed"
  | .managementReceived => "Received management command"
  | .decisionIgnored => "Ignoring decision command sent by device"
  | .statusReceived => "Rotation status"
  | .statusUnreadable => "Rotation status with unreadable fields"
  | .turnstileMoved => "Turnstile transition"
  | .statusUnexpected => "Turnstile reported an unexpected status"
  | .listening => "Turnstile server listening"
  | .listenerFailed => "Turnstile server error"
  | .connectionRefused => "Connection limit reached, refusing reader"
  | .connectionClosing => "Closing reader connection"
  | .readerConnected => "Reader connected"
  | .readerIdle => "Reader idle, closing connection"
  | .readerFailed => "Reader socket error"
  | .readerDisconnected => "Reader disconnected"

def line (notice : Notice) : String :=
  notice.level.name ++ ": " ++ notice.wording

end Notice

end Gatehouse
