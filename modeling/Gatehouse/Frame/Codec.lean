import Gatehouse.Fault.Document
import Gatehouse.Frame.Buffer
import Gatehouse.Message.Document

/-!
# Frames

A message travels as a start byte, its text, the digits of a check over that text, and an end
byte. A codec fixes the check and the greatest size of a frame.

`encode` writes a message, if its text is printable and the frame is not too large. `decode` takes
at most one frame off the front of a buffer. It drops bytes in front of a start byte, and it drops
what follows a start byte when another start byte comes before an end byte, since that frame was
cut short. Without an end byte the frame is still to come, unless it is already too large.
-/

namespace Gatehouse.Frame

def startByte : UInt8 := 0x02

def endByte : UInt8 := 0x03

structure Codec where
  check : Check
  maxSize : Number
  deriving DecidableEq

def defaultMaxSize : Number := .finite 65536

/-- What decoding found, with the number of bytes dropped on the way: no complete frame, a frame
with its message and size, or a frame that is refused. -/
inductive Decoded where
  | pending (skipped : Nat)
  | frame (message : Message) (size : Nat) (skipped : Nat)
  | failed (fault : Fault) (skipped : Nat)
  deriving DecidableEq

def isPrintable (byte : UInt8) : Bool :=
  0x20 ≤ byte && byte < 0x7f

def textBytes (text : String) : Bytes :=
  (Text.encodeUnits text).map fun unit => UInt8.ofNat (unit % 256)

def bytesText (bytes : Bytes) : String :=
  String.ofList (bytes.map fun byte => Char.ofNat byte.toNat)

theorem textBytes_append (front back : List Char) :
    textBytes (String.ofList (front ++ back)) =
      textBytes (String.ofList front) ++ textBytes (String.ofList back) := by
  simp only [textBytes, Text.encodeUnits, String.toList_ofList, List.flatMap_append,
    List.map_append]

theorem toList_bytesText_append (front back : Bytes) :
    (bytesText (front ++ back)).toList = (bytesText front).toList ++ (bytesText back).toList := by
  simp [bytesText]

namespace Codec

def exceeds (codec : Codec) (size : Nat) : Bool :=
  codec.maxSize.lt (.ofNat size)

def wrap (codec : Codec) (payload : Bytes) : Bytes :=
  startByte :: payload ++ codec.check.digits payload ++ [endByte]

def encode (codec : Codec) (message : Message) : Except Fault Bytes :=
  let payload := textBytes message.text
  if payload.all isPrintable then
    let frame := codec.wrap payload
    if codec.exceeds frame.length then .error (.frameTooLarge frame.length codec.maxSize)
    else .ok frame
  else .error (.message .unprintable)

def readBody (codec : Codec) (body : Bytes) : Except Fault Message :=
  let width := codec.check.width
  if body.length ≤ width then .error (.message (.emptyBody body.length))
  else
    let payload := body.take (body.length - width)
    let received := body.drop (body.length - width)
    if payload.all (· < 0x80) then
      let expected := codec.check.digits payload
      if expected = received then Message.read (bytesText payload)
      else .error (.checkMismatch (bytesText expected) (bytesText received))
    else .error (.message .notBasic)

def decodeBody (codec : Codec) (body : Bytes) (skipped : Nat) : Decoded :=
  match codec.readBody body with
  | .ok message => .frame message (body.length + 2) skipped
  | .error fault => .failed fault skipped

/-- Where a receiver stands: it looks for a start byte, or it has seen one and holds the bytes
after it, the latest first. -/
inductive Reception where
  | hunting
  | inside (held : Bytes)
  deriving DecidableEq

/-- The bytes after the last start byte when no end byte has come: they wait for more, unless there
are too many already. -/
def unfinished (codec : Codec) (skipped : Nat) (held : Bytes) : Decoded × Bytes :=
  if codec.exceeds (held.length + 1) then
    (.failed (.frameTooLarge (held.length + 1) codec.maxSize) skipped, [])
  else (.pending skipped, startByte :: held.reverse)

/-- The bytes between a start byte and an end byte, with what follows. After a frame that is too
large everything up to the next start byte is dropped. -/
def finished (codec : Codec) (skipped : Nat) (held rest : Bytes) : Decoded × Bytes :=
  if codec.exceeds (held.length + 2) then
    (.failed (.frameTooLarge (held.length + 2) codec.maxSize) skipped,
      rest.dropWhile (· != startByte))
  else (codec.decodeBody held.reverse skipped, rest)

def receive (codec : Codec) (skipped : Nat) : Reception → Bytes → Decoded × Bytes
  | .hunting, [] => (.pending skipped, [])
  | .hunting, byte :: rest =>
      if byte = startByte then codec.receive skipped (.inside []) rest
      else codec.receive (skipped + 1) .hunting rest
  | .inside held, [] => codec.unfinished skipped held
  | .inside held, byte :: rest =>
      if byte = startByte then codec.receive (skipped + 1 + held.length) (.inside []) rest
      else if byte = endByte then codec.finished skipped held rest
      else codec.receive skipped (.inside (byte :: held)) rest

def decode (codec : Codec) (buffer : Buffer) : Decoded × Buffer :=
  let (decoded, left) := codec.receive 0 .hunting buffer.bytes
  (decoded, ⟨left⟩)

/-- Decodes until the buffer holds no complete frame, at most a number of times. -/
def drainWithin (codec : Codec) : Nat → Buffer → List Decoded × Buffer
  | 0, buffer => ([], buffer)
  | budget + 1, buffer =>
      match codec.decode buffer with
      | (.pending skipped, left) => ([.pending skipped], left)
      | (decoded, left) =>
          let (more, last) := codec.drainWithin budget left
          (decoded :: more, last)

/-- Decodes until the buffer holds no complete frame. Each step before the last takes at least one
byte, so the length of the buffer bounds their number. -/
def drain (codec : Codec) (buffer : Buffer) : List Decoded × Buffer :=
  codec.drainWithin (buffer.size + 1) buffer

end Codec

def Codec.ofDocument (document : Json) : Except Fault Codec := do
  let check ← Check.named ((document.textAt? "check").getD Check.xor8.name)
  return { check := check, maxSize := document.numberAt "maxFrameSize" defaultMaxSize }

namespace Decoded

def skipped : Decoded → Nat
  | .pending skipped | .frame _ _ skipped | .failed _ skipped => skipped

def members (kind : Fault → String) : Decoded → List (String × Json)
  | .pending _ => [("kind", .text "pending")]
  | .frame message size _ =>
      [("kind", .text "frame"), ("size", .count size), ("message", message.document)]
  | .failed fault _ => [("kind", .text "error"), ("error", .object (fault.members kind))]

def document (kind : Fault → String) (decoded : Decoded) : Json :=
  .object (("skipped", .count decoded.skipped) :: decoded.members kind)

end Decoded

example : ((Codec.mk .xor8 defaultMaxSize).encode ⟨⟨1, by decide⟩, .queryStatus, []⟩).toOption =
    some [2, 0x30, 0x31, 0x2b, 0x52, 0x45, 0x4f, 0x4e, 0x2b, 0x52, 0x51, 0x31, 0x34, 3] := by
  decide +kernel

end Gatehouse.Frame
