import FramedTransport.Frame
import FramedTransport.Frame.Delivery
import FramedTransport.Progress

/-!
A frame while it leaves: the whole frame in one buffer and how much of it has
been sent.
-/

namespace FramedTransport

structure Outgoing where
  buffer : Buffer
  progress : Progress
deriving DecidableEq, Repr

namespace Outgoing

def encode (buffer : Buffer) (payload : Bytes) (maxPayload : Nat) :
    Except TransportError Outgoing :=
  if maxPayload < payload.length then
    .error (.frameTooLarge payload.length maxPayload)
  else do
    let (header, buffer) ← Frame.encodeOnto buffer.clear payload
    return { buffer, progress := Progress.start header.frameLength }

def frameLength (frame : Outgoing) : Nat := frame.progress.expected

def sent (frame : Outgoing) : Nat := frame.progress.transferred

def isComplete (frame : Outgoing) : Bool := frame.progress.isComplete

def pending (frame : Outgoing) : Bytes := frame.buffer.bytes.drop frame.sent

def advance (frame : Outgoing) (count : Nat) : Except TransportError Outgoing := do
  let progress ← frame.progress.advance count
  return { frame with progress }

/-- The sent frame as a result; only a complete one is released. -/
def release (frame : Outgoing) (remote : SocketAddress) : Except TransportError Delivery :=
  if frame.isComplete then
    let stop := frame.buffer.length
    .ok { buffer := frame.buffer, start := FrameHeader.size, stop, transferred := stop, remote }
  else
    .error (.protocolViolation
      s!"frame released after {frame.progress.transferred} of {frame.progress.expected} bytes")

end Outgoing

end FramedTransport
