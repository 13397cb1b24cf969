import FramedTransport.Frame
import FramedTransport.Progress

/-!
A frame while it arrives.
The reader offers a window of its buffer, the caller puts received bytes there
and reports how many; header, payload and dispatch follow from the counts. The
buffer grows by one chunk at a time, whatever length the header declares.
-/

namespace FramedTransport

inductive Incoming.Phase where
  | header (progress : Progress)
  | payload (header : FrameHeader) (progress : Progress)
  | dispatch (header : FrameHeader)
  | closed
deriving DecidableEq, Repr

structure Incoming where
  phase : Incoming.Phase
  buffer : Buffer
  maxPayload : Nat
  chunk : Nat
deriving DecidableEq, Repr

namespace Incoming

def leastChunk : Nat := 512

def Phase.name : Phase → String
  | .header _ => "awaiting header"
  | .payload .. => "awaiting data"
  | .dispatch _ => "dispatching"
  | .closed => "closed"

def Phase.fresh : Phase := .header (Progress.start FrameHeader.size)

def emptied (buffer : Buffer) : Buffer := buffer.clear.resize FrameHeader.size

def start (buffer : Buffer) (maxPayload : Nat) : Incoming where
  phase := .fresh
  buffer := emptied buffer
  maxPayload
  chunk := max buffer.capacity leastChunk

def buffered (frame : Incoming) : Nat :=
  match frame.phase with
  | .header progress => progress.transferred
  | .payload _ progress => FrameHeader.size + progress.transferred
  | .dispatch header => header.frameLength
  | .closed => 0

def wantsBytes (frame : Incoming) : Bool :=
  match frame.phase with
  | .header _ | .payload .. => true
  | .dispatch _ | .closed => false

def bounds (frame : Incoming) : Nat × Nat :=
  match frame.phase with
  | .header progress => (progress.transferred, FrameHeader.size)
  | .payload _ progress =>
      let start := FrameHeader.size + progress.transferred
      (start, start + min progress.remaining frame.chunk)
  | .dispatch _ | .closed => (0, 0)

/-- The reader with its window in the buffer. -/
def expose (frame : Incoming) : Incoming :=
  let stop := frame.bounds.2
  if frame.buffer.length < stop then { frame with buffer := frame.buffer.resize stop }
  else frame

def window (frame : Incoming) : Bytes :=
  frame.expose.buffer.slice frame.bounds.1 frame.bounds.2

def windowLength (frame : Incoming) : Nat := frame.bounds.2 - frame.bounds.1

def write (frame : Incoming) (received : Bytes) : Incoming :=
  let exposed := frame.expose
  { exposed with
    buffer := exposed.buffer.overwrite frame.bounds.1 (received.take frame.windowLength) }

def closeWith (frame : Incoming) (error : TransportError) : Incoming × Except TransportError Unit :=
  ({ frame with phase := .closed }, .error error)

def onHeader (frame : Incoming) : Incoming × Except TransportError Unit :=
  match FrameHeader.peek frame.buffer.bytes with
  | none => (frame, .error (.protocolViolation "header complete but not decodable"))
  | some header =>
      if frame.maxPayload < header.payloadLength then
        frame.closeWith (.frameTooLarge header.payloadLength frame.maxPayload)
      else if header.payloadLength = 0 then
        ({ frame with phase := .dispatch header }, .ok ())
      else
        ({ frame with phase := .payload header (Progress.start header.payloadLength) }, .ok ())

/-- Takes note of `count` received bytes. A refused count closes an awaiting reader. -/
def advance (frame : Incoming) (count : Nat) : Incoming × Except TransportError Unit :=
  match frame.phase with
  | .header progress =>
      match progress.advance count with
      | .error error => frame.closeWith error
      | .ok progress =>
          if progress.isComplete then frame.onHeader
          else ({ frame with phase := .header progress }, .ok ())
  | .payload header progress =>
      match progress.advance count with
      | .error error => frame.closeWith error
      | .ok progress =>
          let phase := if progress.isComplete then .dispatch header else .payload header progress
          let buffer := frame.buffer.truncate (FrameHeader.size + progress.transferred)
          ({ frame with phase, buffer }, .ok ())
  | .dispatch _ | .closed =>
      (frame, .error (.protocolViolation ("receive completed while " ++ frame.phase.name)))

def frame? (frame : Incoming) : Option (FrameHeader × Bytes) :=
  match frame.phase with
  | .dispatch header => some (header, frame.buffer.bytes.drop FrameHeader.size)
  | _ => none

def rearm (frame : Incoming) : Incoming × Except TransportError Unit :=
  match frame.phase with
  | .dispatch _ => ({ frame with phase := .fresh, buffer := emptied frame.buffer }, .ok ())
  | _ => (frame, .error (.protocolViolation ("rearm while " ++ frame.phase.name)))

def close (frame : Incoming) : Incoming := { frame with phase := .closed }

def release (frame : Incoming) : Except TransportError (FrameHeader × Buffer) :=
  match frame.phase with
  | .dispatch header => .ok (header, frame.buffer)
  | _ => .error (.protocolViolation ("frame taken while " ++ frame.phase.name))

/-- An upper bound of the bytes that the current frame may still take. -/
def missing (frame : Incoming) : Nat :=
  match frame.phase with
  | .header progress => UInt32.size + progress.remaining
  | .payload _ progress => progress.remaining
  | .dispatch _ | .closed => 0

theorem missing_onHeader (frame : Incoming) (accepted : frame.onHeader.2 = .ok ()) :
    frame.onHeader.1.missing < UInt32.size := by
  cases peeked : FrameHeader.peek frame.buffer.bytes with
  | none => simp [onHeader, peeked] at accepted
  | some header =>
      have bound := header.payloadLength_lt
      by_cases tooLarge : frame.maxPayload < header.payloadLength
      · simp [onHeader, peeked, tooLarge, closeWith] at accepted
      · by_cases empty : header.payloadLength = 0
        · simp [onHeader, peeked, empty, missing]
        · simpa [onHeader, peeked, tooLarge, empty, missing, Progress.remaining, Progress.start]
            using bound

/-- Every accepted count brings the end of the frame closer. -/
theorem missing_advance (frame : Incoming) (count : Nat)
    (accepted : (frame.advance count).2 = .ok ()) :
    (frame.advance count).1.missing < frame.missing := by
  cases phase : frame.phase with
  | header progress =>
      cases taken : progress.advance count with
      | error reason => simp [advance, phase, taken, closeWith] at accepted
      | ok next =>
          have step := Progress.advance_ok taken
          have kept := next.transferred_le
          cases complete : next.isComplete with
          | true =>
              simp only [advance, phase, taken, complete, if_true] at accepted ⊢
              have bound := missing_onHeader frame accepted
              simp only [missing, phase] at *
              omega
          | false =>
              simp only [advance, phase, taken, complete, missing, Progress.remaining]
              simp only [Progress.isComplete, beq_eq_false_iff_ne, ne_eq] at complete
              simp
              omega
  | payload header progress =>
      cases taken : progress.advance count with
      | error reason => simp [advance, phase, taken, closeWith] at accepted
      | ok next =>
          have step := Progress.advance_ok taken
          have kept := next.transferred_le
          cases complete : next.isComplete <;>
            simp [advance, phase, taken, complete, missing, Progress.remaining] <;> omega
  | dispatch header => simp [advance, phase] at accepted
  | closed => simp [advance, phase] at accepted

end Incoming

end FramedTransport
