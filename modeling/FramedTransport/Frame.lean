import FramedTransport.Buffer
import FramedTransport.Error

/-!
Frames on the wire: four bytes of payload length, most significant first, then
the payload. A byte string is a frame exactly if its length field accounts for
every byte after the field.
-/

namespace FramedTransport

structure FrameHeader where
  payloadLength : Nat
  payloadLength_lt : payloadLength < UInt32.size
deriving DecidableEq, Repr

namespace FrameHeader

def size : Nat := 4

def greatestPayload : Nat := UInt32.size - 1

def frameLength (header : FrameHeader) : Nat := size + header.payloadLength

def forPayload (length : Nat) : Except TransportError FrameHeader :=
  if fits : length < UInt32.size then .ok ⟨length, fits⟩
  else .error (.frameTooLarge length greatestPayload)

def wire (header : FrameHeader) : Bytes := Bytes.bigEndian size header.payloadLength

def peek (bytes : Bytes) : Option FrameHeader :=
  if enough : size ≤ bytes.length then
    some
      { payloadLength := Bytes.number (bytes.take size)
        payloadLength_lt := by
          have bound := Bytes.number_lt (bytes.take size)
          rw [List.length_take, Nat.min_eq_left enough] at bound
          exact bound }
  else none

end FrameHeader

namespace Frame

/-- The frame of a payload, appended to what the buffer holds. -/
def encodeOnto (buffer : Buffer) (payload : Bytes) : Except TransportError (FrameHeader × Buffer) := do
  let header ← FrameHeader.forPayload payload.length
  let roomy := buffer.reserve header.frameLength
  return (header, { roomy with bytes := roomy.bytes ++ (header.wire ++ payload) })

def decode (bytes : Bytes) : Except TransportError (FrameHeader × Bytes) :=
  match FrameHeader.peek bytes with
  | none => .error (.malformedFrame "shorter than header")
  | some header =>
      if bytes.length = header.frameLength then .ok (header, bytes.drop FrameHeader.size)
      else .error (.malformedFrame "length field does not match frame size")

end Frame

end FramedTransport
