import FramedTransport.Bytes

/-!
Growable byte buffers whose capacity is part of the state.
A buffer that needs more room at least doubles; clearing and truncating keep
what has been reserved, so a recycled buffer serves larger contents for free.
-/

namespace FramedTransport

structure Buffer where
  bytes : Bytes := []
  capacity : Nat := 0
deriving DecidableEq, Repr, Inhabited

namespace Buffer

def leastCapacity : Nat := 8

def ofCapacity (capacity : Nat) : Buffer := { capacity }

def length (buffer : Buffer) : Nat := buffer.bytes.length

def reserve (buffer : Buffer) (additional : Nat) : Buffer :=
  let needed := buffer.length + additional
  if needed ≤ buffer.capacity then buffer
  else { buffer with capacity := max (2 * buffer.capacity) (max needed leastCapacity) }

def append (buffer : Buffer) (more : Bytes) : Buffer :=
  let roomy := buffer.reserve more.length
  { roomy with bytes := roomy.bytes ++ more }

def clear (buffer : Buffer) : Buffer := { buffer with bytes := [] }

def truncate (buffer : Buffer) (count : Nat) : Buffer :=
  { buffer with bytes := buffer.bytes.take count }

/-- Exactly `count` bytes, cut off or filled up with zeros. -/
def resize (buffer : Buffer) (count : Nat) : Buffer :=
  if count ≤ buffer.length then buffer.truncate count
  else buffer.append (Bytes.zeros (count - buffer.length))

def slice (buffer : Buffer) (start stop : Nat) : Bytes :=
  (buffer.bytes.drop start).take (stop - start)

/-- `more` written over the bytes from `start` on; the length does not change. -/
def overwrite (buffer : Buffer) (start : Nat) (more : Bytes) : Buffer :=
  let written := more.take (buffer.length - start)
  { buffer with
    bytes := buffer.bytes.take start ++ written ++ buffer.bytes.drop (start + written.length) }

end Buffer

end FramedTransport
