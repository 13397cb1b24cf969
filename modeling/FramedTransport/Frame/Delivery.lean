import FramedTransport.Buffer
import FramedTransport.Address

/-!
The result of a transfer: the buffer it used and the part of it that is payload.
-/

namespace FramedTransport

structure Delivery where
  buffer : Buffer
  start : Nat
  stop : Nat
  transferred : Nat
  remote : SocketAddress
deriving DecidableEq, Repr

def Delivery.payload (delivery : Delivery) : Bytes :=
  delivery.buffer.slice delivery.start delivery.stop

end FramedTransport
