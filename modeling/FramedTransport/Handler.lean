import FramedTransport.Frame

/-!
What a frame asks of its handler.
A handler may change a state `σ` of its own and may stay silent.
-/

namespace FramedTransport

structure Request where
  remote : SocketAddress
  header : FrameHeader
  payload : Bytes
deriving DecidableEq, Repr

abbrev Handler (σ : Type) := Request → σ → Option Bytes × σ

end FramedTransport
