import FramedTransport.Stream.Exchange

/-!
The receiving half of a stream.
It stays open only as long as no byte can have been lost: a failed receive
closes it, unless it timed out before it had taken anything.
-/

namespace FramedTransport

structure Receiver where
  remote : SocketAddress
  cancel : CancelToken
  isOpen : Bool := true
deriving DecidableEq, Repr

/-- Whether a half is as good as before after an operation that moved `moved` bytes.
A broken invariant stops the call before it can close the half. -/
def Halt.survivable (halt : Halt) (moved : Nat) : Bool :=
  match halt with
  | .error reason => reason.isRecoverable && moved == 0
  | .abort _ | .stalled => true

def notOpen : Halt := .error (.invalidState "connected" "closed")

namespace Receiver

def after (receiver : Receiver) (halt : Halt) (moved : Nat) : Receiver :=
  { receiver with isOpen := receiver.isOpen && halt.survivable moved }

def receive (maxLength : Nat) (deadline : Option Duration) (receiver : Receiver)
    (exchange : Exchange) : Outcome Delivery × Receiver × Exchange :=
  if receiver.isOpen then
    match exchange.receiveSome receiver.cancel receiver.remote maxLength deadline with
    | (.ok delivery, exchange) => (.ok delivery, receiver, exchange)
    | (.error halt, exchange) => (.error halt, receiver.after halt 0, exchange)
  else
    (.error notOpen, receiver, exchange)

def receiveFrame (deadline : Option Duration) (receiver : Receiver) (exchange : Exchange) :
    Outcome Delivery × Receiver × Exchange :=
  if receiver.isOpen then
    let settings := exchange.resources.settings
    let (buffer, resources) := exchange.resources.rentBuffer settings.bufferCapacity
    let empty := Incoming.start buffer settings.maxFrameSize
    match { exchange with resources }.fillFrame receiver.cancel deadline empty with
    | ((.error halt, frame), exchange) =>
        (.error halt, receiver.after halt frame.buffered, exchange.giveBackBuffer frame.buffer)
    | ((.ok (), frame), exchange) =>
        match frame.release with
        | .error reason =>
            (.error (.error reason), receiver, exchange.giveBackBuffer frame.buffer)
        | .ok (header, buffer) =>
            let delivery : Delivery :=
              { buffer, start := FrameHeader.size, stop := header.frameLength
                transferred := header.frameLength, remote := receiver.remote }
            (.ok delivery, receiver, exchange)
  else
    (.error notOpen, receiver, exchange)

end Receiver

end FramedTransport
