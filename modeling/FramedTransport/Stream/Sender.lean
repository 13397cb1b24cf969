import FramedTransport.Stream.Receiver

/-!
The sending half of a stream.
A failed send closes it, except for a frame that was refused before any byte of
it could be sent and one that timed out before the socket took anything.
-/

namespace FramedTransport

structure Sender where
  remote : SocketAddress
  cancel : CancelToken
  isOpen : Bool := true
deriving DecidableEq, Repr

namespace Sender

def after (sender : Sender) (survives : Bool) : Sender :=
  { sender with isOpen := sender.isOpen && survives }

def send (payload : Bytes) (deadline : Option Duration) (sender : Sender) (exchange : Exchange) :
    Outcome Delivery × Sender × Exchange :=
  if sender.isOpen then
    match exchange.sendAll sender.cancel sender.remote payload deadline with
    | (.ok delivery, exchange) => (.ok delivery, sender, exchange)
    | (.error halt, exchange) =>
        let survives := match halt with
          | .error _ => false
          | .abort _ | .stalled => true
        (.error halt, sender.after survives, exchange)
  else
    (.error notOpen, sender, exchange)

def sendFrame (payload : Bytes) (deadline : Option Duration) (sender : Sender)
    (exchange : Exchange) : Outcome Delivery × Sender × Exchange :=
  if sender.isOpen then
    let settings := exchange.resources.settings
    let (buffer, resources) := exchange.resources.rentBuffer (FrameHeader.size + payload.length)
    let exchange := { exchange with resources }
    match Outgoing.encode buffer payload settings.maxFrameSize with
    | .error reason => (.error (.error reason), sender, exchange.giveBackBuffer buffer)
    | .ok frame =>
        match exchange.pushFrame sender.cancel deadline frame with
        | ((.error halt, frame), exchange) =>
            (.error halt, sender.after (halt.survivable frame.sent),
              exchange.giveBackBuffer frame.buffer)
        | ((.ok (), frame), exchange) =>
            match frame.release sender.remote with
            | .error reason =>
                (.error (.error reason), sender, exchange.giveBackBuffer frame.buffer)
            | .ok delivery => (.ok delivery, sender, exchange)
  else
    (.error notOpen, sender, exchange)

/-- The end of the stream; the half is closed before its socket is asked. -/
def shutdown (deadline : Option Duration) (sender : Sender) (exchange : Exchange) :
    Outcome Unit × Sender × Exchange :=
  if sender.isOpen then
    let signals : Signals := { operation := .disconnect, deadline, cancel := some sender.cancel }
    let (outcome, exchange) := exchange.withTicket signals .error fun watch ticket exchange =>
      let (ended, link) := exchange.link.shutdown watch
      ((ended, ticket), { exchange with link })
    (outcome, { sender with isOpen := false }, exchange)
  else
    (.error notOpen, sender, exchange)

end Sender

end FramedTransport
