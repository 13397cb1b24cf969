import FramedTransport.Datagram.Link
import FramedTransport.Frame
import FramedTransport.Frame.Delivery
import FramedTransport.Resources

/-!
Frames as datagrams, one frame in each.
A send is judged before it touches anything, and then sends its frame whole or
not at all. A receive has room for one byte more than a datagram may have, so one
that is too long is told from one that just fits.
-/

namespace FramedTransport

structure DatagramExchange where
  resources : Resources
  link : DatagramLink

structure Endpoint where
  address : SocketAddress
  cancel : CancelToken
deriving DecidableEq, Repr

namespace Endpoint

variable {α : Type}

def watchOf (signals : Signals) (link : DatagramLink) : Watch where
  operation := signals.operation
  deadline := signals.deadline
  cancellable := signals.cancel.isSome
  since := link.time.now

def finish (outcome : Outcome α) (ticket : Ticket) (exchange : DatagramExchange) :
    Outcome α × DatagramExchange :=
  (outcome, { exchange with resources := exchange.resources.giveBackTicket ticket })

def deliver (ticket : Ticket) (remote : SocketAddress) (size : Nat) (lost : String)
    (exchange : DatagramExchange) : Outcome Delivery × DatagramExchange :=
  match ticket.detach with
  | (none, ticket) => finish (.error (.error (.protocolViolation lost))) ticket exchange
  | (some buffer, ticket) =>
      finish (.ok { buffer, start := FrameHeader.size, stop := size, transferred := size, remote })
        ticket exchange

def truncated (sent size : Nat) : TransportError :=
  .transport .send ⟨.writeZero, s!"datagram truncated to {sent} of {size} bytes"⟩

def sendCarried (remote : SocketAddress) (ticket : Ticket) (exchange : DatagramExchange) :
    Outcome Delivery × DatagramExchange :=
  match ticket.equipment with
  | .error reason => finish (.error (.error reason)) ticket exchange
  | .ok (signals, frame) =>
      let size := frame.length
      let watch := watchOf signals exchange.link
      match exchange.link.send watch ⟨frame.bytes, remote⟩ with
      | (.error halt, link) => finish (.error halt) ticket { exchange with link }
      | (.ok sent, link) =>
          if sent = size then
            deliver ticket remote size "datagram send lost its buffer" { exchange with link }
          else
            finish (.error (.error (truncated sent size))) ticket { exchange with link }

/-- One datagram with the frame of `payload`. There is no peeking at what one sends. -/
def sendTo (remote : SocketAddress) (payload : Bytes) (peek : Bool) (deadline : Option Duration)
    (endpoint : Endpoint) (exchange : DatagramExchange) : Outcome Delivery × DatagramExchange :=
  let size := FrameHeader.size + payload.length
  let limit := exchange.resources.settings.maxDatagramSize
  if peek then (.error (.error .unsupportedFlags), exchange)
  else if limit < size then (.error (.error (.datagramTooLarge size limit)), exchange)
  else
    let signals : Signals := { operation := .send, deadline, cancel := some endpoint.cancel }
    match exchange.resources.rentTicket signals with
    | (.error reason, resources) => (.error (.abort reason), { exchange with resources })
    | (.ok ticket, resources) =>
        let (buffer, resources) := resources.rentBuffer size
        let exchange := { exchange with resources }
        let returned : DatagramExchange :=
          { exchange with resources := resources.giveBackBuffer buffer }
        match Frame.encodeOnto buffer payload with
        | .error reason => finish (.error (.error reason)) ticket returned
        | .ok (_, frame) =>
            match ticket.attach frame with
            | .error reason => finish (.error (.error reason)) ticket returned
            | .ok ticket => sendCarried remote ticket exchange

def receiveSignals (deadline : Option Duration) (endpoint : Endpoint) : Signals :=
  { operation := .receive, deadline, cancel := some endpoint.cancel }

def armReceive (deadline : Option Duration) (endpoint : Endpoint) (resources : Resources) :
    Outcome Ticket × Resources :=
  match resources.rentTicket (endpoint.receiveSignals deadline) with
  | (.error reason, resources) => (.error (.abort reason), resources)
  | (.ok ticket, resources) =>
      let (buffer, resources) := resources.rentFilled (resources.settings.maxDatagramSize + 1)
      match ticket.attach buffer with
      | .error reason =>
          (.error (.error reason), (resources.giveBackBuffer buffer).giveBackTicket ticket)
      | .ok ticket => (.ok ticket, resources)

def judge (limit : Nat) (bytes : Bytes) : Except TransportError Unit :=
  if limit < bytes.length then .error (.datagramTooLarge bytes.length limit)
  else (Frame.decode bytes).map fun _ => ()

/-- The outcome of a receive whose ticket has met a datagram. -/
def settle (datagram : Datagram) (ticket : Ticket) (exchange : DatagramExchange) :
    Outcome Delivery × DatagramExchange :=
  let filled := ticket.changeLease fun buffer => buffer.overwrite 0 datagram.bytes
  match judge exchange.resources.settings.maxDatagramSize datagram.bytes with
  | .error reason => finish (.error (.error reason)) filled exchange
  | .ok () =>
      deliver filled datagram.remote datagram.bytes.length "datagram receive lost its buffer" exchange

def receiveArmed (peek : Bool) (ticket : Ticket) (exchange : DatagramExchange) :
    Outcome Delivery × DatagramExchange :=
  match ticket.equipment with
  | .error reason => finish (.error (.error reason)) ticket exchange
  | .ok (signals, buffer) =>
      match exchange.link.receive (watchOf signals exchange.link) buffer.length peek with
      | (.error halt, link) => finish (.error halt) ticket { exchange with link }
      | (.ok datagram, link) => settle datagram ticket { exchange with link }

/-- The next datagram, if it is one whole frame within the limit. -/
def receiveFrom (peek : Bool) (deadline : Option Duration) (endpoint : Endpoint)
    (exchange : DatagramExchange) : Outcome Delivery × DatagramExchange :=
  match endpoint.armReceive deadline exchange.resources with
  | (.error halt, resources) => (.error halt, { exchange with resources })
  | (.ok ticket, resources) => receiveArmed peek ticket { exchange with resources }

end Endpoint

end FramedTransport
