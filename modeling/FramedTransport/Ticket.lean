import FramedTransport.Buffer
import FramedTransport.Cancellation
import FramedTransport.Error

/-!
Tickets of running operations.
A ticket is armed once with the signals of its operation and may carry one
buffer; both leave it when it is cleared.
-/

namespace FramedTransport

/-- What a waiting operation listens to besides its socket. -/
structure Signals where
  operation : Operation
  deadline : Option Duration := none
  cancel : Option CancelToken := none
deriving DecidableEq, Repr

structure Ticket where
  armed : Option Signals := none
  lease : Option Buffer := none
deriving DecidableEq, Repr

namespace Ticket

def arm (ticket : Ticket) (signals : Signals) : Except Abort Ticket :=
  match ticket.armed with
  | none => .ok { ticket with armed := some signals }
  | some _ => .error .ticketArmedTwice

def operation (ticket : Ticket) : Option Operation := ticket.armed.map (·.operation)

def signals (ticket : Ticket) : Except TransportError Signals :=
  match ticket.armed with
  | some signals => .ok signals
  | none => .error (.protocolViolation "signals requested from unarmed token")

def isCancelled (ticket : Ticket) (cancellations : Cancellations) : Bool :=
  match ticket.armed.bind (·.cancel) with
  | some token => cancellations.isCancelled token
  | none => false

/-- A ticket that carries a buffer takes no second one. -/
def attach (ticket : Ticket) (buffer : Buffer) : Except TransportError Ticket :=
  match ticket.lease with
  | none => .ok { ticket with lease := some buffer }
  | some _ => .error (.protocolViolation "token already carries a buffer lease")

def detach (ticket : Ticket) : Option Buffer × Ticket :=
  (ticket.lease, { ticket with lease := none })

def carried (ticket : Ticket) : Except TransportError Buffer :=
  match ticket.lease with
  | some buffer => .ok buffer
  | none => .error (.protocolViolation "token carries no buffer lease")

/-- What the operation of an armed ticket works with: its signals and its buffer. -/
def equipment (ticket : Ticket) : Except TransportError (Signals × Buffer) := do
  let signals ← ticket.signals
  let buffer ← ticket.carried
  return (signals, buffer)

def changeLease (ticket : Ticket) (change : Buffer → Buffer) : Ticket :=
  { ticket with lease := ticket.lease.map change }

end Ticket

end FramedTransport
