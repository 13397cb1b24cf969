import FramedTransport.Address
import FramedTransport.Duration

/-!
The ways in which an operation ends without a result.
`TransportError` is what callers are told; `Abort` is a broken invariant that
stops the call; a call that waits for something that never comes is `stalled`.
-/

namespace FramedTransport

inductive Operation where
  | accept
  | connect
  | disconnect
  | send
  | receive
deriving DecidableEq, Repr

def Operation.name : Operation → String
  | .accept => "accept"
  | .connect => "connect"
  | .disconnect => "disconnect"
  | .send => "send"
  | .receive => "receive"

def Operation.all : List Operation := [.accept, .connect, .disconnect, .send, .receive]

def Operation.ofName? (name : String) : Option Operation :=
  Operation.all.find? fun operation => operation.name = name

inductive FaultKind where
  | timedOut
  | connectionReset
  | connectionRefused
  | brokenPipe
  | unexpectedEnd
  | interrupted
  | wouldBlock
  | addressInUse
  | networkUnreachable
  | writeZero
  | other
deriving DecidableEq, Repr

def FaultKind.name : FaultKind → String
  | .timedOut => "TimedOut"
  | .connectionReset => "ConnectionReset"
  | .connectionRefused => "ConnectionRefused"
  | .brokenPipe => "BrokenPipe"
  | .unexpectedEnd => "UnexpectedEof"
  | .interrupted => "Interrupted"
  | .wouldBlock => "WouldBlock"
  | .addressInUse => "AddrInUse"
  | .networkUnreachable => "NetworkUnreachable"
  | .writeZero => "WriteZero"
  | .other => "Other"

def FaultKind.all : List FaultKind :=
  [.timedOut, .connectionReset, .connectionRefused, .brokenPipe, .unexpectedEnd, .interrupted,
    .wouldBlock, .addressInUse, .networkUnreachable, .writeZero, .other]

def FaultKind.ofName (name : String) : FaultKind :=
  (FaultKind.all.find? fun kind => kind.name = name).getD .other

structure Fault where
  kind : FaultKind
  text : String
deriving DecidableEq, Repr

inductive TransportError where
  | timeout (operation : Operation) (after : Duration)
  | connectionClosed
  | transport (operation : Operation) (source : Fault)
  | bind (address : SocketAddress) (source : Fault)
  | cancelled (operation : Operation)
  | frameTooLarge (length limit : Nat)
  | datagramTooLarge (size limit : Nat)
  | malformedFrame (reason : String)
  | unsupportedFlags
  | invalidState (expected actual : String)
  | protocolViolation (detail : String)
deriving DecidableEq, Repr

namespace TransportError

def name : TransportError → String
  | .timeout .. => "Timeout"
  | .connectionClosed => "ConnectionClosed"
  | .transport .. => "Transport"
  | .bind .. => "Bind"
  | .cancelled _ => "Cancelled"
  | .frameTooLarge .. => "FrameTooLarge"
  | .datagramTooLarge .. => "DatagramTooLarge"
  | .malformedFrame _ => "MalformedFrame"
  | .unsupportedFlags => "UnsupportedFlags"
  | .invalidState .. => "InvalidState"
  | .protocolViolation _ => "ProtocolViolation"

def message : TransportError → String
  | .timeout operation after => operation.name ++ " timed out after " ++ after.describe
  | .connectionClosed => "connection closed by peer"
  | .transport operation source => operation.name ++ " failed: " ++ source.text
  | .bind address source => "bind to " ++ address.text ++ " failed: " ++ source.text
  | .cancelled operation => operation.name ++ " cancelled"
  | .frameTooLarge length limit =>
      s!"frame payload of {length} bytes exceeds the {limit} byte limit"
  | .datagramTooLarge size limit => s!"datagram of {size} bytes exceeds the {limit} byte limit"
  | .malformedFrame reason => "malformed frame: " ++ reason
  | .unsupportedFlags => "message flags not supported for this operation"
  | .invalidState expected actual => s!"connection is {actual}, expected {expected}"
  | .protocolViolation detail => "protocol violation: " ++ detail

/-- Only a broken protocol of the engine itself is fatal. -/
def isFatal : TransportError → Bool
  | .protocolViolation _ => true
  | _ => false

/-- Only after a timeout may the same operation be tried again. -/
def isRecoverable : TransportError → Bool
  | .timeout .. => true
  | _ => false

end TransportError

inductive Abort where
  | ticketArmedTwice
  | deadlineOverflow
  | durationOverflow
deriving DecidableEq, Repr

def Abort.message : Abort → String
  | .ticketArmedTwice => "token armed twice"
  | .deadlineOverflow => "overflow when adding duration to instant"
  | .durationOverflow => "overflow in Duration::new"

inductive Halt where
  | error (error : TransportError)
  | abort (reason : Abort)
  | stalled
deriving DecidableEq, Repr

abbrev Outcome (α : Type) := Except Halt α

end FramedTransport
