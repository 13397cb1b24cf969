import FramedTransport.Stream.Sender

/-!
A stream from its first address to its end.
A connection is unbound, bound, connected or closed, and never leaves the last
state. Every operation but closing is refused in a state it was not made for. A
connection is only as open as its less open half, and a cancelled one is closed
by its next transfer.
-/

namespace FramedTransport

inductive Connection.State where
  | unbound
  | bound (address : SocketAddress)
  | connected (address : SocketAddress) (receiver : Receiver) (sender : Sender)
  | closed
deriving DecidableEq, Repr

structure Connection where
  state : Connection.State := .unbound
  cancel : CancelToken
deriving DecidableEq, Repr

namespace Connection

def State.name : State → String
  | .unbound => "unbound"
  | .bound _ => "bound"
  | .connected .. => "connected"
  | .closed => "closed"

def isConnected (connection : Connection) : Bool :=
  match connection.state with
  | .connected .. => true
  | _ => false

def isClosed (connection : Connection) : Bool :=
  match connection.state with
  | .closed => true
  | _ => false

def address? (connection : Connection) : Option SocketAddress :=
  match connection.state with
  | .bound address => some address
  | .connected address .. => some address
  | _ => none

def remote? (connection : Connection) : Option SocketAddress :=
  match connection.state with
  | .connected _ receiver _ => some receiver.remote
  | _ => none

def refusal (expected : String) (connection : Connection) : TransportError :=
  .invalidState expected connection.state.name

def closed (connection : Connection) : Connection := { connection with state := .closed }

def establish (address remote : SocketAddress) (connection : Connection) : Connection :=
  let { cancel, .. } := connection
  { connection with state := .connected address { remote, cancel } { remote, cancel } }

def accepted (cancel : CancelToken) (address remote : SocketAddress) : Connection :=
  establish address remote { cancel }

def bind (wanted : SocketAddress) (bound : Except Fault SocketAddress) (connection : Connection) :
    Except TransportError Unit × Connection :=
  match connection.state with
  | .unbound =>
      match bound with
      | .ok address => (.ok (), { connection with state := .bound address })
      | .error fault => (.error (.bind wanted fault), connection)
  | _ => (.error (connection.refusal "unbound"), connection)

def listen (granted : Except Fault Unit) (connection : Connection) :
    Except TransportError SocketAddress :=
  match connection.state with
  | .bound address =>
      match granted with
      | .ok () => .ok address
      | .error fault => .error (.bind address fault)
  | _ => .error (connection.refusal "bound")

/-- Connects as the script of the socket has it. A failure leaves a fresh connection as it was
and closes one that had been bound. -/
def connect (remote : SocketAddress) (deadline : Option Duration)
    (dial : Script (Except Fault SocketAddress)) (connection : Connection) (exchange : Exchange) :
    Outcome Unit × Connection × Exchange :=
  let attempt (failed : Connection) : Outcome Unit × Connection × Exchange :=
    let (dialled, exchange) := exchange.await
      { operation := .connect, deadline, cancel := some connection.cancel } dial
    match Exchange.succeeded .connect dialled with
    | .ok address => (.ok (), connection.establish address remote, exchange)
    | .error halt => (.error halt, failed, exchange)
  match connection.state with
  | .unbound => attempt connection
  | .bound _ => attempt connection.closed
  | .connected .. | .closed =>
      (.error (.error (connection.refusal "unbound or bound")), connection, exchange)

/-- The connection after a transfer that left its halves like this. A broken invariant stops
the call before it looks at them. -/
def reconcile {α : Type} (outcome : Outcome α) (cancelled : Bool) (address : SocketAddress)
    (receiver : Receiver) (sender : Sender) (connection : Connection) : Connection :=
  let connection := { connection with state := .connected address receiver sender }
  match outcome with
  | .error (.abort _) => connection
  | _ => if receiver.isOpen && sender.isOpen && !cancelled then connection else connection.closed

def receiving (transfer : Receiver → Exchange → Outcome Delivery × Receiver × Exchange)
    (connection : Connection) (exchange : Exchange) : Outcome Delivery × Connection × Exchange :=
  match connection.state with
  | .connected address receiver sender =>
      let (outcome, receiver, exchange) := transfer receiver exchange
      (outcome, connection.reconcile outcome exchange.link.time.cancelled address receiver sender,
        exchange)
  | _ => (.error (.error (connection.refusal "connected")), connection, exchange)

def sending (transfer : Sender → Exchange → Outcome Delivery × Sender × Exchange)
    (connection : Connection) (exchange : Exchange) : Outcome Delivery × Connection × Exchange :=
  match connection.state with
  | .connected address receiver sender =>
      let (outcome, sender, exchange) := transfer sender exchange
      (outcome, connection.reconcile outcome exchange.link.time.cancelled address receiver sender,
        exchange)
  | _ => (.error (.error (connection.refusal "connected")), connection, exchange)

def send (payload : Bytes) (deadline : Option Duration) :
    Connection → Exchange → Outcome Delivery × Connection × Exchange :=
  sending (Sender.send payload deadline)

def sendFrame (payload : Bytes) (deadline : Option Duration) :
    Connection → Exchange → Outcome Delivery × Connection × Exchange :=
  sending (Sender.sendFrame payload deadline)

def receive (maxLength : Nat) (deadline : Option Duration) :
    Connection → Exchange → Outcome Delivery × Connection × Exchange :=
  receiving (Receiver.receive maxLength deadline)

def receiveFrame (deadline : Option Duration) :
    Connection → Exchange → Outcome Delivery × Connection × Exchange :=
  receiving (Receiver.receiveFrame deadline)

inductive Transfer where
  | send (payload : Bytes)
  | sendFrame (payload : Bytes)
  | receive (maxLength : Nat)
  | receiveFrame
deriving DecidableEq, Repr

def transfer (request : Transfer) (deadline : Option Duration) :
    Connection → Exchange → Outcome Delivery × Connection × Exchange :=
  match request with
  | .send payload => send payload deadline
  | .sendFrame payload => sendFrame payload deadline
  | .receive maxLength => receive maxLength deadline
  | .receiveFrame => receiveFrame deadline

/-- Ends the sending side; the connection is closed whatever comes of that. -/
def disconnect (deadline : Option Duration) (connection : Connection) (exchange : Exchange) :
    Outcome Unit × Connection × Exchange :=
  match connection.state with
  | .connected _ _ sender =>
      let (outcome, _, exchange) := sender.shutdown deadline exchange
      (outcome, connection.closed, exchange)
  | _ => (.error (.error (connection.refusal "connected")), connection, exchange)

/-- The halves of a connected stream, to be used on their own. -/
def split (connection : Connection) : Except TransportError (Receiver × Sender) :=
  match connection.state with
  | .connected _ receiver sender => .ok (receiver, sender)
  | _ => .error (connection.refusal "connected")

/-- Whether letting go of the connection cancels what still goes on under its token. -/
def cancelsWhenDropped (connection : Connection) : Bool := !connection.isClosed

end Connection

end FramedTransport
