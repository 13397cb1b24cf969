import FramedTransport.Stream.Connection
import Mathlib.Logic.Relation

/-!
The life of a connection.
Its owner makes any calls, one after the other; between them the socket, the pools
and the cancellation become whatever they may. Each call moves the connection along
one of a few edges or leaves it as it was, and no call opens a half again, so a
connected connection has both its halves open whenever no call is under way.
-/

namespace FramedTransport

/-! ### What a transfer does to its half -/

/-- A half is as it was before, or it has been closed by an operation that was not stopped by a
broken invariant. -/
def HalfAfter {α η : Type} (isOpen : η → Bool) (before after : η) (outcome : Outcome α) : Prop :=
  after = before ∨ isOpen after = false ∧ ∀ reason, outcome ≠ .error (.abort reason)

namespace Sender

theorem after_survived (sender : Sender) : sender.after true = sender := by
  simp [after]

theorem after_lost (sender : Sender) : (sender.after false).isOpen = false := by
  simp [after]

theorem after_spec {α : Type} (sender : Sender) (halt : Halt) (moved : Nat) :
    HalfAfter isOpen sender (sender.after (halt.survivable moved)) (.error halt : Outcome α) := by
  cases halt with
  | abort | stalled => exact .inl sender.after_survived
  | error reason =>
      cases survives : Halt.survivable (.error reason) moved with
      | true => exact .inl sender.after_survived
      | false => exact .inr ⟨sender.after_lost, nofun⟩

theorem send_half (payload : Bytes) (deadline : Option Duration) (sender : Sender)
    (exchange : Exchange) :
    HalfAfter isOpen sender (sender.send payload deadline exchange).2.1
      (sender.send payload deadline exchange).1 := by
  unfold send
  split
  · split
    · exact .inl rfl
    · rename_i halt after failed
      cases halt with
      | error reason => exact .inr ⟨sender.after_lost, nofun⟩
      | abort | stalled => exact .inl sender.after_survived
  · exact .inl rfl

theorem sendFrame_half (payload : Bytes) (deadline : Option Duration) (sender : Sender)
    (exchange : Exchange) :
    HalfAfter isOpen sender (sender.sendFrame payload deadline exchange).2.1
      (sender.sendFrame payload deadline exchange).1 := by
  unfold sendFrame
  dsimp only
  split
  · split
    · exact .inl rfl
    · split
      · exact after_spec _ _ _
      · split <;> exact .inl rfl
  · exact .inl rfl

end Sender

namespace Receiver

theorem after_spec {α : Type} (receiver : Receiver) (halt : Halt) (moved : Nat) :
    HalfAfter isOpen receiver (receiver.after halt moved) (.error halt : Outcome α) := by
  have survived (survives : halt.survivable moved = true) :
      receiver.after halt moved = receiver := by
    simp [after, survives]
  cases halt with
  | abort | stalled => exact .inl (survived rfl)
  | error reason =>
      cases survives : Halt.survivable (.error reason) moved with
      | true => exact .inl (survived survives)
      | false => exact .inr ⟨by simp [after, survives], nofun⟩

theorem receive_half (maxLength : Nat) (deadline : Option Duration) (receiver : Receiver)
    (exchange : Exchange) :
    HalfAfter isOpen receiver (receiver.receive maxLength deadline exchange).2.1
      (receiver.receive maxLength deadline exchange).1 := by
  unfold receive
  split
  · split
    · exact .inl rfl
    · exact after_spec _ _ _
  · exact .inl rfl

theorem receiveFrame_half (deadline : Option Duration) (receiver : Receiver)
    (exchange : Exchange) :
    HalfAfter isOpen receiver (receiver.receiveFrame deadline exchange).2.1
      (receiver.receiveFrame deadline exchange).1 := by
  unfold receiveFrame
  dsimp only
  split
  · split
    · exact after_spec _ _ _
    · split <;> exact .inl rfl
  · exact .inl rfl

end Receiver

namespace Connection

/-- Connects on a socket of its own, which the host may refuse to a fresh connection. -/
def dial (socket : Except Fault Unit) (remote : SocketAddress) (deadline : Option Duration)
    (script : Script (Except Fault SocketAddress)) (connection : Connection)
    (exchange : Exchange) : Outcome Unit × Connection × Exchange :=
  match connection.state, socket with
  | .unbound, .error fault => (.error (.error (.transport .connect fault)), connection, exchange)
  | _, _ => connection.connect remote deadline script exchange

/-- What the host says to an attempt to connect that is not refused. -/
def dialled (socket : Except Fault Unit) (deadline : Option Duration)
    (script : Script (Except Fault SocketAddress)) (connection : Connection)
    (exchange : Exchange) : Outcome SocketAddress :=
  match connection.state, socket with
  | .unbound, .error fault => .error (.error (.transport .connect fault))
  | _, _ =>
      Exchange.succeeded .connect (exchange.await
        { operation := .connect, deadline, cancel := some connection.cancel } script).1

def close (connection : Connection) (exchange : Exchange) : Connection × Exchange :=
  (connection.closed,
    { exchange with link := { exchange.link with time := exchange.link.time.cancel } })

/-- The two halves as a transfer on a connected stream leaves them. -/
def Transfer.halves (request : Transfer) (deadline : Option Duration) (receiver : Receiver)
    (sender : Sender) (exchange : Exchange) : Receiver × Sender :=
  match request with
  | .send payload => (receiver, (sender.send payload deadline exchange).2.1)
  | .sendFrame payload => (receiver, (sender.sendFrame payload deadline exchange).2.1)
  | .receive maxLength => ((receiver.receive maxLength deadline exchange).2.1, sender)
  | .receiveFrame => ((receiver.receiveFrame deadline exchange).2.1, sender)

inductive Call where
  | bind (wanted : SocketAddress) (bound : Except Fault SocketAddress)
  | connect (socket : Except Fault Unit) (remote : SocketAddress) (deadline : Option Duration)
      (script : Script (Except Fault SocketAddress))
  | disconnect (deadline : Option Duration)
  | close
  | transfer (request : Transfer) (deadline : Option Duration)

namespace Call

def perform (call : Call) (connection : Connection) (exchange : Exchange) :
    Outcome (Option Delivery) × Connection × Exchange :=
  match call with
  | .bind wanted bound =>
      let (outcome, connection) := connection.bind wanted bound
      ((outcome.mapError .error).map fun _ => none, connection, exchange)
  | .connect socket remote deadline script =>
      let (outcome, connection, exchange) :=
        connection.dial socket remote deadline script exchange
      (outcome.map fun _ => none, connection, exchange)
  | .disconnect deadline =>
      let (outcome, connection, exchange) := connection.disconnect deadline exchange
      (outcome.map fun _ => none, connection, exchange)
  | .close =>
      let (connection, exchange) := connection.close exchange
      (.ok none, connection, exchange)
  | .transfer request deadline =>
      let (outcome, connection, exchange) := connection.transfer request deadline exchange
      (outcome.map some, connection, exchange)

def Allowed : Call → State → Prop
  | .bind .., state => state = .unbound
  | .connect .., state => state = .unbound ∨ ∃ address, state = .bound address
  | .disconnect _, state | .transfer .., state =>
      ∃ address receiver sender, state = .connected address receiver sender
  | .close, _ => True

/-- The state that a call expects, as its refusal says. Closing is never refused. -/
def expects : Call → Option String
  | .bind .. => some "unbound"
  | .connect .. => some "unbound or bound"
  | .disconnect _ | .transfer .. => some "connected"
  | .close => none

end Call

/-- The ways from one state to another, by the calls that take them and what comes of these. Only a
call that is refused, that fails at an unbound connection, or that transfers may end where it
began. -/
inductive Edge : Call → Outcome (Option Delivery) → State → State → Prop
  | bound {wanted address : SocketAddress} :
      Edge (.bind wanted (.ok address)) (.ok none) .unbound (.bound address)
  | unbindable {wanted : SocketAddress} {fault : Fault} :
      Edge (.bind wanted (.error fault)) (.error (.error (.bind wanted fault))) .unbound .unbound
  | connected {socket : Except Fault Unit} {remote address : SocketAddress}
      {deadline : Option Duration} {script : Script (Except Fault SocketAddress)} {state : State}
      {cancel : CancelToken} (ready : state = .unbound ∨ ∃ address, state = .bound address) :
      Edge (.connect socket remote deadline script) (.ok none) state
        (.connected address { remote, cancel } { remote, cancel })
  | unreached {socket : Except Fault Unit} {remote : SocketAddress} {deadline : Option Duration}
      {script : Script (Except Fault SocketAddress)} {halt : Halt} :
      Edge (.connect socket remote deadline script) (.error halt) .unbound .unbound
  | lost {socket : Except Fault Unit} {remote address : SocketAddress} {deadline : Option Duration}
      {script : Script (Except Fault SocketAddress)} {halt : Halt} :
      Edge (.connect socket remote deadline script) (.error halt) (.bound address) .closed
  | disconnected {deadline : Option Duration} {outcome : Outcome (Option Delivery)}
      {address : SocketAddress} {receiver : Receiver} {sender : Sender} :
      Edge (.disconnect deadline) outcome (.connected address receiver sender) .closed
  | kept {request : Transfer} {deadline : Option Duration} {outcome : Outcome (Option Delivery)}
      {address : SocketAddress} {receiver : Receiver} {sender : Sender} :
      Edge (.transfer request deadline) outcome (.connected address receiver sender)
        (.connected address receiver sender)
  | broken {request : Transfer} {deadline : Option Duration} {outcome : Outcome (Option Delivery)}
      {address : SocketAddress} {receiver : Receiver} {sender : Sender} :
      Edge (.transfer request deadline) outcome (.connected address receiver sender) .closed
  | closed {state : State} : Edge .close (.ok none) state .closed
  | refused {call : Call} {state : State} {expected : String} (forbidden : ¬ call.Allowed state)
      (expects : call.expects = some expected) :
      Edge call (.error (.error (.invalidState expected state.name))) state state

variable {call : Call} {outcome : Outcome (Option Delivery)} {state next : State}

theorem Edge.whole (edge : Edge call outcome state next)
    (whole : ∀ address receiver sender, state = .connected address receiver sender →
      receiver.isOpen = true ∧ sender.isOpen = true)
    {address : SocketAddress} {receiver : Receiver} {sender : Sender}
    (connected : next = .connected address receiver sender) :
    receiver.isOpen = true ∧ sender.isOpen = true := by
  cases edge with
  | connected ready =>
      cases connected
      exact ⟨rfl, rfl⟩
  | kept | refused => exact whole _ _ _ connected
  | bound | unbindable | unreached | lost | disconnected | broken | closed => cases connected

theorem Edge.from_closed (edge : Edge call outcome .closed next) : next = .closed := by
  cases edge with
  | connected ready => simp at ready
  | closed | refused => rfl

theorem Edge.from_unbound {halt : Halt} (edge : Edge call (.error halt) .unbound next) :
    next = .unbound := by
  cases edge <;> rfl

def Whole (connection : Connection) : Prop :=
  ∀ address receiver sender, connection.state = .connected address receiver sender →
    receiver.isOpen = true ∧ sender.isOpen = true

/-- An operation has returned: it neither still waits nor was stopped by a broken invariant. -/
def Returned {α : Type} : Outcome α → Prop
  | .ok _ | .error (.error _) => True
  | .error (.abort _) | .error .stalled => False

variable {connection : Connection} {exchange : Exchange} {address : SocketAddress}
  {receiver : Receiver} {sender : Sender}

theorem transfer_connected (request : Transfer) (deadline : Option Duration)
    (connected : connection.state = .connected address receiver sender) :
    (connection.transfer request deadline exchange).2.1 =
      connection.reconcile (connection.transfer request deadline exchange).1
        (connection.transfer request deadline exchange).2.2.link.time.cancelled address
        (request.halves deadline receiver sender exchange).1
        (request.halves deadline receiver sender exchange).2 := by
  cases request <;>
    simp only [transfer, send, sendFrame, receive, receiveFrame, sending, receiving, connected,
      Transfer.halves]

theorem Transfer.halves_spec (request : Transfer) (deadline : Option Duration)
    (connected : connection.state = .connected address receiver sender) :
    request.halves deadline receiver sender exchange = (receiver, sender) ∨
      ((request.halves deadline receiver sender exchange).1.isOpen = false ∨
        (request.halves deadline receiver sender exchange).2.isOpen = false) ∧
      ∀ reason, (connection.transfer request deadline exchange).1 ≠ .error (.abort reason) := by
  cases request with
  | send payload =>
      simp only [transfer, Connection.send, sending, connected]
      rcases sender.send_half payload deadline exchange with same | ⟨shut, unbroken⟩
      · exact .inl (congrArg (receiver, ·) same)
      · exact .inr ⟨.inr shut, unbroken⟩
  | sendFrame payload =>
      simp only [transfer, Connection.sendFrame, sending, connected]
      rcases sender.sendFrame_half payload deadline exchange with same | ⟨shut, unbroken⟩
      · exact .inl (congrArg (receiver, ·) same)
      · exact .inr ⟨.inr shut, unbroken⟩
  | receive maxLength =>
      simp only [transfer, Connection.receive, receiving, connected]
      rcases receiver.receive_half maxLength deadline exchange with same | ⟨shut, unbroken⟩
      · exact .inl (congrArg (·, sender) same)
      · exact .inr ⟨.inl shut, unbroken⟩
  | receiveFrame =>
      simp only [transfer, Connection.receiveFrame, receiving, connected]
      rcases receiver.receiveFrame_half deadline exchange with same | ⟨shut, unbroken⟩
      · exact .inl (congrArg (·, sender) same)
      · exact .inr ⟨.inl shut, unbroken⟩

theorem transfer_refused (request : Transfer) (deadline : Option Duration)
    (elsewhere : ∀ address receiver sender, connection.state ≠ .connected address receiver sender) :
    connection.transfer request deadline exchange =
      (.error (.error (connection.refusal "connected")), connection, exchange) := by
  cases state : connection.state with
  | connected address receiver sender => exact absurd state (elsewhere _ _ _)
  | unbound | bound | closed =>
      cases request <;>
        simp only [transfer, send, sendFrame, receive, receiveFrame, sending, receiving, state]

theorem isConnected_reconcile {α : Type} {outcome : Outcome α} (returned : Returned outcome)
    (cancelled : Bool) (address : SocketAddress) (receiver : Receiver) (sender : Sender)
    (connection : Connection) :
    (connection.reconcile outcome cancelled address receiver sender).isConnected = true ↔
      receiver.isOpen = true ∧ sender.isOpen = true ∧ cancelled = false := by
  unfold reconcile
  cases receiver.isOpen <;> cases sender.isOpen <;> cases cancelled <;>
    rcases outcome with ⟨_ | _⟩ | _ <;> simp_all [Returned, isConnected, Connection.closed]

/-- A connected stream stays as it was under a transfer, or it is closed. -/
theorem transfer_moves (request : Transfer) (deadline : Option Duration) (exchange : Exchange)
    (connected : connection.state = .connected address receiver sender) :
    (connection.transfer request deadline exchange).2.1.state = connection.state ∨
      (connection.transfer request deadline exchange).2.1.state = .closed := by
  rw [transfer_connected request deadline connected]
  unfold reconcile
  rcases request.halves_spec deadline connected with same | ⟨shut, unbroken⟩
  · rw [same, connected]
    dsimp only
    split
    · exact .inl rfl
    · split
      · exact .inl rfl
      · exact .inr rfl
  · split
    -- A transfer that has closed a half was not stopped by a broken invariant.
    · rename_i reason broken
      exact absurd broken (unbroken reason)
    · rcases shut with shut | shut
      · exact .inr (by simp [shut, Connection.closed])
      · exact .inr (by simp [shut, Connection.closed])

/-! ### All calls -/

theorem Call.refused (call : Call) (connection : Connection) (exchange : Exchange)
    (forbidden : ¬ call.Allowed connection.state) :
    ∃ expected, call.expects = some expected ∧ call.perform connection exchange =
      (.error (.error (.invalidState expected connection.state.name)), connection, exchange) := by
  cases call with
  | bind wanted bound =>
      refine ⟨_, rfl, ?_⟩
      cases state : connection.state with
      | unbound => exact absurd state forbidden
      | bound | connected | closed =>
          simp only [perform, Connection.bind, state, refusal]
          rfl
  | connect socket remote deadline script =>
      refine ⟨_, rfl, ?_⟩
      cases state : connection.state with
      | unbound => exact absurd (.inl state) forbidden
      | bound address => exact absurd (.inr ⟨address, state⟩) forbidden
      | connected | closed =>
          simp only [perform, dial, Connection.connect, state, refusal]
          rfl
  | disconnect deadline =>
      refine ⟨_, rfl, ?_⟩
      cases state : connection.state with
      | connected address receiver sender =>
          exact absurd ⟨address, receiver, sender, state⟩ forbidden
      | unbound | bound | closed =>
          simp only [perform, Connection.disconnect, state, refusal]
          rfl
  | close => exact absurd trivial forbidden
  | transfer request deadline =>
      refine ⟨_, rfl, ?_⟩
      simp only [perform]
      rw [transfer_refused request deadline fun address receiver sender connected =>
        forbidden ⟨address, receiver, sender, connected⟩]
      rfl

theorem bind_edge (wanted : SocketAddress) (bound : Except Fault SocketAddress)
    (unbound : connection.state = .unbound) (exchange : Exchange) :
    Edge (.bind wanted bound) ((Call.bind wanted bound).perform connection exchange).1 .unbound
      ((Call.bind wanted bound).perform connection exchange).2.1.state := by
  cases bound with
  | ok address =>
      simp only [Call.perform, bind, unbound]
      exact .bound
  | error fault =>
      simp only [Call.perform, bind, unbound]
      exact .unbindable

/-- An attempt to connect that is not refused ends as the host says. The socket of a bound
connection is lost with a failure; an unbound one had none to lose. -/
theorem connect_allowed (socket : Except Fault Unit) (remote : SocketAddress)
    (deadline : Option Duration) (script : Script (Except Fault SocketAddress))
    (allowed : (Call.connect socket remote deadline script).Allowed connection.state)
    (exchange : Exchange) :
    let ended := (Call.connect socket remote deadline script).perform connection exchange
    (∀ address, connection.dialled socket deadline script exchange = .ok address →
        ended.1 = .ok none ∧ ended.2.1 = connection.establish address remote) ∧
      ∀ halt, connection.dialled socket deadline script exchange = .error halt →
        ended.1 = .error halt ∧
          ended.2.1 = if connection.state = .unbound then connection else connection.closed := by
  intro ended
  rcases allowed with unbound | ⟨address, bound⟩
  · cases socket with
    | error fault =>
        simp only [ended, Call.perform, dial, dialled, unbound]
        refine ⟨nofun, ?_⟩
        rintro halt ⟨⟩
        exact ⟨rfl, rfl⟩
    | ok granted =>
        simp only [ended, Call.perform, dial, dialled, connect, unbound]
        constructor <;> intro answer answered <;> simp [answered, Except.map]
  · simp only [ended, Call.perform, dial, dialled, connect, bound]
    constructor <;> intro answer answered <;> simp [answered, Except.map]

theorem connect_edge (socket : Except Fault Unit) (remote : SocketAddress)
    (deadline : Option Duration) (script : Script (Except Fault SocketAddress))
    (allowed : (Call.connect socket remote deadline script).Allowed connection.state)
    (exchange : Exchange) :
    Edge (.connect socket remote deadline script)
      ((Call.connect socket remote deadline script).perform connection exchange).1
      connection.state
      ((Call.connect socket remote deadline script).perform connection exchange).2.1.state := by
  obtain ⟨reached, failed⟩ := connect_allowed socket remote deadline script allowed exchange
  cases answer : connection.dialled socket deadline script exchange with
  | ok address =>
      obtain ⟨outcome, established⟩ := reached address answer
      rw [outcome, established]
      exact .connected allowed
  | error halt =>
      obtain ⟨outcome, left⟩ := failed halt answer
      rw [outcome, left]
      rcases allowed with unbound | ⟨address, bound⟩
      · rw [if_pos unbound, unbound]
        exact .unreached
      · rw [if_neg (by simp [bound]), bound]
        exact .lost

theorem disconnect_edge (deadline : Option Duration)
    (connected : connection.state = .connected address receiver sender) (exchange : Exchange) :
    Edge (.disconnect deadline) ((Call.disconnect deadline).perform connection exchange).1
      connection.state ((Call.disconnect deadline).perform connection exchange).2.1.state := by
  simp only [Call.perform, disconnect, connected]
  exact .disconnected

theorem transfer_edge (request : Transfer) (deadline : Option Duration)
    (connected : connection.state = .connected address receiver sender) (exchange : Exchange) :
    Edge (.transfer request deadline)
      ((Call.transfer request deadline).perform connection exchange).1 connection.state
      ((Call.transfer request deadline).perform connection exchange).2.1.state := by
  simp only [Call.perform]
  rcases transfer_moves request deadline exchange connected with same | shut
  · rw [same, connected]
    exact .kept
  · rw [shut, connected]
    exact .broken

theorem Call.edge (call : Call) (connection : Connection) (exchange : Exchange) :
    Edge call (call.perform connection exchange).1 connection.state
      (call.perform connection exchange).2.1.state := by
  by_cases allowed : call.Allowed connection.state
  · cases call with
    | bind wanted bound =>
        rw [show connection.state = .unbound from allowed]
        exact bind_edge wanted bound allowed exchange
    | connect socket remote deadline script =>
        exact connect_edge socket remote deadline script allowed exchange
    | disconnect deadline =>
        obtain ⟨address, receiver, sender, connected⟩ := allowed
        exact disconnect_edge deadline connected exchange
    | close => exact .closed
    | transfer request deadline =>
        obtain ⟨address, receiver, sender, connected⟩ := allowed
        exact transfer_edge request deadline connected exchange
  · obtain ⟨expected, expects, refused⟩ := call.refused connection exchange allowed
    rw [refused]
    exact .refused allowed expects

/-! ### Runs -/

/-- One call that comes to an end, or anything that happens around the connection meanwhile. -/
inductive Step : Connection × Exchange → Connection × Exchange → Prop
  | call {connection : Connection} {exchange : Exchange} (call : Call)
      (finished : (call.perform connection exchange).1 ≠ .error .stalled) :
      Step (connection, exchange) (call.perform connection exchange).2
  -- Others use the pools, the sockets behave in a new way, the token is cancelled: whatever happens
  -- outside, only the connection's own calls reach its state.
  | elsewhere {connection : Connection} {exchange later : Exchange} :
      Step (connection, exchange) (connection, later)

abbrev Run : Connection × Exchange → Connection × Exchange → Prop := Relation.ReflTransGen Step

variable {start last : Connection × Exchange}

theorem Whole.perform (whole : connection.Whole) (call : Call) (exchange : Exchange) :
    (call.perform connection exchange).2.1.Whole := by
  intro address receiver sender connected
  exact (call.edge connection exchange).whole whole connected

theorem Run.whole (run : Run start last) (whole : start.1.Whole) : last.1.Whole := by
  induction run with
  | refl => exact whole
  | tail earlier step ih =>
      cases step with
      | call call finished => exact ih.perform call _
      | elsewhere => exact ih

theorem Call.perform_closed (call : Call) (exchange : Exchange)
    (closed : connection.state = .closed) :
    (call.perform connection exchange).2.1.state = .closed := by
  have edge := call.edge connection exchange
  rw [closed] at edge
  exact edge.from_closed

theorem Run.closed (run : Run start last) (closed : start.1.state = .closed) :
    last.1.state = .closed := by
  induction run with
  | refl => exact closed
  | tail earlier step ih =>
      cases step with
      | call call finished => exact call.perform_closed _ ih
      | elsewhere => exact ih

theorem isConnected_transfer (request : Transfer) (deadline : Option Duration)
    (connection : Connection) (exchange : Exchange)
    (returned : Returned (connection.transfer request deadline exchange).1) :
    (connection.transfer request deadline exchange).2.1.isConnected = true ↔
      ∃ address receiver sender, connection.state = .connected address receiver sender ∧
        (request.halves deadline receiver sender exchange).1.isOpen = true ∧
        (request.halves deadline receiver sender exchange).2.isOpen = true ∧
        (connection.transfer request deadline exchange).2.2.link.time.cancelled = false := by
  by_cases known : ∃ address receiver sender,
      connection.state = .connected address receiver sender
  · obtain ⟨address, receiver, sender, connected⟩ := known
    rw [transfer_connected request deadline connected, isConnected_reconcile returned]
    constructor
    · exact fun law => ⟨address, receiver, sender, connected, law⟩
    · rintro ⟨_, _, _, same, law⟩
      cases connected.symm.trans same
      exact law
  · have elsewhere := fun address receiver sender connected =>
      known ⟨address, receiver, sender, connected⟩
    rw [transfer_refused request deadline elsewhere]
    constructor
    · intro connected
      unfold isConnected at connected
      split at connected
      · rename_i address receiver sender state
        exact absurd state (elsewhere address receiver sender)
      · cases connected
    · rintro ⟨address, receiver, sender, connected, -⟩
      exact absurd connected (elsewhere address receiver sender)

theorem Returned.of_map {α β : Type} {outcome : Outcome α} {change : α → β}
    (returned : Returned (outcome.map change)) : Returned outcome := by
  cases outcome with
  | ok value => trivial
  | error halt => cases halt <;> exact returned

theorem whole_start {start : Connection}
    (begun : (∃ cancel, start = { cancel }) ∨
      ∃ cancel address remote, start = accepted cancel address remote) : start.Whole := by
  intro address receiver sender connected
  rcases begun with ⟨cancel, rfl⟩ | ⟨cancel, address, remote, rfl⟩
  · cases connected
  · cases connected
    exact ⟨rfl, rfl⟩

/-- Every call on a connection, after any other calls and whatever has happened meanwhile, takes it
along an edge: from unbound to bound by a bind that the host grants, from either to connected by a
connect that the host lets through and from bound to closed by one that fails, from connected to
closed by a disconnect whatever comes of it, and to closed from anywhere by a close, which also
cancels what goes on under the token. A failure leaves an unbound connection unbound; a closed one
stays closed for good. A call that the state does not allow is refused with the name of the state
and touches nothing. Between calls a connected connection has both its halves open, and after a
transfer that has returned it is connected exactly if it was before, the transfer has left both
halves open, and the token is not cancelled. -/
theorem state_moves_along_edges {start : Connection} {first exchange : Exchange}
    {connection : Connection}
    (begun : (∃ cancel, start = { cancel }) ∨
      ∃ cancel address remote, start = accepted cancel address remote)
    (run : Run (start, first) (connection, exchange)) :
    connection.Whole ∧
    (connection.state = .closed → ∀ later after, Run (connection, exchange) (later, after) →
      later.state = .closed) ∧
    ∀ call : Call, ∀ outcome next after,
      call.perform connection exchange = (outcome, next, after) →
        Edge call outcome connection.state next.state ∧
        (connection.state = .unbound → ∀ halt, outcome = .error halt → next.state = .unbound) ∧
        (¬ call.Allowed connection.state →
          ∃ expected, call.expects = some expected ∧
            outcome = .error (.error (.invalidState expected connection.state.name)) ∧
              next = connection ∧ after = exchange) ∧
        (call = .close → next.state = .closed ∧ after.link.time.cancelled = true) ∧
        (∀ socket remote deadline script, call = .connect socket remote deadline script →
          call.Allowed connection.state →
            (∀ address, connection.dialled socket deadline script exchange = .ok address →
              outcome = .ok none ∧ next = connection.establish address remote) ∧
            ∀ halt, connection.dialled socket deadline script exchange = .error halt →
              outcome = .error halt) ∧
        ∀ request deadline, call = .transfer request deadline → Returned outcome →
          (next.isConnected = true ↔ ∃ address receiver sender,
            connection.state = .connected address receiver sender ∧
              (request.halves deadline receiver sender exchange).1.isOpen = true ∧
              (request.halves deadline receiver sender exchange).2.isOpen = true ∧
              after.link.time.cancelled = false) := by
  refine ⟨run.whole (whole_start begun), fun closed later after onward => onward.closed closed, ?_⟩
  intro call outcome next after performed
  have edge := call.edge connection exchange
  rw [performed] at edge
  refine ⟨edge, ?_, ?_, ?_, ?_, ?_⟩
  · rintro unbound halt rfl
    rw [unbound] at edge
    exact edge.from_unbound
  · intro forbidden
    obtain ⟨expected, expects, refused⟩ := call.refused connection exchange forbidden
    cases performed.symm.trans refused
    exact ⟨expected, expects, rfl, rfl, rfl⟩
  · rintro rfl
    cases performed
    exact ⟨rfl, rfl⟩
  · rintro socket remote deadline script rfl allowed
    have law := connect_allowed socket remote deadline script allowed exchange
    rw [performed] at law
    exact ⟨law.1, fun halt answered => (law.2 halt answered).1⟩
  · rintro request deadline rfl returned
    cases performed
    exact isConnected_transfer request deadline connection exchange (Returned.of_map returned)

/-- A fresh connection is bound, then closed, and then refuses to send. -/
theorem closed_refuses_to_send :
    let fresh : Connection := { cancel := ⟨[0]⟩ }
    let exchange : Exchange := { resources := Resources.ofSettings {}, link := {} }
    let granted : SocketAddress := ⟨IpAddress.loopback, 81, 0⟩
    ∃ bound closed after,
      (Call.bind ⟨IpAddress.loopback, 0, 0⟩ (.ok granted)).perform fresh exchange =
          (.ok none, bound, exchange) ∧
        bound.state = .bound granted ∧
        Call.close.perform bound exchange = (.ok none, closed, after) ∧
        closed.state = .closed ∧ after.link.time.cancelled = true ∧
        (Call.transfer (.send [1]) none).perform closed after =
          (.error (.error (.invalidState "connected" "closed")), closed, after) := by
  intro fresh exchange granted
  have begun : (∃ cancel, fresh = { cancel }) ∨
      ∃ cancel address remote, fresh = accepted cancel address remote := .inl ⟨_, rfl⟩
  have idle : Run (fresh, exchange) (fresh, exchange) := .refl
  have binding : Run (fresh, exchange)
      ((Call.bind ⟨IpAddress.loopback, 0, 0⟩ (.ok granted)).perform fresh exchange).2 :=
    idle.tail (.call _ nofun)
  have closing := binding.tail (.call .close nofun)
  refine ⟨_, _, _, rfl, ?_, rfl, ?_⟩
  · obtain ⟨-, -, law⟩ := state_moves_along_edges begun idle
    obtain ⟨edge, -⟩ := law (.bind ⟨IpAddress.loopback, 0, 0⟩ (.ok granted)) _ _ _ rfl
    cases edge with
    | bound => rfl
  · obtain ⟨-, -, law⟩ := state_moves_along_edges begun binding
    obtain ⟨-, -, -, closes, -⟩ := law .close _ _ _ rfl
    refine ⟨(closes rfl).1, (closes rfl).2, ?_⟩
    obtain ⟨-, -, law⟩ := state_moves_along_edges begun closing
    obtain ⟨-, -, refused, -⟩ := law (.transfer (.send [1]) none) _ _ _ rfl
    obtain ⟨expected, expects, outcome, next, after⟩ := refused (by rintro ⟨_, _, _, ⟨⟩⟩)
    cases expects
    exact Prod.ext outcome (Prod.ext next after)

end Connection

end FramedTransport
