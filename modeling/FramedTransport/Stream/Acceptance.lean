import FramedTransport.Stream.Connection

/-!
Accepting connections, one at a time or in a loop.
The loop serves each accepted connection by a session of its own. With a limit
it takes a permit before it accepts; the session then holds the permit until it
ends, in whatever way. A loop that has seen its shutdown accepts nothing more.
-/

namespace FramedTransport

structure Listener where
  address : SocketAddress
  cancel : CancelToken
deriving DecidableEq, Repr

def Listener.accept (deadline : Option Duration) (arrivals : Script (Except Fault SocketAddress))
    (listener : Listener) (exchange : Exchange) : Outcome SocketAddress × Exchange :=
  let (accepted, exchange) := exchange.await
    { operation := .accept, deadline, cancel := some listener.cancel } arrivals
  (Exchange.succeeded .accept accepted, exchange)

inductive AcceptLoop.Phase where
  | waiting
  | accepting (ticket : Ticket)
  | stopped (result : Except TransportError Unit)

/-- A session that runs, known by its token, with its remote address. -/
structure AcceptLoop.Client where
  cancel : CancelToken
  remote : SocketAddress
deriving DecidableEq, Repr

structure AcceptLoop where
  limit : Option Nat
  shutdown : CancelToken
  phase : AcceptLoop.Phase := .waiting
  clients : List AcceptLoop.Client := []

namespace AcceptLoop

/-- The most permits that can be counted. -/
def mostPermits : Nat := UInt64.size / 8 - 1

def ofSettings (settings : Settings) (shutdown : CancelToken) : Option AcceptLoop :=
  match settings.maxConnections with
  | some limit => if mostPermits < limit then none else some { limit := some limit, shutdown }
  | none => some { limit := none, shutdown }

def held (loop : AcceptLoop) : Nat :=
  match loop.phase with
  | .accepting _ => 1
  | .waiting | .stopped _ => 0

def hasFreePermit (loop : AcceptLoop) : Bool :=
  match loop.limit with
  | some limit => loop.clients.length + loop.held < limit
  | none => true

inductive Event where
  | run
  | accepted (remote : SocketAddress)
  | failed (reason : TransportError)
  | clientEnded (client : CancelToken)
  | shutDown
deriving DecidableEq, Repr

/-- What accept loops share with the rest of their host. -/
structure Shared where
  resources : Resources
  cancellations : Cancellations

def stop (result : Except TransportError Unit) (loop : AcceptLoop) : AcceptLoop :=
  { loop with phase := .stopped result }

/-- Takes a permit, if there is one, and begins to accept. A loop without a limit looks for its
shutdown only while it accepts. -/
def proceed (loop : AcceptLoop) (shared : Shared) : AcceptLoop × Shared :=
  if loop.limit.isSome && shared.cancellations.isCancelled loop.shutdown then
    (loop.stop (.ok ()), shared)
  else if loop.hasFreePermit then
    match shared.resources.rentTicket { operation := .accept, cancel := some loop.shutdown } with
    | (.ok ticket, resources) =>
        ({ loop with phase := .accepting ticket }, { shared with resources })
    | (.error _, resources) => (loop, { shared with resources })
  else (loop, shared)

def giveBack (ticket : Ticket) (shared : Shared) : Shared :=
  { shared with resources := shared.resources.giveBackTicket ticket }

/-- The loop after one event. A failure that is not fatal is passed over. -/
def step (loop : AcceptLoop) (event : Event) (shared : Shared) : AcceptLoop × Shared :=
  match event, loop.phase with
  | .clientEnded client, _ =>
      ({ loop with clients := loop.clients.filter fun other => other.cancel ≠ client }, shared)
  | .run, .waiting => loop.proceed shared
  | .accepted remote, .accepting ticket =>
      let shared := giveBack ticket shared
      let (cancel, cancellations) := shared.cancellations.child loop.shutdown
      ({ loop with phase := .waiting, clients := { cancel, remote } :: loop.clients },
        { shared with cancellations })
  | .failed reason, .accepting ticket =>
      let shared := giveBack ticket shared
      match reason with
      | .cancelled _ => (loop.stop (.ok ()), shared)
      | _ =>
          if reason.isFatal then (loop.stop (.error reason), shared)
          else ({ loop with phase := .waiting }, shared)
  | .shutDown, .accepting ticket => (loop.stop (.ok ()), giveBack ticket shared)
  | .shutDown, .waiting => (loop.stop (.ok ()), shared)
  | _, _ => (loop, shared)

end AcceptLoop

end FramedTransport
