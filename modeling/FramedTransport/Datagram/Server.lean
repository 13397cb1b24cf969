import FramedTransport.Datagram.Endpoint
import FramedTransport.Handler

/-!
A server that keeps a number of receives issued on one endpoint.
Receives complete in any order and are joined one at a time; when one is joined
its replacement is issued before the datagram is handled. A cancelled receive or
the shutdown ends the server, and what it has issued goes back.
-/

namespace FramedTransport

/-- A receive that waits on the socket, or one that has completed and is not yet joined. -/
inductive DatagramServer.Issued where
  | waiting (ticket : Ticket)
  | completed (outcome : Outcome Delivery)

structure DatagramServer where
  endpoint : Endpoint
  issued : List DatagramServer.Issued := []
  result : Option (Except TransportError Unit) := none

namespace DatagramServer

variable {σ : Type}

def concurrency (settings : Settings) (wanted : Option Nat) : Nat :=
  match wanted with
  | some count => max count 1
  | none => settings.concurrentReceives

/-- One more receive; one that cannot be armed is passed over. -/
def issue (server : DatagramServer) (resources : Resources) : DatagramServer × Resources :=
  match server.endpoint.armReceive none resources with
  | (.ok ticket, resources) =>
      ({ server with issued := server.issued ++ [.waiting ticket] }, resources)
  | (.error _, resources) => (server, resources)

def issueMany : Nat → DatagramServer → Resources → DatagramServer × Resources
  | 0, server, resources => (server, resources)
  | count + 1, server, resources =>
      let (server, resources) := server.issue resources
      issueMany count server resources

def abandon (resources : Resources) : Issued → Resources
  | .waiting ticket => resources.giveBackTicket ticket
  | .completed (.ok delivery) => resources.giveBackBuffer delivery.buffer
  | .completed (.error _) => resources

def stop (result : Except TransportError Unit) (server : DatagramServer) (resources : Resources) :
    DatagramServer × Resources :=
  ({ server with issued := [], result := some result }, server.issued.foldl abandon resources)

/-- A server with its receives issued; one that has none to wait for is done. -/
def start (endpoint : Endpoint) (count : Nat) (resources : Resources) : DatagramServer × Resources :=
  let (server, resources) := issueMany count { endpoint } resources
  if server.issued.isEmpty then server.stop (.ok ()) resources else (server, resources)

def complete (position : Nat) (arrival : Outcome Datagram) (server : DatagramServer)
    (exchange : DatagramExchange) : DatagramServer × DatagramExchange :=
  match server.issued[position]? with
  | some (.waiting ticket) =>
      let (outcome, exchange) := match arrival with
        | .ok datagram => Endpoint.settle datagram ticket exchange
        | .error halt => Endpoint.finish (.error halt) ticket exchange
      ({ server with issued := server.issued.set position (.completed outcome) }, exchange)
  | _ => (server, exchange)

/-- Handles one datagram and answers it. A reply that fails is passed over. -/
def process (handler : Handler σ) (delivery : Delivery) (server : DatagramServer) (state : σ)
    (exchange : DatagramExchange) : σ × DatagramExchange :=
  let payload := delivery.payload
  let remote := delivery.remote
  let released : DatagramExchange :=
    { exchange with resources := exchange.resources.giveBackBuffer delivery.buffer }
  match FrameHeader.forPayload payload.length with
  | .error _ => (state, released)
  | .ok header =>
      match handler { remote, header, payload } state with
      | (none, state) => (state, released)
      | (some answer, state) =>
          let deadline := some exchange.resources.settings.operationTimeout
          match server.endpoint.sendTo remote answer false deadline released with
          | (.ok sent, exchange) =>
              (state, { exchange with resources := exchange.resources.giveBackBuffer sent.buffer })
          | (.error _, exchange) => (state, exchange)

def join (handler : Handler σ) (position : Nat) (server : DatagramServer) (state : σ)
    (exchange : DatagramExchange) : DatagramServer × σ × DatagramExchange :=
  match server.issued[position]? with
  | some (.completed outcome) =>
      let (server, resources) :=
        { server with issued := server.issued.eraseIdx position }.issue exchange.resources
      let exchange := { exchange with resources }
      match outcome with
      | .ok delivery =>
          let (state, exchange) := server.process handler delivery state exchange
          (server, state, exchange)
      | .error (.error reason) =>
          let ending : Option (Except TransportError Unit) := match reason with
            | .cancelled _ => some (.ok ())
            | _ => if reason.isFatal then some (.error reason) else none
          match ending with
          | none => (server, state, exchange)
          | some result =>
              let (server, resources) := server.stop result exchange.resources
              (server, state, { exchange with resources })
      | .error _ => (server, state, exchange)
  | _ => (server, state, exchange)

def cancelAll (server : DatagramServer) (exchange : DatagramExchange) :
    DatagramServer × DatagramExchange :=
  (List.range server.issued.length).foldl
    (fun (server, exchange) position =>
      server.complete position (.error (.error (.cancelled .receive))) exchange)
    (server, exchange)

end DatagramServer

end FramedTransport
