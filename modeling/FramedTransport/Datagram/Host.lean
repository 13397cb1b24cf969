import FramedTransport.Datagram.Server
import FramedTransport.Host

/-!
Endpoints and their servers on a host without a network.
Every send fails and every receive waits until its deadline or its cancellation.
A server issues its receives when it is first waited for.
-/

namespace FramedTransport

structure DatagramHost.Seat where
  engine : String
  endpoint : Endpoint
deriving DecidableEq, Repr

/-- A server, which is `none` until it has begun to run. -/
structure DatagramHost.Service where
  seat : DatagramHost.Seat
  concurrency : Option Nat
  server : Option DatagramServer := none

structure DatagramHost where
  host : Host
  seats : Table DatagramHost.Seat := {}
  services : Table DatagramHost.Service := {}

namespace DatagramHost

inductive Action where
  | bind (name engine address : String)
  | plainSocket
  | plainSend
  | plainReceive
  | send (name remote : String) (payload : Bytes) (peek : Bool) (deadline : Option Duration)
  | receive (name : String) (peek : Bool) (deadline : Option Duration) (cancelAfter : Option Nat)
  | close (name : String)
  | stats (engine : String)
  | settle (engine : String)
  | serve (name : String) (concurrency : Option Nat)
  | outstanding (name : String)
  | shutdown (name : String)
  | join (name : String)
deriving DecidableEq, Repr

inductive Reply where
  | done
  | ended
  | bound (ip : IpAddress)
  | unsent
  | nothing
  | transferred (outcome : Outcome Delivery)
  | stats (buffers tickets : Pool.Stats)
  | outstanding (buffers tickets : Nat)
  | waiting (tickets : Nat)
  | failed (error : TransportError)
  | absent

def bind (name engine address : String) (hosted : DatagramHost) : Reply × DatagramHost :=
  let wanted := hosted.host.resolve address
  let taken := hosted.seats.entries.map fun (_, seat) => seat.endpoint.address
  match hosted.host.bindable wanted taken with
  | (.error fault, host) => (.failed (.bind wanted fault), { hosted with host })
  | (.ok address, host) =>
      let (cancel, host) := host.issueToken
      let host := { host with addresses := host.addresses.insert name address }
      let seat : Seat := { engine, endpoint := { address, cancel } }
      (.bound address.ip, { hosted with host, seats := hosted.seats.insert name seat })

def transfer (seat : Seat) (cancelAfter : Option Nat)
    (call : Endpoint → DatagramExchange → Outcome Delivery × DatagramExchange)
    (hosted : DatagramHost) : Reply × DatagramHost :=
  let token := seat.endpoint.cancel
  let link : DatagramLink :=
    { time := hosted.host.timeOf token cancelAfter
      departures := [{ cue := .act (.fail Host.unreachable) }] }
  let (outcome, exchange) := call seat.endpoint
    { resources := hosted.host.resources seat.engine, link }
  let resources := match outcome with
    | .ok delivery => exchange.resources.giveBackBuffer delivery.buffer
    | .error _ => exchange.resources
  let host := (hosted.host.setResources seat.engine resources).after token exchange.link.time
  (.transferred outcome, { hosted with host })

def setServer (name : String) (service : Service) (server : DatagramServer) (resources : Resources)
    (hosted : DatagramHost) : DatagramHost :=
  { hosted with
    services := hosted.services.insert name { service with server := some server }
    host := hosted.host.setResources service.seat.engine resources }

def running (name : String) (service : Service) (hosted : DatagramHost) :
    DatagramServer × DatagramHost :=
  match service.server with
  | some server => (server, hosted)
  | none =>
      let { engine, endpoint } := service.seat
      let resources := hosted.host.resources engine
      let count := DatagramServer.concurrency resources.settings service.concurrency
      let (server, resources) := DatagramServer.start endpoint count resources
      (server, hosted.setServer name service server resources)

/-- A service that has run as far as it can. On a closed endpoint all its receives complete, and
the first one that it joins ends it. -/
def run (name : String) (service : Service) (hosted : DatagramHost) :
    DatagramServer × DatagramHost :=
  let (server, hosted) := hosted.running name service
  if server.result.isSome || !hosted.host.isCancelled service.seat.endpoint.cancel then
    (server, hosted)
  else
    let resources := hosted.host.resources service.seat.engine
    let silent : Handler Unit := fun _ state => (none, state)
    let (server, exchange) := server.cancelAll { resources, link := {} }
    let (server, _, exchange) := server.join silent 0 () exchange
    (server, hosted.setServer name service server exchange.resources)

def runAll (hosted : DatagramHost) : DatagramHost :=
  hosted.services.entries.foldl (fun hosted (name, service) => (hosted.run name service).2) hosted

def finish (name : String) (server : DatagramServer) (hosted : DatagramHost) :
    Reply × DatagramHost :=
  let hosted := { hosted with services := hosted.services.erase name }
  match server.result with
  | some (.error error) => (.failed error, hosted)
  | _ => (.ended, hosted)

def shutDown (name : String) (service : Service) (hosted : DatagramHost) : Reply × DatagramHost :=
  let (server, hosted) := hosted.running name service
  if server.result.isSome then hosted.finish name server
  else
    let (server, resources) := server.stop (.ok ()) (hosted.host.resources service.seat.engine)
    (hosted.setServer name service server resources).finish name server

def join (name : String) (service : Service) (hosted : DatagramHost) : Reply × DatagramHost :=
  let (server, hosted) := hosted.run name service
  hosted.finish name server

def statsOf (engine : String) (hosted : DatagramHost) : Pool.Stats × Pool.Stats :=
  let resources := hosted.host.resources engine
  (resources.buffers.stats, resources.tickets.stats)

def withSeat (name : String) (hosted : DatagramHost) (use : Seat → Reply × DatagramHost) :
    Reply × DatagramHost :=
  match hosted.seats.find? name with
  | some seat => use seat
  | none => (.absent, hosted)

def withService (name : String) (hosted : DatagramHost) (use : Service → Reply × DatagramHost) :
    Reply × DatagramHost :=
  match hosted.services.find? name with
  | some service => use service
  | none => (.absent, hosted)

def perform (action : Action) (hosted : DatagramHost) : Reply × DatagramHost :=
  match action with
  | .bind name engine address => hosted.bind name engine address
  | .plainSocket => (.bound IpAddress.loopback, hosted)
  | .plainSend => (.unsent, hosted)
  | .plainReceive => (.nothing, hosted.runAll)
  | .send name remote payload peek deadline =>
      hosted.withSeat name fun seat =>
        hosted.transfer seat none (Endpoint.sendTo (hosted.host.resolve remote) payload peek deadline)
  | .receive name peek deadline cancelAfter =>
      hosted.withSeat name fun seat =>
        hosted.runAll.transfer seat cancelAfter (Endpoint.receiveFrom peek deadline)
  | .close name =>
      hosted.withSeat name fun seat =>
        (.done, { hosted with host := hosted.host.cancel seat.endpoint.cancel })
  | .stats engine =>
      let (buffers, tickets) := hosted.statsOf engine
      (.stats buffers tickets, hosted)
  | .settle engine =>
      let (buffers, tickets) := hosted.statsOf engine
      (.outstanding buffers.outstanding tickets.outstanding, hosted)
  | .serve name concurrency =>
      hosted.withSeat name fun seat =>
        (.done, { hosted with services := hosted.services.insert name { seat, concurrency } })
  | .outstanding name =>
      hosted.withSeat name fun seat =>
        let hosted := hosted.runAll
        (.waiting (hosted.statsOf seat.engine).2.outstanding, hosted)
  | .shutdown name => hosted.withService name fun service => hosted.shutDown name service
  | .join name => hosted.withService name fun service => hosted.join name service

end DatagramHost

end FramedTransport
