import FramedTransport.Host
import FramedTransport.Stream.Acceptance

/-!
Connections and listeners on a host without a network.
No connection is ever connected and none is ever accepted, so there are no
halves to split off either. An accept loop begins when its host first waits.
-/

namespace FramedTransport

structure StreamHost.Seat where
  engine : String
  connection : Connection
deriving DecidableEq, Repr

structure StreamHost.Post where
  engine : String
  listener : Listener
deriving DecidableEq, Repr

/-- An accept loop by its stages; one with more permits than can be counted breaks down. -/
inductive StreamHost.Stage where
  | waiting
  | running (loop : AcceptLoop)
  | broken

structure StreamHost.Service where
  post : StreamHost.Post
  shutdown : CancelToken
  stage : StreamHost.Stage := .waiting

structure StreamHost where
  host : Host
  seats : Table StreamHost.Seat := {}
  posts : Table StreamHost.Post := {}
  services : Table StreamHost.Service := {}
  tokens : Table CancelToken := {}

namespace StreamHost

inductive Action where
  | open (name engine : String)
  | bind (name address : String)
  | listen (connection name : String)
  | bindListener (name engine address : String)
  | connect (name remote : String) (deadline : Option Duration)
  | accept (listener name : String) (deadline : Option Duration) (cancelAfter : Option Nat)
  | transfer (name : String) (request : Connection.Transfer) (deadline : Option Duration)
      (cancelAfter : Option Nat)
  | disconnect (name : String) (deadline : Option Duration)
  | close (name : String)
  | drop (name : String)
  | look
  | cancel (name : String)
  | isCancelled (name : String)
  | stats (engine : String)
  | settle (engine : String)
  | split (name : String)
  | receiverCall
  | senderCall
  | serve (name : String)
  | shutdown (name : String)
deriving DecidableEq, Repr

inductive Noun where
  | connection
  | listener
  | receiver
  | sender
  | service
  | token
deriving DecidableEq, Repr

inductive Reply where
  | done
  | flag (answer : Bool)
  | accepted (remote : SocketAddress)
  | delivered (delivery : Delivery)
  | refused (halt : Halt)
  | stats (buffers tickets : Pool.Stats)
  | outstanding (buffers tickets : Nat)
  | broken
  | absent (noun : Noun)

def reply (result : Except TransportError Unit) : Reply :=
  match result with
  | .ok () => .done
  | .error error => .refused (.error error)

def replyOf (outcome : Outcome Unit) : Reply :=
  match outcome with
  | .ok () => .done
  | .error halt => .refused halt

def listening (hosted : StreamHost) : List SocketAddress :=
  hosted.posts.entries.map (fun (_, post) => post.listener.address)
    ++ hosted.services.entries.map fun (_, service) => service.post.listener.address

def cancel (token : CancelToken) (hosted : StreamHost) : StreamHost :=
  { hosted with host := hosted.host.cancel token }

/-- Letting go of a connection cancels it, unless it is closed. -/
def letGo (connection : Connection) (hosted : StreamHost) : StreamHost :=
  if connection.cancelsWhenDropped then hosted.cancel connection.cancel else hosted

def drop (name : String) (hosted : StreamHost) : Bool × StreamHost :=
  match hosted.seats.find? name with
  | none => (false, hosted)
  | some seat =>
      (true, { hosted with seats := hosted.seats.erase name }.letGo seat.connection)

/-- A connection takes its name; another one that has it is let go. -/
def seat (name engine : String) (connection : Connection) (hosted : StreamHost) : StreamHost :=
  let (_, hosted) := hosted.drop name
  { hosted with
    seats := hosted.seats.insert name { engine, connection }
    tokens := hosted.tokens.insert name connection.cancel }

def setConnection (name : String) (connection : Connection) (hosted : StreamHost) : StreamHost :=
  { hosted with seats := hosted.seats.change name fun seat => { seat with connection } }

/-- The address that a socket gets if nobody listens on it. -/
def bindable (text : String) (hosted : StreamHost) :
    SocketAddress × Except Fault SocketAddress × StreamHost :=
  let wanted := hosted.host.resolve text
  let (bound, host) := hosted.host.bindable wanted hosted.listening
  (wanted, bound, { hosted with host })

def noteAddress (name : String) (address : Option SocketAddress) (hosted : StreamHost) :
    StreamHost :=
  match address with
  | none => hosted
  | some address =>
      { hosted with
        host := { hosted.host with addresses := hosted.host.addresses.insert name address } }

def listenAs (name engine : String) (connection : Connection) (hosted : StreamHost) :
    Reply × StreamHost :=
  let granted : Except Fault Unit := match connection.address? with
    | some address =>
        if hosted.listening.contains address then .error Host.addressInUse else .ok ()
    | none => .ok ()
  match connection.listen granted with
  | .error error => (.refused (.error error), hosted)
  | .ok address =>
      let post : Post := { engine, listener := { address, cancel := connection.cancel } }
      let hosted := { hosted with
        posts := hosted.posts.insert name post
        tokens := hosted.tokens.insert name connection.cancel }
      (.done, hosted.noteAddress name (some address))

def listen (name listener : String) (seat : Seat) (hosted : StreamHost) : Reply × StreamHost :=
  let hosted := { hosted with seats := hosted.seats.erase name }
  match seat.connection.state with
  | .bound _ => hosted.listenAs listener seat.engine seat.connection
  | _ =>
      let (reply, hosted) := hosted.listenAs listener seat.engine seat.connection
      (reply, hosted.letGo seat.connection)

def bindListener (name engine text : String) (hosted : StreamHost) : Reply × StreamHost :=
  let (cancel, host) := hosted.host.issueToken
  let (wanted, bound, hosted) := { hosted with host }.bindable text
  match ({ cancel } : Connection).bind wanted bound with
  | (.error error, _) => (.refused (.error error), hosted)
  | (.ok (), connection) => hosted.listenAs name engine connection

def exchange {α : Type} (engine : String) (token : CancelToken) (cancelAfter : Option Nat)
    (hosted : StreamHost) (call : Exchange → α × Exchange) : α × StreamHost :=
  let link : Link := { time := hosted.host.timeOf token cancelAfter }
  let (value, exchange) := call { resources := hosted.host.resources engine, link }
  let host := (hosted.host.setResources engine exchange.resources).after token exchange.link.time
  (value, { hosted with host })

def callOn {α : Type} (name : String) (seat : Seat) (cancelAfter : Option Nat)
    (hosted : StreamHost) (call : Connection → Exchange → α × Connection × Exchange) :
    α × StreamHost :=
  let ((value, connection), hosted) :=
    hosted.exchange seat.engine seat.connection.cancel cancelAfter fun exchange =>
      let (value, connection, exchange) := call seat.connection exchange
      ((value, connection), exchange)
  (value, hosted.setConnection name connection)

def startLoop (name : String) (service : Service) (hosted : StreamHost) : StreamHost :=
  match service.stage with
  | .running _ | .broken => hosted
  | .waiting =>
      let engine := service.post.engine
      let resources := hosted.host.resources engine
      match AcceptLoop.ofSettings resources.settings service.shutdown with
      | none =>
          { hosted with services := hosted.services.insert name { service with stage := .broken } }
      | some loop =>
          let (loop, shared) := loop.step .run
            { resources, cancellations := hosted.host.cancellations }
          let services := hosted.services.insert name { service with stage := .running loop }
          { hosted with services, host := hosted.host.setResources engine shared.resources }

def startAll (hosted : StreamHost) : StreamHost :=
  hosted.services.entries.foldl (fun hosted (name, service) => hosted.startLoop name service) hosted

def shutDown (name : String) (service : Service) (hosted : StreamHost) : Reply × StreamHost :=
  let hosted := (hosted.cancel service.shutdown).startLoop name service
  let stage := ((hosted.services.find? name).map (·.stage)).getD .broken
  let hosted := { hosted with services := hosted.services.erase name }
  match stage with
  | .waiting | .broken => (.broken, hosted)
  | .running loop =>
      let engine := service.post.engine
      let (loop, shared) := loop.step .shutDown
        { resources := hosted.host.resources engine, cancellations := hosted.host.cancellations }
      let hosted := { hosted with host := hosted.host.setResources engine shared.resources }
      match loop.phase with
      | .stopped result => (reply result, hosted)
      | _ => (.done, hosted)

def accept (post : Post) (name : String) (deadline : Option Duration) (cancelAfter : Option Nat)
    (hosted : StreamHost) : Reply × StreamHost :=
  let { engine, listener } := post
  let (outcome, hosted) := hosted.startAll.exchange engine listener.cancel cancelAfter
    (listener.accept deadline [])
  match outcome with
  | .error halt => (.refused halt, hosted)
  | .ok remote =>
      let (cancel, cancellations) := hosted.host.cancellations.child listener.cancel
      let hosted := { hosted with host := { hosted.host with cancellations } }
      (.accepted remote, hosted.seat name engine (Connection.accepted cancel listener.address remote))

def statsOf (engine : String) (hosted : StreamHost) : Pool.Stats × Pool.Stats :=
  let resources := hosted.host.resources engine
  (resources.buffers.stats, resources.tickets.stats)

def withSeat (name : String) (hosted : StreamHost) (use : Seat → Reply × StreamHost) :
    Reply × StreamHost :=
  match hosted.seats.find? name with
  | some seat => use seat
  | none => (.absent .connection, hosted)

def withPost (name : String) (hosted : StreamHost) (use : Post → Reply × StreamHost) :
    Reply × StreamHost :=
  match hosted.posts.find? name with
  | some post => use post
  | none => (.absent .listener, hosted)

def withToken (name : String) (hosted : StreamHost) (use : CancelToken → Reply × StreamHost) :
    Reply × StreamHost :=
  match hosted.tokens.find? name with
  | some token => use token
  | none => (.absent .token, hosted)

def perform (action : Action) (hosted : StreamHost) : Reply × StreamHost :=
  match action with
  | .open name engine =>
      let (cancel, host) := hosted.host.issueToken
      (.done, { hosted with host }.seat name engine { cancel })
  | .bind name text =>
      hosted.withSeat name fun seat =>
        let (wanted, bound, bindable) := hosted.bindable text
        let (result, connection) := seat.connection.bind wanted bound
        (reply result, (bindable.setConnection name connection).noteAddress name connection.address?)
  | .listen name listener =>
      hosted.withSeat name fun seat => hosted.listen name listener seat
  | .bindListener name engine text => hosted.bindListener name engine text
  | .connect name remote deadline =>
      hosted.withSeat name fun seat =>
        let (outcome, hosted) := hosted.callOn name seat none
          (Connection.connect (hosted.host.resolve remote) deadline
            [{ cue := .act (.error Host.unreachable) }])
        (replyOf outcome, hosted)
  | .accept listener name deadline cancelAfter =>
      hosted.withPost listener fun post => hosted.accept post name deadline cancelAfter
  | .transfer name request deadline cancelAfter =>
      hosted.withSeat name fun seat =>
        let (outcome, hosted) :=
          hosted.callOn name seat cancelAfter (Connection.transfer request deadline)
        match outcome with
        | .ok delivery =>
            let resources := (hosted.host.resources seat.engine).giveBackBuffer delivery.buffer
            (.delivered delivery,
              { hosted with host := hosted.host.setResources seat.engine resources })
        | .error halt => (.refused halt, hosted)
  | .disconnect name deadline =>
      hosted.withSeat name fun seat =>
        let (outcome, hosted) := hosted.callOn name seat none (Connection.disconnect deadline)
        (replyOf outcome, hosted)
  | .close name =>
      hosted.withSeat name fun seat =>
        let { connection, .. } := seat
        (.done, (hosted.cancel connection.cancel).setConnection name connection.closed)
  | .drop name =>
      let (existed, hosted) := hosted.drop name
      (.flag existed, hosted)
  | .look => (.done, hosted)
  | .cancel name => hosted.withToken name fun token => (.done, hosted.cancel token)
  | .isCancelled name =>
      hosted.withToken name fun token => (.flag (hosted.host.isCancelled token), hosted)
  | .stats engine =>
      let (buffers, tickets) := hosted.statsOf engine
      (.stats buffers tickets, hosted)
  | .settle engine =>
      let (buffers, tickets) := hosted.statsOf engine
      (.outstanding buffers.outstanding tickets.outstanding, hosted)
  | .split name =>
      hosted.withSeat name fun seat =>
        let hosted := { hosted with seats := hosted.seats.erase name }
        (reply (seat.connection.split.map fun _ => ()), hosted)
  | .receiverCall => (.absent .receiver, hosted)
  | .senderCall => (.absent .sender, hosted)
  | .serve name =>
      hosted.withPost name fun post =>
        let (shutdown, host) := hosted.host.issueToken
        (.done, { hosted with
          host
          posts := hosted.posts.erase name
          services := hosted.services.insert name { post, shutdown } })
  | .shutdown name =>
      match hosted.services.find? name with
      | some service => hosted.shutDown name service
      | none => (.absent .service, hosted)

end StreamHost

end FramedTransport
