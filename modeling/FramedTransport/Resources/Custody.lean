import FramedTransport.Resources
import FramedTransport.Table

/-!
Tickets, buffers and cancellation tokens in the hands of named holders.
A buffer is either held under a name or carried by a ticket. Whatever is put
under a name in use is made first; what was there before then goes back.
-/

namespace FramedTransport

/-- A ticket made outside the pool does not go back to it. -/
structure HeldTicket where
  ticket : Ticket := {}
  pooled : Bool := true
deriving DecidableEq, Repr

structure Custody where
  resources : Resources
  tickets : Table HeldTicket := {}
  buffers : Table Buffer := {}
  tokens : Table CancelToken := {}
  cancellations : Cancellations := {}

namespace Custody

structure Arming where
  operation : Operation
  deadline : Option Duration := none
  cancel : Option String := none
deriving DecidableEq, Repr

inductive Action where
  | rentTicket (name : String) (arming : Arming)
  | makeTicket (name : String)
  | dropTicket (name : String)
  | rentBuffer (name : String) (count : Nat)
  | rentFilled (name : String) (count : Nat)
  | dropBuffer (name : String)
  | extend (name : String) (bytes : Bytes)
  | shrink
  | cancel (token : String)
  | child (name parent : String)
  | arm (ticket : String) (arming : Arming)
  | operation (ticket : String)
  | signals (ticket : String)
  | isCancelled (ticket : String)
  | attach (ticket buffer : String)
  | detach (ticket buffer : String)
  | carried (ticket : String)
  | extendCarried (ticket : String) (bytes : Bytes)
  | clear (ticket : String)
deriving DecidableEq, Repr

inductive Reply where
  | done
  | missing
  | existed (answer : Bool)
  | count (count : Nat)
  | buffer (buffer : Option Buffer)
  | operation (operation : Option Operation)
  | signals (operation : Operation) (deadline : Option Duration) (cancelled : Option Bool)
  | cancelled (answer : Bool)
  | refused (halt : Halt)
deriving DecidableEq, Repr

def ofResult (result : Except TransportError Reply) : Reply :=
  match result with
  | .ok reply => reply
  | .error error => .refused (.error error)

/-- The token of a name, made when the name is first used. -/
def token (name : String) (custody : Custody) : CancelToken × Custody :=
  match custody.tokens.find? name with
  | some token => (token, custody)
  | none =>
      let (token, cancellations) := custody.cancellations.issue
      (token, { custody with cancellations, tokens := custody.tokens.insert name token })

def signalsOf (arming : Arming) (custody : Custody) : Signals × Custody :=
  let { operation, deadline, cancel } := arming
  match cancel with
  | none => ({ operation, deadline }, custody)
  | some name =>
      let (token, custody) := custody.token name
      ({ operation, deadline, cancel := some token }, custody)

def giveBack (buffer : Buffer) (custody : Custody) : Custody :=
  { custody with resources := custody.resources.giveBackBuffer buffer }

def dropBuffer (name : String) (custody : Custody) : Bool × Custody :=
  match custody.buffers.find? name with
  | none => (false, custody)
  | some buffer => (true, { custody with buffers := custody.buffers.erase name }.giveBack buffer)

def putBuffer (name : String) (buffer : Buffer) (custody : Custody) : Custody :=
  let (_, custody) := custody.dropBuffer name
  { custody with buffers := custody.buffers.insert name buffer }

def unload (ticket : Ticket) (custody : Custody) : Custody :=
  let resources := custody.resources
  { custody with resources := { resources with buffers := Resources.unload ticket resources.buffers } }

def dropTicket (name : String) (custody : Custody) : Bool × Custody :=
  match custody.tickets.find? name with
  | none => (false, custody)
  | some held =>
      let custody := { custody with tickets := custody.tickets.erase name }
      if held.pooled then
        (true, { custody with resources := custody.resources.giveBackTicket held.ticket })
      else
        (true, custody.unload held.ticket)

def putTicket (name : String) (held : HeldTicket) (custody : Custody) : Custody :=
  let (_, custody) := custody.dropTicket name
  { custody with tickets := custody.tickets.insert name held }

def changeTicket (name : String) (ticket : Ticket) (custody : Custody) : Custody :=
  { custody with tickets := custody.tickets.change name fun held => { held with ticket } }

def withTicket (name : String) (custody : Custody) (use : Ticket → Reply × Custody) :
    Reply × Custody :=
  match custody.tickets.find? name with
  | none => (.missing, custody)
  | some held => use held.ticket

def attach (ticket buffer : String) (custody : Custody) : Reply × Custody :=
  custody.withTicket ticket fun carrier =>
    match custody.buffers.find? buffer with
    | none => (.missing, custody)
    | some moved =>
        let custody := { custody with buffers := custody.buffers.erase buffer }
        match carrier.attach moved with
        | .ok carrier => (.done, custody.changeTicket ticket carrier)
        | .error error => (.refused (.error error), custody.giveBack moved)

def perform (action : Action) (custody : Custody) : Reply × Custody :=
  match action with
  | .rentTicket name arming =>
      let (signals, custody) := custody.signalsOf arming
      match custody.resources.rentTicket signals with
      | (.ok ticket, resources) => (.done, { custody with resources }.putTicket name { ticket })
      | (.error reason, resources) => (.refused (.abort reason), { custody with resources })
  | .makeTicket name => (.done, custody.putTicket name { pooled := false })
  | .dropTicket name =>
      let (existed, custody) := custody.dropTicket name
      (.existed existed, custody)
  | .rentBuffer name count =>
      let (buffer, resources) := custody.resources.rentBuffer count
      (.buffer (some buffer), { custody with resources }.putBuffer name buffer)
  | .rentFilled name count =>
      let (buffer, resources) := custody.resources.rentFilled count
      (.buffer (some buffer), { custody with resources }.putBuffer name buffer)
  | .dropBuffer name =>
      let (existed, custody) := custody.dropBuffer name
      (.existed existed, custody)
  | .extend name bytes =>
      match custody.buffers.find? name with
      | none => (.missing, custody)
      | some buffer =>
          let buffer := buffer.append bytes
          (.buffer (some buffer), { custody with buffers := custody.buffers.insert name buffer })
  | .shrink =>
      let (count, buffers) := custody.resources.buffers.shrink
      (.count count, { custody with resources := { custody.resources with buffers } })
  | .cancel name =>
      let (token, custody) := custody.token name
      (.done, { custody with cancellations := custody.cancellations.cancel token })
  | .child name parent =>
      let (token, custody) := custody.token parent
      let (child, cancellations) := custody.cancellations.child token
      (.done, { custody with cancellations, tokens := custody.tokens.insert name child })
  | .arm name arming =>
      custody.withTicket name fun ticket =>
        let (signals, custody) := custody.signalsOf arming
        match ticket.arm signals with
        | .ok ticket => (.done, custody.changeTicket name ticket)
        | .error reason => (.refused (.abort reason), custody)
  | .operation name => custody.withTicket name fun ticket => (.operation ticket.operation, custody)
  | .signals name =>
      custody.withTicket name fun ticket =>
        (ofResult (ticket.signals.map fun signals =>
          .signals signals.operation signals.deadline
            (signals.cancel.map custody.cancellations.isCancelled)), custody)
  | .isCancelled name =>
      custody.withTicket name fun ticket =>
        (.cancelled (ticket.isCancelled custody.cancellations), custody)
  | .attach ticket buffer => custody.attach ticket buffer
  | .detach name buffer =>
      custody.withTicket name fun ticket =>
        match ticket.detach with
        | (none, _) => (.buffer none, custody)
        | (some moved, ticket) =>
            (.buffer (some moved), (custody.changeTicket name ticket).putBuffer buffer moved)
  | .carried name =>
      custody.withTicket name fun ticket =>
        (ofResult (ticket.carried.map fun buffer => .buffer (some buffer)), custody)
  | .extendCarried name bytes =>
      custody.withTicket name fun ticket =>
        let ticket := ticket.changeLease fun buffer => buffer.append bytes
        (ofResult (ticket.carried.map fun buffer => .buffer (some buffer)),
          custody.changeTicket name ticket)
  | .clear name =>
      custody.withTicket name fun ticket => (.done, (custody.changeTicket name {}).unload ticket)

def dropAll (custody : Custody) : Custody :=
  let custody := custody.tickets.names.foldl (fun custody name => (custody.dropTicket name).2) custody
  custody.buffers.names.foldl (fun custody name => (custody.dropBuffer name).2) custody

end Custody

end FramedTransport
