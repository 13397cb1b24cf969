import FramedTransport.Datagram.Server
import FramedTransport.Proofs.Datagrams
import Mathlib.Data.List.InsertIdx
import Mathlib.Logic.Relation

/-!
A datagram server and all that happens around it.
Datagrams arrive, issued receives meet them or fail, the endpoint is closed, the
server is shut down: all of that at any time, also while a reply waits for its
socket. The server itself joins a receive, runs its handler, waits for its reply,
and stops. What the server does between two such moments is what it does when it
is run alone, so its runs are among the runs here.
-/

namespace FramedTransport

/-- What a socket can answer to a datagram: it takes none of it, or some of it. -/
inductive DatagramLink.Takes (link : DatagramLink) (datagram : Datagram) :
    Outcome Nat → DatagramLink → Prop
  | none {next : DatagramLink} (halt : Halt) (sent : next.sent = link.sent) :
      Takes link datagram (.error halt) next
  | some {next : DatagramLink} (count : Nat)
      (sent : next.sent = link.sent ++ [datagram.cut count]) :
      Takes link datagram (.ok (datagram.bytes.take count).length) next

theorem DatagramLink.send_takes (watch : Watch) (datagram : Datagram) (link : DatagramLink) :
    link.Takes datagram (link.send watch datagram).1 (link.send watch datagram).2 := by
  unfold send
  dsimp only
  split
  · exact .none _ rfl
  · exact .some _ rfl
  · exact .some _ rfl
  · exact .some _ rfl
  · exact .none _ rfl

theorem Endpoint.armSend_ok {payload : Bytes} {deadline : Option Duration} {endpoint : Endpoint}
    {resources next : Resources} {ticket : Ticket}
    (armed : endpoint.armSend payload deadline resources = (.ok ticket, next)) :
    ∃ signals frame, ticket = { armed := some signals, lease := some frame } := by
  unfold armSend at armed
  dsimp only at armed
  split at armed
  · cases armed
  · rcases rented : resources.rentTicket
      { operation := .send, deadline, cancel := some endpoint.cancel } with ⟨_ | bare, rest⟩
    · rw [rented] at armed
      cases armed
    · have signals := Resources.signals_of_rentTicket rented
      rw [rented] at armed
      dsimp only at armed
      split at armed
      · cases armed
      · rename_i header frame encoded
        obtain ⟨signalled, lease⟩ := bare
        cases signalled with
        | none => cases signals
        | some told =>
            cases lease with
            | some _ => cases armed
            | none =>
                cases armed
                exact ⟨told, frame, rfl⟩

namespace DatagramServer

/-- An issued receive. One that has met a datagram knows which one it was. -/
inductive Receive where
  | waiting (ticket : Ticket)
  | met (number : Nat) (outcome : Outcome Delivery)
  | failed (halt : Halt)

namespace Receive

def issued : Receive → Issued
  | .waiting ticket => .waiting ticket
  | .met _ outcome => .completed outcome
  | .failed halt => .completed (.error halt)

def waits : Receive → Bool
  | .waiting _ => true
  | .met .. | .failed _ => false

def number? : Receive → Option Nat
  | .met number _ => some number
  | .waiting _ | .failed _ => none

def frame? : Receive → Option Nat
  | .met number (.ok _) => some number
  | .met _ (.error _) | .waiting _ | .failed _ => none

end Receive

/-- What a server is about: it waits for a receive to join or for its shutdown, or is about to run
its handler, or waits for a reply to be sent, or has ended. -/
inductive Stage where
  | selecting
  | handling (number : Nat) (delivery : Delivery)
  | answering (number : Nat) (remote : SocketAddress) (ticket : Ticket)
  | ended (result : Except TransportError Unit)

namespace Stage

def result? : Stage → Option (Except TransportError Unit)
  | .ended result => some result
  | .selecting | .handling .. | .answering .. => none

def afterFailure : Halt → Stage
  | .error (.cancelled _) => .ended (.ok ())
  | .error reason => if reason.isFatal then .ended (.error reason) else .selecting
  | .abort _ | .stalled => .selecting

/-- What a server turns to once it has joined a receive. -/
def afterJoin : Receive → Stage
  | .met number (.ok delivery) => .handling number delivery
  | .met _ (.error halt) | .failed halt => afterFailure halt
  | .waiting _ => .selecting

end Stage

structure Call where
  number : Nat
  request : Request
  answer : Option Bytes

/-- What has been sent in reply to the datagram with this number. -/
structure Answer where
  number : Nat
  datagram : Datagram

/-- A server at work. Datagrams are numbered as they arrive; those that are `pending` have not been
met by a receive. A receive is issued until it is joined, or abandoned because the server ends. -/
structure Serving (σ : Type) where
  endpoint : Endpoint
  exchange : DatagramExchange
  state : σ
  receives : List Receive
  stage : Stage := .selecting
  closed : Bool := false
  shutDown : Bool := false
  arrived : List Datagram := []
  pending : List Nat := []
  joined : List Receive := []
  abandoned : List Receive := []
  calls : List Call := []
  answers : List Answer := []

namespace Serving

variable {σ : Type}

def server (serving : Serving σ) : DatagramServer where
  endpoint := serving.endpoint
  issued := serving.receives.map (·.issued)
  result := serving.stage.result?

def arrive (datagram : Datagram) (serving : Serving σ) : Serving σ :=
  { serving with
    arrived := serving.arrived ++ [datagram]
    pending := serving.pending ++ [serving.arrived.length] }

/-- The receive at `position` meets a datagram, of which it sees what it has room for. -/
def meet (position : Nat) (signals : Signals) (room : Buffer) (number : Nat) (datagram : Datagram)
    (serving : Serving σ) : Serving σ :=
  let (outcome, exchange) := Endpoint.received (.ok (datagram.cut room.length))
    { armed := some signals, lease := some room } serving.exchange
  { serving with
    exchange
    receives := serving.receives.set position (.met number outcome)
    pending := serving.pending.erase number }

def fail (position : Nat) (ticket : Ticket) (halt : Halt) (serving : Serving σ) : Serving σ :=
  let (_, exchange) := Endpoint.received (.error halt) ticket serving.exchange
  { serving with exchange, receives := serving.receives.set position (.failed halt) }

def issue (serving : Serving σ) : Serving σ :=
  match serving.endpoint.armReceive none serving.exchange.resources with
  | (.ok ticket, resources) =>
      { serving with
        exchange := { serving.exchange with resources }
        receives := serving.receives ++ [.waiting ticket] }
  | (.error _, resources) => { serving with exchange := { serving.exchange with resources } }

def issueMany : Nat → Serving σ → Serving σ
  | 0, serving => serving
  | count + 1, serving => issueMany count serving.issue

def opening (endpoint : Endpoint) (count : Nat) (exchange : DatagramExchange) (state : σ) :
    Serving σ :=
  issueMany count { endpoint, exchange, state, receives := [] }

def stop (result : Except TransportError Unit) (serving : Serving σ) : Serving σ :=
  { serving with
    stage := .ended result
    receives := []
    abandoned := serving.receives ++ serving.abandoned
    exchange :=
      { serving.exchange with
        resources := (serving.receives.map (·.issued)).foldl abandon serving.exchange.resources } }

def take (position : Nat) (receive : Receive) (serving : Serving σ) : Serving σ :=
  { serving with
    receives := serving.receives.eraseIdx position
    joined := serving.joined ++ [receive] }

def turn (stage : Stage) (serving : Serving σ) : Serving σ :=
  match stage with
  | .ended result => serving.stop result
  | stage => { serving with stage }

/-- A receive is joined and its replacement issued, and then the server looks at what it was. -/
def join (position : Nat) (receive : Receive) (serving : Serving σ) : Serving σ :=
  (serving.take position receive).issue.turn (.afterJoin receive)

/-- A reply is armed, if there is one and if it is not too long. -/
def reply (number : Nat) (remote : SocketAddress) (answer : Option Bytes) (serving : Serving σ) :
    Serving σ :=
  match answer with
  | none => { serving with stage := .selecting }
  | some payload =>
      let deadline := some serving.exchange.resources.settings.operationTimeout
      match serving.endpoint.armSend payload deadline serving.exchange.resources with
      | (.error _, resources) =>
          { serving with exchange := { serving.exchange with resources }, stage := .selecting }
      | (.ok ticket, resources) =>
          { serving with
            exchange := { serving.exchange with resources }
            stage := .answering number remote ticket }

def handle (handler : Handler σ) (number : Nat) (delivery : Delivery) (serving : Serving σ) :
    Serving σ :=
  let remote := delivery.remote
  let payload := delivery.payload
  let exchange : DatagramExchange :=
    { serving.exchange with
      resources := serving.exchange.resources.giveBackBuffer delivery.buffer }
  match FrameHeader.forPayload payload.length with
  | .error _ => { serving with exchange, stage := .selecting }
  | .ok header =>
      let request : Request := { remote, header, payload }
      let (answer, state) := handler request serving.state
      let calls := serving.calls ++ [{ number, request, answer }]
      { serving with exchange, state, calls }.reply number remote answer

def answered (number : Nat) (remote : SocketAddress) (signals : Signals) (frame : Buffer)
    (taken : Outcome Nat) (link : DatagramLink) (serving : Serving σ) : Serving σ :=
  let (outcome, exchange) := Endpoint.departed remote
    { armed := some signals, lease := some frame } frame.length taken { serving.exchange with link }
  let resources := match outcome with
    | .ok sent => exchange.resources.giveBackBuffer sent.buffer
    | .error _ => exchange.resources
  { serving with
    exchange := { exchange with resources }
    stage := .selecting
    answers := serving.answers ++
      (link.sent.drop serving.exchange.link.sent.length).map fun datagram => { number, datagram } }

end Serving

open Serving

variable {σ : Type}

/-- What can happen next. Any receive that waits may meet any datagram that is pending, and any
receive that has completed may be the next to be joined. -/
inductive Step (handler : Handler σ) (serving : Serving σ) : Serving σ → Prop
  | arrive (datagram : Datagram) : Step handler serving (serving.arrive datagram)
  | close : Step handler serving { serving with closed := true }
  | shutDown : Step handler serving { serving with shutDown := true }
  | meet {position number : Nat} {signals : Signals} {room : Buffer} {datagram : Datagram}
      (waiting : serving.receives[position]? =
        some (.waiting { armed := some signals, lease := some room }))
      (pending : number ∈ serving.pending) (present : serving.arrived[number]? = some datagram) :
      Step handler serving (serving.meet position signals room number datagram)
  | fail {position : Nat} {ticket : Ticket} (fault : Fault)
      (waiting : serving.receives[position]? = some (.waiting ticket)) :
      Step handler serving (serving.fail position ticket (.error (.transport .receive fault)))
  | cancel {position : Nat} {ticket : Ticket} (closed : serving.closed = true)
      (waiting : serving.receives[position]? = some (.waiting ticket)) :
      Step handler serving (serving.fail position ticket (.error (.cancelled .receive)))
  | join {position : Nat} {receive : Receive} (selecting : serving.stage = .selecting)
      (running : serving.shutDown = false) (there : serving.receives[position]? = some receive)
      (complete : receive.waits = false) : Step handler serving (serving.join position receive)
  | handle {number : Nat} {delivery : Delivery}
      (handling : serving.stage = .handling number delivery) :
      Step handler serving (serving.handle handler number delivery)
  | answer {number : Nat} {remote : SocketAddress} {signals : Signals} {frame : Buffer}
      {taken : Outcome Nat} {link : DatagramLink}
      (answering : serving.stage =
        .answering number remote { armed := some signals, lease := some frame })
      (takes : serving.exchange.link.Takes ⟨frame.bytes, remote⟩ taken link) :
      Step handler serving (serving.answered number remote signals frame taken link)
  | stop (selecting : serving.stage = .selecting)
      (finished : serving.shutDown = true ∨ serving.receives = []) :
      Step handler serving (serving.stop (.ok ()))

abbrev Run (handler : Handler σ) : Serving σ → Serving σ → Prop :=
  Relation.ReflTransGen (Step handler)

/-! ### The server that is run -/

theorem server_issue (serving : Serving σ) :
    serving.server.issue serving.exchange.resources =
      (serving.issue.server, serving.issue.exchange.resources) := by
  unfold DatagramServer.issue Serving.issue
  simp only [server]
  rcases serving.endpoint.armReceive none serving.exchange.resources with ⟨_ | ticket, resources⟩
  · rfl
  · simp only [List.map_append]
    rfl

theorem server_issueMany (count : Nat) (serving : Serving σ) :
    DatagramServer.issueMany count serving.server serving.exchange.resources =
      ((Serving.issueMany count serving).server,
        (Serving.issueMany count serving).exchange.resources) := by
  induction count generalizing serving with
  | zero => rfl
  | succ count ih =>
      rw [DatagramServer.issueMany, server_issue]
      exact ih serving.issue

theorem server_stop (result : Except TransportError Unit) (serving : Serving σ) :
    serving.server.stop result serving.exchange.resources =
      ((serving.stop result).server, (serving.stop result).exchange.resources) := rfl

theorem server_complete {position : Nat} {ticket : Ticket} {receive : Receive}
    {arrival : Outcome Datagram} {serving after : Serving σ}
    (waiting : serving.receives[position]? = some (.waiting ticket))
    (settled : receive.issued =
      .completed (Endpoint.received arrival ticket serving.exchange).1)
    (exchange : after.exchange = (Endpoint.received arrival ticket serving.exchange).2)
    (server : after.server =
      { serving.server with
        issued := (serving.receives.set position receive).map (·.issued) }) :
    serving.server.complete position arrival serving.exchange = (after.server, after.exchange) := by
  have there : serving.server.issued[position]? = some (.waiting ticket) := by
    simp only [Serving.server, List.getElem?_map, waiting]
    rfl
  rw [server, exchange, List.map_set, settled]
  simp only [complete, there]
  cases arrival <;> rfl

theorem server_meet {position number : Nat} {signals : Signals} {room : Buffer}
    {serving : Serving σ} (datagram : Datagram)
    (waiting : serving.receives[position]? =
      some (.waiting { armed := some signals, lease := some room })) :
    serving.server.complete position (.ok (datagram.cut room.length)) serving.exchange =
      ((serving.meet position signals room number datagram).server,
        (serving.meet position signals room number datagram).exchange) :=
  server_complete waiting rfl rfl rfl

theorem server_fail {position : Nat} {ticket : Ticket} {serving : Serving σ} (halt : Halt)
    (waiting : serving.receives[position]? = some (.waiting ticket)) :
    serving.server.complete position (.error halt) serving.exchange =
      ((serving.fail position ticket halt).server, (serving.fail position ticket halt).exchange) :=
  server_complete waiting rfl rfl rfl

theorem reply_runs (handler : Handler σ) (number : Nat) (remote : SocketAddress) (payload : Bytes)
    (serving : Serving σ) :
    ∃ after, Run handler (serving.reply number remote (some payload)) after ∧
      after.server = { serving.server with result := none } ∧
      (match serving.endpoint.sendTo remote payload false
        (some serving.exchange.resources.settings.operationTimeout) serving.exchange with
      | (.ok sent, exchange) =>
          (serving.state,
            { exchange with resources := exchange.resources.giveBackBuffer sent.buffer })
      | (.error _, exchange) => (serving.state, exchange)) = (after.state, after.exchange) := by
  rw [Endpoint.sendTo_eq]
  unfold Serving.reply
  dsimp only
  rcases armed : serving.endpoint.armSend payload
    (some serving.exchange.resources.settings.operationTimeout) serving.exchange.resources
    with ⟨halt | ticket, resources⟩
  · exact ⟨_, .refl, rfl, rfl⟩
  · obtain ⟨signals, frame, rfl⟩ := Endpoint.armSend_ok armed
    have takes := DatagramLink.send_takes
      (Endpoint.watchOf signals serving.exchange.link) ⟨frame.bytes, remote⟩ serving.exchange.link
    refine ⟨_, .single (.answer rfl takes), rfl, ?_⟩
    dsimp only
    rw [Endpoint.sendCarried_eq]
    simp only [answered]
    generalize Endpoint.departed remote { armed := some signals, lease := some frame } frame.length
      _ _ = settled
    obtain ⟨_ | sent, exchange⟩ := settled
    · rfl
    · rfl

theorem process_runs (handler : Handler σ) {number : Nat} {delivery : Delivery}
    {serving : Serving σ} (handling : serving.stage = .handling number delivery) :
    ∃ after, Run handler serving after ∧ after.server = serving.server ∧
      serving.server.process handler delivery serving.state serving.exchange =
        (after.state, after.exchange) := by
  have first : Run handler serving (serving.handle handler number delivery) :=
    .single (.handle handling)
  have unended : serving.stage.result? = none := by rw [handling]; rfl
  have same (after : Serving σ) (endpoint : after.endpoint = serving.endpoint)
      (receives : after.receives = serving.receives) (result : after.stage.result? = none) :
      after.server = serving.server := by
    simp only [Serving.server, endpoint, receives, result, unended]
  unfold Serving.handle at first
  unfold process
  dsimp only at first ⊢
  rcases counted : FrameHeader.forPayload delivery.payload.length with reason | header
  · rw [counted] at first
    exact ⟨_, first, same _ rfl rfl rfl, rfl⟩
  · rw [counted] at first
    dsimp only at first ⊢
    rcases said : handler { remote := delivery.remote, header, payload := delivery.payload }
      serving.state with ⟨_ | payload, state⟩ <;> rw [said] at first
    · exact ⟨_, first, same _ rfl rfl rfl, rfl⟩
    · obtain ⟨after, replied, server, settled⟩ :=
        reply_runs handler number delivery.remote payload _
      refine ⟨after, first.trans replied, ?_, settled⟩
      rw [server]
      simp only [Serving.server, unended]

theorem server_take (position : Nat) (receive : Receive) (serving : Serving σ) :
    (serving.take position receive).server =
      { serving.server with issued := serving.server.issued.eraseIdx position } := by
  simp only [Serving.server, Serving.take, List.eraseIdx_map]

theorem issue_eq (serving : Serving σ) :
    ∃ more resources, serving.issue =
        { serving with
          exchange := { serving.exchange with resources }
          receives := serving.receives ++ more } ∧
      more.filterMap Receive.number? = [] := by
  unfold Serving.issue
  rcases serving.endpoint.armReceive none serving.exchange.resources with ⟨_ | ticket, resources⟩
  · exact ⟨[], resources, by simp only [List.append_nil], rfl⟩
  · exact ⟨[.waiting ticket], resources, rfl, rfl⟩

theorem Receive.issued_complete {receive : Receive} (complete : receive.waits = false) :
    (∃ number delivery, receive = .met number (.ok delivery)) ∨
      ∃ halt, receive.issued = .completed (.error halt) ∧
        Stage.afterJoin receive = Stage.afterFailure halt := by
  cases receive with
  | waiting ticket => cases complete
  | met number outcome =>
      cases outcome with
      | ok delivery => exact Or.inl ⟨number, delivery, rfl⟩
      | error halt => exact Or.inr ⟨halt, rfl, rfl⟩
  | failed halt => exact Or.inr ⟨halt, rfl, rfl⟩

/-- Joining one receive and then nothing but its handling is what the server does. -/
theorem join_runs {handler : Handler σ} {position : Nat} {receive : Receive} {serving : Serving σ}
    (selecting : serving.stage = .selecting) (running : serving.shutDown = false)
    (there : serving.receives[position]? = some receive) (complete : receive.waits = false) :
    ∃ after, Run handler serving after ∧
      serving.server.join handler position serving.state serving.exchange =
        (after.server, after.state, after.exchange) := by
  have first : Run handler serving (serving.join position receive) :=
    .single (.join selecting running there complete)
  have issued : serving.server.issued[position]? = some receive.issued := by
    simp only [Serving.server, List.getElem?_map, there]
    rfl
  have replaced := server_issue (serving.take position receive)
  rw [server_take] at replaced
  obtain ⟨more, resources, new, -⟩ := issue_eq (serving.take position receive)
  have still : (serving.take position receive).issue.stage = .selecting := by
    rw [new]
    exact selecting
  have state : serving.state = (serving.take position receive).issue.state := by
    rw [new]
    rfl
  have same : ({ serving.exchange with
      resources := (serving.take position receive).issue.exchange.resources } :
      DatagramExchange) = (serving.take position receive).issue.exchange := by
    rw [new]
    rfl
  unfold DatagramServer.join
  unfold Serving.join at first
  rw [issued]
  change DatagramServer.issue _ serving.exchange.resources = _ at replaced
  have link : serving.exchange.link = (serving.take position receive).issue.exchange.link := by
    rw [← same]
  generalize (serving.take position receive).issue = next at first replaced still state same link
  rcases Receive.issued_complete complete with ⟨number, delivery, rfl⟩ | ⟨halt, failed, turned⟩
  · have handling : ({ next with stage := .handling number delivery } : Serving σ).stage =
        .handling number delivery := rfl
    obtain ⟨after, handled, server, processed⟩ := process_runs handler handling
    have unchanged : after.server = next.server := by
      rw [server]
      simp only [Serving.server, still]
      rfl
    rw [← server, unchanged] at processed
    refine ⟨after, first.trans handled, ?_⟩
    simp only [Receive.issued, replaced]
    rw [same, unchanged, state, processed]
  · rw [turned] at first
    refine ⟨_, first, ?_⟩
    have unturned : { next with stage := .selecting } = next := by
      rw [← still]
    rw [failed]
    simp only [replaced]
    rw [same, link, state]
    cases halt with
    | error reason =>
        cases reason <;> simp only [Stage.afterFailure, TransportError.isFatal, if_true,
          Bool.false_eq_true, if_false, Serving.turn, unturned] <;> rfl
    | abort reason => simp only [Stage.afterFailure, Serving.turn, unturned]
    | stalled => simp only [Stage.afterFailure, Serving.turn, unturned]

end DatagramServer

end FramedTransport
