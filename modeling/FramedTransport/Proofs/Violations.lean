import FramedTransport.Datagram.Endpoint
import FramedTransport.Proofs.Dialogue
import FramedTransport.Proofs.Repaying
import FramedTransport.Stream.Connection

/-!
The engine never goes against its own rules.
Its operations refuse a ticket that is not armed, a buffer too many, a count that is too large
and a frame that is not whole, and a result must lie within its buffer. None of that can happen
from outside: from tidy pools every ticket is as good as new, a reader knows what it holds and a
sender what it has sent. The one thing left is a writer that claims to have taken more than it
was offered.
-/

namespace FramedTransport

open SocketCall

def Delivery.InView (delivery : Delivery) : Prop :=
  delivery.start ≤ delivery.stop ∧ delivery.stop ≤ delivery.buffer.length

/-- An outcome that breaks no rule, with a value like this if there is one. -/
def Lawful {α : Type} (fine : α → Prop) : Outcome α → Prop
  | .ok value => fine value
  | .error halt => ¬ halt.Violates

/-- What is answered without a socket, as an outcome. -/
def atOnce {α : Type} (answer : Except TransportError α) : Outcome α := answer.mapError .error

theorem Lawful.map {α β : Type} {fine : α → Prop} {good : β → Prop} {change : α → β}
    {outcome : Outcome α} (lawful : Lawful fine outcome)
    (changed : ∀ value, fine value → good (change value)) : Lawful good (outcome.map change) := by
  cases outcome with
  | ok value => exact changed value lawful
  | error halt => exact lawful

/-- No write claims more than it is offered, which is all that the engine asks of a writer. -/
def Link.Contained (link : Link) : Prop :=
  ∀ surplus, WriteAction.overstate surplus ∈ link.writes.actions → surplus = 0

theorem Link.shutdown_lawful (watch : Watch) (link : Link) :
    Lawful (fun _ => True) (link.shutdown watch).1 := by
  have raced := raced_shutdown watch link
  cases ended : (link.shutdown watch).1 with
  | ok value => trivial
  | error halt => exact (raced.halts ended).1.lawful

theorem SocketCall.Linked.contained {link last : Link} {calls : List SocketCall}
    (linked : Linked link calls last) (contained : link.Contained) :
    ∀ call ∈ calls, ¬ call.Overstates := by
  rintro call member ⟨offered, count, -, claimed, beyond⟩
  have suffix := linked.writes call member
  have write := Link.write_spec call.watch offered call.link
  cases ended : call.link.write call.watch offered with
  | mk outcome after =>
      rw [ended] at write claimed
      obtain rfl : outcome = .ok count := claimed
      rcases write with ⟨-, fits, -⟩ | ⟨-, surplus, stated, rfl⟩
      · omega
      · have none := contained surplus ((Script.actions_suffix suffix).subset stated)
        omega

namespace Exchange

variable {settings : Settings} {exchange : Exchange}

theorem withTicket_lawful {α : Type} {fine : α → Prop} {signals : Signals}
    {body : Watch → Ticket → Exchange → (Outcome α × Ticket) × Exchange}
    (tidy : exchange.Tidy settings)
    (ran : ∀ inner : Exchange, inner.link = exchange.link → inner.Tidy settings →
      Lawful fine (body (Watch.starting signals exchange.link.time.now) { armed := some signals }
        inner).1.1) : Lawful fine (withTicket signals .error body exchange).1 :=
  withTicket_calls (fun _ _ => []) (fun _ (result : Outcome α) _ => Lawful fine result) tidy ran

theorem receiveSome_lawful (cancel : CancelToken) (remote : SocketAddress) (maxLength : Nat)
    (deadline : Option Duration) (tidy : exchange.Tidy settings) :
    Lawful Delivery.InView (exchange.receiveSome cancel remote maxLength deadline).1 := by
  apply withTicket_lawful tidy
  intro inner same clean
  have size := inner.resources.length_rentFilled maxLength
  have read := Link.read_spec (Watch.starting
    { operation := .receive, deadline, cancel := some cancel } exchange.link.time.now) maxLength
    inner.link
  simp only [Ticket.attach, Ticket.carried]
  split
  · rename_i halt next stopped
    rw [stopped] at read
    exact read.2.2.1.lawful
  · rename_i received next arrived
    rw [arrived] at read
    split
    · exact id
    · have fits : received.length ≤ (inner.resources.rentFilled maxLength).1.length := by
        rw [size]
        exact read.1
      rw [← Buffer.length_overwrite _ 0 received] at fits
      exact ⟨Nat.zero_le _, fits⟩

theorem sendAll_lawful (cancel : CancelToken) (remote : SocketAddress) (payload : Bytes)
    (deadline : Option Duration) (tidy : exchange.Tidy settings)
    (contained : exchange.link.Contained) :
    Lawful Delivery.InView (exchange.sendAll cancel remote payload deadline).1 := by
  apply withTicket_lawful tidy
  intro inner same clean
  have empty := clean.resources.bytes_rentBuffer payload.length
  obtain ⟨whole, -⟩ := Outgoing.whole_append empty payload
  have ends := Outgoing.push_ends whole (Watch.starting
    { operation := .send, deadline, cancel := some cancel } exchange.link.time.now) exchange.link
  have linked := Outgoing.linked_push (Watch.starting
    { operation := .send, deadline, cancel := some cancel } exchange.link.time.now)
    { buffer := (inner.resources.rentBuffer payload.length).1.append payload
      progress := Progress.start payload.length } exchange.link
  simp only [Ticket.attach, Ticket.carried, same]
  split
  · exact id
  · split
    · rename_i halt last next stopped
      rw [stopped] at ends
      intro violated
      obtain ⟨call, member, claims⟩ := ends.overstates violated
      exact linked.contained contained call member claims
    · refine ⟨Nat.zero_le _, ?_⟩
      simp [Buffer.length]

theorem shutdown_lawful (signals : Signals) (tidy : exchange.Tidy settings) :
    Lawful (fun _ => True) (withTicket signals .error
      (fun watch ticket exchange =>
        let (ended, link) := exchange.link.shutdown watch
        ((ended, ticket), { exchange with link })) exchange).1 := by
  apply withTicket_lawful tidy
  intro inner same clean
  exact Link.shutdown_lawful _ inner.link

theorem await_lawful {α : Type} (signals : Signals) (script : Script α)
    (tidy : exchange.Tidy settings) :
    Lawful (fun _ => True) (exchange.await signals script).1 := by
  apply withTicket_lawful tidy
  intro inner same clean
  have raced := Race.outcome_run inner.link.time
    { watch := Watch.starting signals exchange.link.time.now, source := script.thenSilence }
  dsimp only
  split
  · trivial
  · exact id
  · rename_i halt stopped
    rw [stopped] at raced
    exact raced.2.1.lawful

theorem fillFrame_whole (cancel : CancelToken) (deadline : Option Duration) {frame : Incoming}
    (holds : frame.Holds []) (tidy : exchange.Tidy settings) :
    Lawful (fun _ => ∃ whole : WireFrame,
        (exchange.fillFrame cancel deadline frame).1.2.phase = .dispatch whole.header ∧
          (exchange.fillFrame cancel deadline frame).1.2.buffer.bytes = Wire.image whole.payload)
      (exchange.fillFrame cancel deadline frame).1.1 := by
  have lawful := fillFrame_lawful cancel deadline holds tidy
  rcases fillFrame_called cancel deadline frame tidy with ⟨-, -, result, -⟩ | ⟨near, -⟩
  · rw [result]
    exact id
  · have ends := fillFrame_ends cancel holds near tidy
    generalize (exchange.fillFrame cancel deadline frame).1 = filled at ends lawful
    obtain ⟨outcome, after⟩ := filled
    cases outcome with
    | error halt => exact lawful halt rfl
    | ok value =>
        cases ends with
        | filled quiet held idle same =>
            obtain ⟨whole, phase, contents, -⟩ := held.ready idle
            exact ⟨whole, phase, contents⟩

theorem pushFrame_whole (cancel : CancelToken) (deadline : Option Duration) {frame : Outgoing}
    (whole : frame.Whole) (tidy : exchange.Tidy settings) (contained : exchange.link.Contained) :
    Lawful (fun _ => (exchange.pushFrame cancel deadline frame).1.2.isComplete = true ∧
        (exchange.pushFrame cancel deadline frame).1.2.buffer = frame.buffer)
      (exchange.pushFrame cancel deadline frame).1.1 := by
  have overstates := pushFrame_overstates cancel deadline whole tidy
  have linked := (pushFrame_traced cancel deadline frame tidy).linked
  rcases pushFrame_called cancel deadline frame tidy with ⟨-, -, result, -⟩ | ⟨near, -⟩
  · rw [result]
    exact id
  · have ends := pushFrame_ends cancel whole near tidy
    generalize (exchange.pushFrame cancel deadline frame).1 = pushed at ends overstates
    obtain ⟨outcome, last⟩ := pushed
    cases outcome with
    | error halt =>
        intro violated
        obtain ⟨call, member, claims⟩ := overstates halt rfl violated
        exact linked.contained contained call member claims
    | ok value =>
        cases ends with
        | sent busy all complete buffer => exact ⟨complete, buffer⟩

end Exchange

def Delivery.Shown (delivered : Option Delivery) : Prop :=
  ∀ delivery, delivered = some delivery → delivery.InView

theorem Lawful.shown {outcome : Outcome Delivery} (lawful : Lawful Delivery.InView outcome) :
    Lawful Delivery.Shown (outcome.map some) := by
  apply lawful.map
  rintro delivery within _ ⟨⟩
  exact within

theorem Lawful.nothing {α : Type} {outcome : Outcome α} (lawful : Lawful (fun _ => True) outcome) :
    Lawful Delivery.Shown (outcome.map fun _ => none) := by
  apply lawful.map
  rintro value - _ ⟨⟩

namespace Receiver

variable {settings : Settings} {exchange : Exchange}

theorem receive_lawful (maxLength : Nat) (deadline : Option Duration) (receiver : Receiver)
    (tidy : exchange.Tidy settings) :
    Lawful Delivery.InView (receiver.receive maxLength deadline exchange).1 := by
  have lawful := Exchange.receiveSome_lawful receiver.cancel receiver.remote maxLength deadline tidy
  unfold receive
  split
  · split <;> rename_i ended <;> rw [ended] at lawful
    · exact lawful
    · exact lawful
  · exact id

theorem receiveFrame_lawful (deadline : Option Duration) (receiver : Receiver)
    (tidy : exchange.Tidy settings) :
    Lawful Delivery.InView (receiver.receiveFrame deadline exchange).1 := by
  have holds := Incoming.holds_start
    (exchange.resources.rentBuffer exchange.resources.settings.bufferCapacity).1
    exchange.resources.settings.maxFrameSize
  have lawful := Exchange.fillFrame_whole receiver.cancel deadline holds
    (tidy.rentBuffer exchange.resources.settings.bufferCapacity)
  unfold receiveFrame
  dsimp only
  split
  · split <;> rename_i ended <;> rw [ended] at lawful
    · exact lawful
    · dsimp only [Lawful] at lawful
      obtain ⟨whole, phase, contents⟩ := lawful
      simp only [Incoming.release, phase]
      refine ⟨Nat.le_add_right _ _, ?_⟩
      simp [Buffer.length, contents, Wire.length_image, FrameHeader.frameLength, WireFrame.header]
  · exact id

theorem calls_lawful (call : Call) (receiver : Receiver) (tidy : exchange.Tidy settings) :
    Lawful Delivery.Shown (calls call receiver exchange).1 := by
  cases call with
  | receive maxLength deadline => exact (receive_lawful maxLength deadline receiver tidy).shown
  | receiveFrame deadline => exact (receiveFrame_lawful deadline receiver tidy).shown

end Receiver

theorem Frame.frameTooLarge_of_encodeOnto {buffer : Buffer} {payload : Bytes}
    {reason : TransportError} (refused : encodeOnto buffer payload = .error reason) :
    ∃ length most, reason = .frameTooLarge length most := by
  by_cases fits : payload.length < UInt32.size
  · obtain ⟨encoded, made, -⟩ := encodeOnto_ok buffer fits
    rw [made] at refused
    cases refused
  · simp only [encodeOnto, FrameHeader.forPayload, fits, dite_false, bind, Except.bind,
      Except.error.injEq] at refused
    exact ⟨_, _, refused.symm⟩

theorem Outgoing.frameTooLarge_of_encode {buffer : Buffer} {payload : Bytes} {limit : Nat}
    {reason : TransportError} (refused : encode buffer payload limit = .error reason) :
    ∃ length most, reason = .frameTooLarge length most := by
  by_cases excessive : limit < payload.length ∨ UInt32.size ≤ payload.length
  · obtain ⟨length, most, told⟩ := encode_excessive buffer excessive
    rw [told] at refused
    cases refused
    exact ⟨length, most, rfl⟩
  · obtain ⟨small, fits⟩ : payload.length ≤ limit ∧ payload.length < UInt32.size := by omega
    obtain ⟨frame, encoded⟩ := encode_ok buffer small fits
    rw [encoded] at refused
    cases refused

namespace Sender

variable {settings : Settings} {exchange : Exchange}

theorem send_lawful (payload : Bytes) (deadline : Option Duration) (sender : Sender)
    (tidy : exchange.Tidy settings) (contained : exchange.link.Contained) :
    Lawful Delivery.InView (sender.send payload deadline exchange).1 := by
  have lawful :=
    Exchange.sendAll_lawful sender.cancel sender.remote payload deadline tidy contained
  unfold send
  split
  · split <;> rename_i ended <;> rw [ended] at lawful
    · exact lawful
    · exact lawful
  · exact id

theorem sendFrame_lawful (payload : Bytes) (deadline : Option Duration) (sender : Sender)
    (tidy : exchange.Tidy settings) (contained : exchange.link.Contained) :
    Lawful Delivery.InView (sender.sendFrame payload deadline exchange).1 := by
  unfold sendFrame
  dsimp only
  split
  · split
    · rename_i reason refused
      obtain ⟨length, most, rfl⟩ := Outgoing.frameTooLarge_of_encode refused
      exact id
    · rename_i frame encoded
      obtain ⟨whole, fresh, pending, -⟩ := Outgoing.encode_eq_ok encoded
      have lawful := Exchange.pushFrame_whole sender.cancel deadline whole
        (tidy.rentBuffer (FrameHeader.size + payload.length)) contained
      split <;> rename_i ended <;> rw [ended] at lawful
      · exact lawful
      · dsimp only [Lawful] at lawful
        obtain ⟨complete, same⟩ := lawful
        have contents : frame.buffer.bytes = Wire.image payload := by
          simpa [Outgoing.pending, fresh] using pending
        simp only [Outgoing.release, complete, if_true]
        refine ⟨?_, Nat.le_refl _⟩
        simp [same, Buffer.length, contents, Wire.length_image]
  · exact id

theorem shutdown_lawful (deadline : Option Duration) (sender : Sender)
    (tidy : exchange.Tidy settings) :
    Lawful (fun _ => True) (sender.shutdown deadline exchange).1 := by
  unfold shutdown
  split
  · exact Exchange.shutdown_lawful _ tidy
  · exact id

theorem calls_lawful (call : Call) (sender : Sender) (tidy : exchange.Tidy settings)
    (contained : exchange.link.Contained) :
    Lawful Delivery.Shown (calls call sender exchange).1 := by
  cases call with
  | send payload deadline => exact (send_lawful payload deadline sender tidy contained).shown
  | sendFrame payload deadline =>
      exact (sendFrame_lawful payload deadline sender tidy contained).shown
  | shutdown deadline => exact (shutdown_lawful deadline sender tidy).nothing

end Sender

theorem Exchange.succeeded_lawful {α : Type} (operation : Operation)
    {outcome : Outcome (Except Fault α)} (lawful : Lawful (fun _ => True) outcome) :
    Lawful (fun _ => True) (succeeded operation outcome) := by
  unfold succeeded
  split
  · trivial
  · exact id
  · exact lawful

namespace Connection

variable {settings : Settings} {exchange : Exchange}

theorem bind_lawful (wanted : SocketAddress) (bound : Except Fault SocketAddress)
    (connection : Connection) : Lawful (fun _ => True) (atOnce (connection.bind wanted bound).1) := by
  unfold bind
  split
  · split
    · trivial
    · exact id
  · exact id

theorem listen_lawful (granted : Except Fault Unit) (connection : Connection) :
    Lawful (fun _ => True) (atOnce (connection.listen granted)) := by
  unfold listen
  split
  · split
    · trivial
    · exact id
  · exact id

theorem split_lawful (connection : Connection) :
    Lawful (fun _ => True) (atOnce connection.split) := by
  unfold Connection.split
  split
  · trivial
  · exact id

theorem connect_lawful (remote : SocketAddress) (deadline : Option Duration)
    (dial : Script (Except Fault SocketAddress)) (connection : Connection)
    (tidy : exchange.Tidy settings) :
    Lawful (fun _ => True) (connection.connect remote deadline dial exchange).1 := by
  have lawful := Exchange.succeeded_lawful .connect (Exchange.await_lawful
    { operation := .connect, deadline, cancel := some connection.cancel } dial tidy)
  unfold connect
  dsimp only
  split
  · split <;> rename_i dialled <;> rw [dialled] at lawful
    · trivial
    · exact lawful
  · split <;> rename_i dialled <;> rw [dialled] at lawful
    · trivial
    · exact lawful
  · exact id
  · exact id

theorem receiving_lawful
    {transfer : Receiver → Exchange → Outcome Delivery × Receiver × Exchange}
    (lawful : ∀ receiver, Lawful Delivery.InView (transfer receiver exchange).1)
    (connection : Connection) :
    Lawful Delivery.InView (connection.receiving transfer exchange).1 := by
  unfold receiving
  split
  · exact lawful _
  · exact id

theorem sending_lawful {transfer : Sender → Exchange → Outcome Delivery × Sender × Exchange}
    (lawful : ∀ sender, Lawful Delivery.InView (transfer sender exchange).1)
    (connection : Connection) :
    Lawful Delivery.InView (connection.sending transfer exchange).1 := by
  unfold sending
  split
  · exact lawful _
  · exact id

theorem transfer_lawful (request : Transfer) (deadline : Option Duration)
    (connection : Connection) (tidy : exchange.Tidy settings)
    (contained : exchange.link.Contained) :
    Lawful Delivery.InView (connection.transfer request deadline exchange).1 := by
  cases request with
  | send payload =>
      exact sending_lawful (fun sender => sender.send_lawful payload deadline tidy contained)
        connection
  | sendFrame payload =>
      exact sending_lawful (fun sender => sender.sendFrame_lawful payload deadline tidy contained)
        connection
  | receive maxLength =>
      exact receiving_lawful (fun receiver => receiver.receive_lawful maxLength deadline tidy)
        connection
  | receiveFrame =>
      exact receiving_lawful (fun receiver => receiver.receiveFrame_lawful deadline tidy) connection

theorem disconnect_lawful (deadline : Option Duration) (connection : Connection)
    (tidy : exchange.Tidy settings) :
    Lawful (fun _ => True) (connection.disconnect deadline exchange).1 := by
  unfold disconnect
  split
  · exact Sender.shutdown_lawful deadline _ tidy
  · exact id

end Connection

namespace Session

variable {σ : Type} {settings : Settings} {handler : Handler σ} {remote : SocketAddress}
  {state final : σ} {link last : Link} {rounds : List Round} {outcome : Outcome SessionEnd}

theorem endOf_lawful {halt : Halt} (lawful : ¬ halt.Violates) :
    Lawful (fun _ => True) (endOf halt) := by
  unfold endOf
  split
  · trivial
  · trivial
  · exact lawful

theorem Spoken.lawful
    (spoken : Spoken settings handler remote state link rounds outcome final last)
    (contained : ∀ call ∈ rounds.flatMap Round.calls, ¬ call.Overstates) :
    Lawful (fun _ => True) outcome := by
  induction spoken with
  | unheard read lawful closed => exact endOf_lawful lawful
  | silent asked silence rest ih =>
      simp only [List.flatMap_cons, List.forall_mem_append] at contained
      exact ih contained.2
  | unanswered asked answered sending =>
      apply endOf_lawful
      intro violated
      obtain ⟨call, member, claims⟩ := sending.overstates _ rfl violated
      exact contained call (by simp [Round.calls, member]) claims
  | answered asked answered sending rest ih =>
      simp only [List.flatMap_cons, List.forall_mem_append] at contained
      exact ih contained.2

theorem conclude_lawful {exchange : Exchange} (lawful : Lawful (fun _ => True) outcome) :
    Lawful (fun _ => True) (conclude outcome exchange).1 := by
  unfold conclude
  split
  · exact lawful
  · exact lawful
  · split
    · exact id
    · exact lawful
  · split
    · exact id
    · exact lawful

theorem run_lawful (handler : Handler σ) (state : σ) (remote : SocketAddress)
    (cancel : CancelToken) (resources : Resources) (link : Link) (tidy : resources.Tidy)
    (contained : link.Contained) :
    Lawful (fun _ => True) (run handler (start remote cancel resources).1 state
      { resources := (start remote cancel resources).2, link }).1 := by
  obtain ⟨rounds, outcome, last, -, spoken, -, -, told, -⟩ :=
    start_spoken handler state remote cancel resources link tidy
  rw [told]
  exact conclude_lawful (spoken.lawful (spoken.traced.linked.contained contained))

end Session

namespace DatagramLink

theorem send_lawful (watch : Watch) (datagram : Datagram) (link : DatagramLink) :
    Lawful (fun _ => True) (link.send watch datagram).1 := by
  have raced := Race.outcome_run link.time { watch, source := link.departures }
  unfold send
  dsimp only
  split
  · rename_i halt stopped
    rw [stopped] at raced
    exact raced.2.1.lawful
  · trivial
  · trivial
  · trivial
  · exact id

theorem receive_lawful (watch : Watch) (room : Nat) (peek : Bool) (link : DatagramLink) :
    Lawful (fun _ => True) (link.receive watch room peek).1 := by
  have raced := Race.outcome_run link.time { watch, source := link.arrivals.thenSilence }
  unfold receive
  dsimp only
  split
  · rename_i halt stopped
    rw [stopped] at raced
    exact raced.2.1.lawful
  · exact id
  · exact id
  · trivial

end DatagramLink

namespace Endpoint

variable {exchange : DatagramExchange}

theorem deliver_lawful {ticket : Ticket} {buffer : Buffer} (remote : SocketAddress) {size : Nat}
    (lost : String) (carries : ticket.lease = some buffer) (header : FrameHeader.size ≤ size)
    (fits : size ≤ buffer.length) :
    Lawful Delivery.InView (deliver ticket remote size lost exchange).1 := by
  simp only [deliver, Ticket.detach, carries, finish]
  exact ⟨header, fits⟩

theorem sendCarried_lawful (remote : SocketAddress) (signals : Signals) {frame : Buffer}
    (header : FrameHeader.size ≤ frame.length) :
    Lawful Delivery.InView
      (sendCarried remote { armed := some signals, lease := some frame } exchange).1 := by
  have lawful := DatagramLink.send_lawful (watchOf signals exchange.link) ⟨frame.bytes, remote⟩
    exchange.link
  simp only [sendCarried, Ticket.equipment, Ticket.signals, Ticket.carried, bind, Except.bind, pure,
    Except.pure]
  split <;> rename_i sent <;> rw [sent] at lawful
  · exact lawful
  · split
    · exact deliver_lawful remote _ rfl header (Nat.le_refl _)
    · exact id

theorem sendTo_lawful (remote : SocketAddress) (payload : Bytes) (peek : Bool)
    (deadline : Option Duration) (endpoint : Endpoint) (tidy : exchange.resources.Tidy) :
    Lawful Delivery.InView (endpoint.sendTo remote payload peek deadline exchange).1 := by
  obtain ⟨next, granted, -⟩ := tidy.rentTicket
    { operation := .send, deadline, cancel := some endpoint.cancel }
  unfold sendTo
  dsimp only
  split
  · exact id
  · split
    · exact id
    · rw [granted]
      dsimp only
      split
      · rename_i reason refused
        obtain ⟨length, most, rfl⟩ := Frame.frameTooLarge_of_encodeOnto refused
        exact id
      · rename_i header frame encoded
        obtain ⟨-, bytes⟩ := Frame.encodeOnto_eq_ok encoded
        simp only [Ticket.attach]
        apply sendCarried_lawful
        rw [Buffer.length, bytes, List.length_append, Wire.length_image]
        omega

theorem judge_lawful (limit : Nat) (bytes : Bytes) :
    Lawful (fun _ => FrameHeader.size ≤ bytes.length ∧ bytes.length ≤ limit)
      (atOnce (judge limit bytes)) := by
  unfold judge
  split
  · exact id
  · rename_i within
    unfold Frame.decode
    split
    · exact id
    · rename_i header peeked
      split
      · exact ⟨(Wire.peek_eq_some.1 peeked).1, Nat.le_of_not_lt within⟩
      · exact id

theorem settle_lawful (datagram : Datagram) (signals : Signals) {room : Buffer}
    (enough : exchange.resources.settings.maxDatagramSize ≤ room.length) :
    Lawful Delivery.InView
      (settle datagram { armed := some signals, lease := some room } exchange).1 := by
  have judged := judge_lawful exchange.resources.settings.maxDatagramSize datagram.bytes
  unfold settle
  dsimp only
  split <;> rename_i told <;> rw [told] at judged
  · exact judged
  · obtain ⟨header, within⟩ := judged
    have fits : datagram.bytes.length ≤ room.length := Nat.le_trans within enough
    rw [← Buffer.length_overwrite room 0 datagram.bytes] at fits
    exact deliver_lawful datagram.remote _ rfl header fits

theorem receiveFrom_lawful (peek : Bool) (deadline : Option Duration) (endpoint : Endpoint)
    (tidy : exchange.resources.Tidy) :
    Lawful Delivery.InView (endpoint.receiveFrom peek deadline exchange).1 := by
  obtain ⟨next, granted, -⟩ := tidy.rentTicket (endpoint.receiveSignals deadline)
  have room := next.length_rentFilled (next.settings.maxDatagramSize + 1)
  unfold receiveFrom armReceive
  rw [granted]
  simp only [Ticket.attach, receiveArmed, Ticket.equipment, Ticket.signals, Ticket.carried, bind,
    Except.bind, pure, Except.pure]
  have lawful := DatagramLink.receive_lawful
    (watchOf (endpoint.receiveSignals deadline) exchange.link)
    (next.rentFilled (next.settings.maxDatagramSize + 1)).1.length peek exchange.link
  split <;> rename_i arrived <;> rw [arrived] at lawful
  · exact lawful
  · apply settle_lawful
    rw [room]
    exact Nat.le_succ _

end Endpoint

theorem Exchange.await_tidy {α : Type} {settings : Settings} {exchange : Exchange}
    (signals : Signals) (script : Script α) (tidy : exchange.Tidy settings) :
    (exchange.await signals script).2.Tidy settings := by
  refine (withTicket_tidy (fun _ _ => True) tidy ?_).2
  intro inner same clean
  exact ⟨trivial, clean.relinked _⟩

namespace Connection

variable {exchange : Exchange}

theorem connect_tidy (remote : SocketAddress) (deadline : Option Duration)
    (dial : Script (Except Fault SocketAddress)) (connection : Connection)
    (tidy : exchange.resources.Tidy) :
    (connection.connect remote deadline dial exchange).2.2.resources.Tidy := by
  have waited := (Exchange.await_tidy
    { operation := .connect, deadline, cancel := some connection.cancel } dial
    ⟨tidy, rfl⟩).resources
  unfold connect
  dsimp only
  split
  · split
    · exact waited
    · exact waited
  · split
    · exact waited
    · exact waited
  · exact tidy
  · exact tidy

theorem transfer_tidy (request : Transfer) (deadline : Option Duration) (connection : Connection)
    (tidy : exchange.resources.Tidy) :
    (connection.transfer request deadline exchange).2.2.resources.Tidy := by
  have received (call : Receiver.Call) (receiver : Receiver) :
      (Receiver.calls call receiver exchange).2.2.resources.Tidy :=
    (Receiver.calls_lends call receiver (.none tidy)).tidy
  have sent (call : Sender.Call) (sender : Sender) :
      (Sender.calls call sender exchange).2.2.resources.Tidy :=
    (Sender.calls_lends call sender (.none tidy)).tidy
  cases request with
  | send payload =>
      simp only [transfer, send, sending]
      split
      · exact sent (.send payload deadline) _
      · exact tidy
  | sendFrame payload =>
      simp only [transfer, sendFrame, sending]
      split
      · exact sent (.sendFrame payload deadline) _
      · exact tidy
  | receive maxLength =>
      simp only [transfer, receive, receiving]
      split
      · exact received (.receive maxLength deadline) _
      · exact tidy
  | receiveFrame =>
      simp only [transfer, receiveFrame, receiving]
      split
      · exact received (.receiveFrame deadline) _
      · exact tidy

theorem disconnect_tidy (deadline : Option Duration) (connection : Connection)
    (tidy : exchange.resources.Tidy) :
    (connection.disconnect deadline exchange).2.2.resources.Tidy := by
  unfold disconnect
  split
  · exact (Sender.calls_lends (.shutdown deadline) _ (.none tidy)).tidy
  · exact tidy

end Connection

namespace Resources

/-- What may be done with an engine that has these pools, how it is answered and what it leaves.
A call may be on any half and on any link, so it may come at any point of any sequence of them. An
operation that is given up half-way gives its ticket and its buffers back. -/
inductive Step (resources : Resources) : Outcome (Option Delivery) → Resources → Prop
  | receive (call : Receiver.Call) (receiver : Receiver) (link : Link) :
      Step resources (Receiver.calls call receiver { resources, link }).1
        (Receiver.calls call receiver { resources, link }).2.2.resources
  | send (call : Sender.Call) (sender : Sender) (link : Link) (contained : link.Contained) :
      Step resources (Sender.calls call sender { resources, link }).1
        (Sender.calls call sender { resources, link }).2.2.resources
  | bind (connection : Connection) (wanted : SocketAddress) (bound : Except Fault SocketAddress) :
      Step resources ((atOnce (connection.bind wanted bound).1).map fun _ => none) resources
  | listen (connection : Connection) (granted : Except Fault Unit) :
      Step resources ((atOnce (connection.listen granted)).map fun _ => none) resources
  | split (connection : Connection) :
      Step resources ((atOnce connection.split).map fun _ => none) resources
  | connect (connection : Connection) (remote : SocketAddress) (deadline : Option Duration)
      (dial : Script (Except Fault SocketAddress)) (link : Link) :
      Step resources
        ((connection.connect remote deadline dial { resources, link }).1.map fun _ => none)
        (connection.connect remote deadline dial { resources, link }).2.2.resources
  | transfer (connection : Connection) (request : Connection.Transfer)
      (deadline : Option Duration) (link : Link) (contained : link.Contained) :
      Step resources ((connection.transfer request deadline { resources, link }).1.map some)
        (connection.transfer request deadline { resources, link }).2.2.resources
  | disconnect (connection : Connection) (deadline : Option Duration) (link : Link) :
      Step resources ((connection.disconnect deadline { resources, link }).1.map fun _ => none)
        (connection.disconnect deadline { resources, link }).2.2.resources
  | session {σ : Type} (handler : Handler σ) (state : σ) (remote : SocketAddress)
      (cancel : CancelToken) (link : Link) (contained : link.Contained) :
      Step resources
        ((Session.run handler (Session.start remote cancel resources).1 state
          { resources := (Session.start remote cancel resources).2, link }).1.map fun _ => none)
        (Session.run handler (Session.start remote cancel resources).1 state
          { resources := (Session.start remote cancel resources).2, link }).2.2.resources
  | sendTo (endpoint : Endpoint) (remote : SocketAddress) (payload : Bytes) (peek : Bool)
      (deadline : Option Duration) (link : DatagramLink) :
      Step resources
        ((endpoint.sendTo remote payload peek deadline { resources, link }).1.map some)
        (endpoint.sendTo remote payload peek deadline { resources, link }).2.resources
  | receiveFrom (endpoint : Endpoint) (peek : Bool) (deadline : Option Duration)
      (link : DatagramLink) :
      Step resources ((endpoint.receiveFrom peek deadline { resources, link }).1.map some)
        (endpoint.receiveFrom peek deadline { resources, link }).2.resources
  | rentTicket (signals : Signals) :
      Step resources (((resources.rentTicket signals).1.mapError .abort).map fun _ => none)
        (resources.rentTicket signals).2
  | giveBackTicket (ticket : Ticket) : Step resources (.ok none) (resources.giveBackTicket ticket)
  | rentBuffer (count : Nat) : Step resources (.ok none) (resources.rentBuffer count).2
  | giveBackBuffer (buffer : Buffer) : Step resources (.ok none) (resources.giveBackBuffer buffer)
  | shrink : Step resources (.ok none) { resources with buffers := resources.buffers.shrink.2 }

/-- What is done with an engine one after the other, and all that it has answered. -/
inductive Run (start : Resources) : List (Outcome (Option Delivery)) → Resources → Prop
  | start : Run start [] start
  | step {outcomes : List (Outcome (Option Delivery))} {middle last : Resources}
      {outcome : Outcome (Option Delivery)} (before : Run start outcomes middle)
      (step : Step middle outcome last) : Run start (outcomes ++ [outcome]) last

variable {resources start last : Resources} {outcome : Outcome (Option Delivery)}

/-- Nothing that is done with a tidy engine breaks a rule, and it leaves the engine tidy. -/
theorem Step.lawful (step : Step resources outcome last) (tidy : resources.Tidy) :
    Lawful Delivery.Shown outcome ∧ last.Tidy := by
  have even := Lends.none tidy
  have nothing : Lawful Delivery.Shown (.ok none) := by
    rintro delivery ⟨⟩
  cases step with
  | receive call receiver link =>
      exact ⟨Receiver.calls_lawful call receiver ⟨tidy, rfl⟩,
        (Receiver.calls_lends call receiver even).tidy⟩
  | send call sender link contained =>
      exact ⟨Sender.calls_lawful call sender ⟨tidy, rfl⟩ contained,
        (Sender.calls_lends call sender even).tidy⟩
  | bind connection wanted bound => exact ⟨(connection.bind_lawful wanted bound).nothing, tidy⟩
  | listen connection granted => exact ⟨(connection.listen_lawful granted).nothing, tidy⟩
  | split connection => exact ⟨connection.split_lawful.nothing, tidy⟩
  | connect connection remote deadline dial link =>
      exact ⟨(connection.connect_lawful remote deadline dial ⟨tidy, rfl⟩).nothing,
        connection.connect_tidy remote deadline dial tidy⟩
  | transfer connection request deadline link contained =>
      exact ⟨(connection.transfer_lawful request deadline ⟨tidy, rfl⟩ contained).shown,
        connection.transfer_tidy request deadline tidy⟩
  | disconnect connection deadline link =>
      exact ⟨(connection.disconnect_lawful deadline ⟨tidy, rfl⟩).nothing,
        connection.disconnect_tidy deadline tidy⟩
  | session handler state remote cancel link contained =>
      exact ⟨(Session.run_lawful handler state remote cancel resources link tidy contained).nothing,
        (Session.start_run_lends handler state remote cancel link even).tidy⟩
  | sendTo endpoint remote payload peek deadline link =>
      exact ⟨(endpoint.sendTo_lawful remote payload peek deadline tidy).shown,
        (endpoint.sendTo_lends remote payload peek deadline even).tidy⟩
  | receiveFrom endpoint peek deadline link =>
      exact ⟨(endpoint.receiveFrom_lawful peek deadline tidy).shown,
        (endpoint.receiveFrom_lends peek deadline even).tidy⟩
  | rentTicket signals =>
      obtain ⟨next, granted, clean, -⟩ := tidy.rentTicket signals
      rw [granted]
      exact ⟨nothing, clean⟩
  | giveBackTicket ticket => exact ⟨nothing, tidy.giveBackTicket ticket⟩
  | rentBuffer count => exact ⟨nothing, tidy.rentBuffer count⟩
  | giveBackBuffer buffer => exact ⟨nothing, tidy.giveBackBuffer buffer⟩
  | shrink => exact ⟨nothing, even.shrink.tidy⟩

theorem Run.lawful {outcomes : List (Outcome (Option Delivery))} (run : Run start outcomes last)
    (tidy : start.Tidy) : (∀ outcome ∈ outcomes, Lawful Delivery.Shown outcome) ∧ last.Tidy := by
  induction run with
  | start => exact ⟨by simp, tidy⟩
  | step before step ih =>
      obtain ⟨earlier, clean⟩ := ih
      obtain ⟨now, after⟩ := step.lawful clean
      refine ⟨?_, after⟩
      intro outcome member
      rcases List.mem_append.1 member with old | new
      · exact earlier outcome old
      · obtain rfl := List.mem_singleton.1 new
        exact now

/-- Whatever is done with an engine, in whatever order and on whatever sockets, as long as no writer
claims more than it was offered: no protocol is violated, no ticket is armed twice, and every result
lies within its buffer. -/
theorem never_violates (settings : Settings) {outcomes : List (Outcome (Option Delivery))}
    (run : Run (ofSettings settings) outcomes last) :
    ∀ outcome ∈ outcomes,
      (∀ detail, outcome ≠ .error (.error (.protocolViolation detail))) ∧
        outcome ≠ .error (.abort .ticketArmedTwice) ∧
        ∀ delivery, outcome = .ok (some delivery) →
          delivery.start ≤ delivery.stop ∧ delivery.stop ≤ delivery.buffer.length := by
  intro outcome member
  have lawful := (run.lawful (tidy_ofSettings settings)).1 outcome member
  refine ⟨?_, ?_, ?_⟩
  · rintro detail rfl
    exact lawful trivial
  · rintro rfl
    exact lawful trivial
  · rintro delivery rfl
    exact lawful delivery rfl

def boaster : Exchange where
  resources := ofSettings {}
  link := { writes := [{ cue := .act (.overstate 1) }] }

-- Without a writer that keeps to its contract the engine cannot keep to its rules.
example : (Sender.calls (.send [7] none)
    { remote := ⟨IpAddress.loopback, 80, 0⟩, cancel := ⟨[]⟩ } boaster).1 =
      .error (.error (.protocolViolation "transfer of 2 bytes overruns the 1 remaining")) := by
  cbv

theorem oneFrame_never_violates :
    ∃ delivery last, Run (ofSettings {}) [.ok (some delivery)] last ∧ delivery.payload = [7] ∧
      delivery.stop ≤ delivery.buffer.length := by
  have calm : Receiver.oneFrame.exchange.link.Calm :=
    { running := rfl
      reads := by simp [Receiver.oneFrame, Script.Calm]
      writes := by simp [Receiver.oneFrame, Script.Calm]
      flushes := by simp [Receiver.oneFrame, Script.Calm] }
  obtain ⟨delivery, next, received, payload⟩ := @Receiver.receiveFrame_calm {}
    { resources := ofSettings {}, link := Receiver.oneFrame.exchange.link } Receiver.oneFrame.half
    none ⟨[7], by decide⟩ [] rfl (by simp [Exchange.Countable]) ⟨tidy_ofSettings {}, rfl⟩ calm rfl
    (by decide)
  have step := @Step.receive (ofSettings {}) (.receiveFrame none) Receiver.oneFrame.half
    Receiver.oneFrame.exchange.link
  simp only [Receiver.calls, received, Except.map] at step
  have run := Run.start.step step
  obtain ⟨-, -, within⟩ := never_violates {} run (.ok (some delivery)) (by simp)
  exact ⟨delivery, _, run, payload, (within delivery rfl).2⟩

end Resources

end FramedTransport
