import FramedTransport.Proofs.Codec
import FramedTransport.Proofs.Repaying

/-!
The parts of a datagram's way in and out.
A send is armed, then met by its socket, then settled; so is a receive. Between
those parts other operations of the engine may run, and what each part does to
the pools and to the datagram is said here once.
-/

namespace FramedTransport

namespace Datagram

/-- The datagram as a socket shows it to somebody who has room for so many bytes. -/
def cut (room : Nat) (datagram : Datagram) : Datagram :=
  { datagram with bytes := datagram.bytes.take room }

def payload (datagram : Datagram) : Bytes := datagram.bytes.drop FrameHeader.size

/-- A datagram that is one whole frame, and no longer than a datagram may be. -/
def Framed (limit : Nat) (datagram : Datagram) : Prop :=
  datagram.bytes.length ≤ limit ∧
    ∃ frame : WireFrame, datagram.bytes = Wire.image frame.payload

/-- What a receive makes of a datagram. -/
inductive Judged (limit : Nat) (datagram : Datagram) : Outcome Delivery → Prop
  | frame {delivery : Delivery} (framed : datagram.Framed limit)
      (payload : delivery.payload = datagram.payload) (remote : delivery.remote = datagram.remote) :
      Judged limit datagram (.ok delivery)
  | oversize (excess : limit < datagram.bytes.length) :
      Judged limit datagram (.error (.error (.datagramTooLarge (limit + 1) limit)))
  | malformed (detail : String) (odd : ¬ datagram.Framed limit) :
      Judged limit datagram (.error (.error (.malformedFrame detail)))

theorem Framed.image {limit : Nat} {datagram : Datagram} (framed : datagram.Framed limit) :
    datagram.payload.length < UInt32.size ∧ datagram.bytes = Wire.image datagram.payload := by
  obtain ⟨-, frame, image⟩ := framed
  have behind : datagram.payload = frame.payload := by
    rw [payload, image]
    exact List.drop_left' (Bytes.length_bigEndian _ _)
  rw [behind]
  exact ⟨frame.payload_lt, image⟩

variable {limit : Nat} {datagram : Datagram}

theorem length_cut {room : Nat} (long : room ≤ datagram.bytes.length) :
    (datagram.cut room).bytes.length = room :=
  List.length_take_of_le long

theorem cut_whole {room : Nat} (fits : datagram.bytes.length ≤ room) :
    datagram.cut room = datagram := by
  rw [cut, List.take_of_length_le fits]

theorem framed_iff_decode (fits : datagram.bytes.length ≤ limit) :
    datagram.Framed limit ↔ ∃ decoded, Frame.decode datagram.bytes = .ok decoded := by
  constructor
  · rintro ⟨-, frame, image⟩
    exact ⟨_, image ▸ Frame.decode_image frame⟩
  · rintro ⟨⟨header, payload⟩, decoded⟩
    obtain ⟨frame, -, rfl, image⟩ := Frame.decode_eq_ok_iff.1 decoded
    exact ⟨fits, frame, image⟩

end Datagram

theorem Buffer.slice_overwrite {buffer : Buffer} {bytes : Bytes} (start : Nat)
    (room : bytes.length ≤ buffer.length) :
    (buffer.overwrite 0 bytes).slice start bytes.length = bytes.drop start := by
  have fits : ([] : Bytes).length + bytes.length ≤ buffer.length := by simpa using room
  have written : (buffer.overwrite 0 bytes).bytes = bytes ++ buffer.bytes.drop bytes.length := by
    simpa using Buffer.bytes_overwrite List.nil_prefix fits
  rw [slice, written]
  by_cases within : start ≤ bytes.length
  · rw [List.drop_append_of_le_length within]
    exact List.take_left' (List.length_drop ..)
  · have beyond := Nat.le_of_not_le within
    rw [Nat.sub_eq_zero_of_le beyond, List.take_zero, List.drop_eq_nil_of_le beyond]

namespace Endpoint

variable {before : Resources} {exchange : DatagramExchange} {tickets buffers : Nat}

theorem armReceive_lends (deadline : Option Duration) (endpoint : Endpoint) {resources : Resources}
    (lends : before.Lends resources tickets buffers) :
    ∃ room next, endpoint.armReceive deadline resources =
        (.ok { armed := some (endpoint.receiveSignals deadline), lease := some room }, next) ∧
      room.length = before.settings.maxDatagramSize + 1 ∧
      before.Lends next (tickets + 1) (buffers + 1) := by
  obtain ⟨next, granted, rented⟩ := lends.rentTicket (endpoint.receiveSignals deadline)
  refine ⟨(next.rentFilled (next.settings.maxDatagramSize + 1)).1,
    (next.rentFilled (next.settings.maxDatagramSize + 1)).2, ?_, ?_, ?_⟩
  · simp only [armReceive, granted, Ticket.attach]
  · rw [Resources.length_rentFilled, rented.settings]
  · exact rented.rentFilled (next.settings.maxDatagramSize + 1)

theorem settle_judged (datagram : Datagram) (signals : Signals) {room : Buffer}
    (roomy : room.length = exchange.resources.settings.maxDatagramSize + 1) :
    datagram.Judged exchange.resources.settings.maxDatagramSize
      (settle (datagram.cut room.length)
        { armed := some signals, lease := some room } exchange).1 := by
  generalize limits : exchange.resources.settings.maxDatagramSize = limit at roomy
  unfold settle judge
  rw [limits]
  by_cases excess : limit < datagram.bytes.length
  · simp only [roomy, Datagram.length_cut excess, Nat.lt_succ_self, if_true]
    exact .oversize excess
  · have whole : datagram.cut room.length = datagram := Datagram.cut_whole (by omega)
    have fits := Nat.le_of_not_lt excess
    rw [whole]
    simp only [excess, if_false]
    cases decoded : Frame.decode datagram.bytes with
    | error reason =>
        have odd : ¬ datagram.Framed limit := by
          rw [Datagram.framed_iff_decode fits]
          rintro ⟨found, read⟩
          rw [decoded] at read
          cases read
        rcases Frame.decode_eq_error decoded with ⟨-, rfl⟩ | ⟨-, rfl⟩
        · exact .malformed _ odd
        · exact .malformed _ odd
    | ok found =>
        exact .frame ((Datagram.framed_iff_decode fits).2 ⟨found, decoded⟩)
          (Buffer.slice_overwrite FrameHeader.size (by omega)) rfl

def received (arrival : Outcome Datagram) (ticket : Ticket) (exchange : DatagramExchange) :
    Outcome Delivery × DatagramExchange :=
  match arrival with
  | .ok datagram => settle datagram ticket exchange
  | .error halt => finish (.error halt) ticket exchange

theorem received_lends (arrival : Outcome Datagram) (ticket : Ticket)
    (lends : before.Lends exchange.resources (tickets + 1) (buffers + ticket.load)) :
    before.Lends (received arrival ticket exchange).2.resources tickets
      (buffers + lent ((received arrival ticket exchange).1.map some)) := by
  cases arrival with
  | ok datagram => exact settle_lends datagram ticket lends
  | error halt => exact lends.giveBackTicket

theorem link_deliver (ticket : Ticket) (remote : SocketAddress) (size : Nat) (lost : String)
    (exchange : DatagramExchange) :
    (deliver ticket remote size lost exchange).2.link = exchange.link := by
  unfold deliver
  split <;> rfl

theorem link_received (arrival : Outcome Datagram) (ticket : Ticket)
    (exchange : DatagramExchange) : (received arrival ticket exchange).2.link = exchange.link := by
  cases arrival with
  | ok datagram =>
      simp only [received, settle]
      split
      · rfl
      · exact link_deliver ..
  | error halt => rfl

/-- A receive that is armed and not yet settled is a socket call. -/
theorem receiveArmed_eq (peek : Bool) (signals : Signals) (room : Buffer)
    (exchange : DatagramExchange) :
    receiveArmed peek { armed := some signals, lease := some room } exchange =
      received (exchange.link.receive (watchOf signals exchange.link) room.length peek).1
        { armed := some signals, lease := some room }
        { exchange with
          link := (exchange.link.receive (watchOf signals exchange.link) room.length peek).2 } := by
  simp only [receiveArmed, Ticket.equipment, Ticket.signals, Ticket.carried, bind, Except.bind,
    pure, Except.pure]
  split <;> rename_i met <;> rw [met] <;> rfl

/-- A send up to its socket: a ticket that carries the frame of `payload`. -/
def armSend (payload : Bytes) (deadline : Option Duration) (endpoint : Endpoint)
    (resources : Resources) : Outcome Ticket × Resources :=
  let size := FrameHeader.size + payload.length
  let limit := resources.settings.maxDatagramSize
  if limit < size then (.error (.error (.datagramTooLarge size limit)), resources)
  else
    match resources.rentTicket { operation := .send, deadline, cancel := some endpoint.cancel } with
    | (.error reason, resources) => (.error (.abort reason), resources)
    | (.ok ticket, resources) =>
        let (buffer, resources) := resources.rentBuffer size
        match Frame.encodeOnto buffer payload with
        | .error reason =>
            (.error (.error reason), (resources.giveBackBuffer buffer).giveBackTicket ticket)
        | .ok (_, frame) =>
            match ticket.attach frame with
            | .error reason =>
                (.error (.error reason), (resources.giveBackBuffer buffer).giveBackTicket ticket)
            | .ok ticket => (.ok ticket, resources)

def departed (remote : SocketAddress) (ticket : Ticket) (size : Nat) (taken : Outcome Nat)
    (exchange : DatagramExchange) : Outcome Delivery × DatagramExchange :=
  match taken with
  | .error halt => finish (.error halt) ticket exchange
  | .ok sent =>
      if sent = size then deliver ticket remote size "datagram send lost its buffer" exchange
      else finish (.error (.error (truncated sent size))) ticket exchange

theorem sendTo_eq (remote : SocketAddress) (payload : Bytes) (deadline : Option Duration)
    (endpoint : Endpoint) (exchange : DatagramExchange) :
    endpoint.sendTo remote payload false deadline exchange =
      match endpoint.armSend payload deadline exchange.resources with
      | (.error halt, resources) => (.error halt, { exchange with resources })
      | (.ok ticket, resources) => sendCarried remote ticket { exchange with resources } := by
  unfold sendTo armSend
  dsimp only
  rw [if_neg Bool.false_ne_true]
  split
  · rfl
  · rcases exchange.resources.rentTicket
      { operation := .send, deadline, cancel := some endpoint.cancel } with ⟨_ | ticket, resources⟩
    · rfl
    · dsimp only
      rcases Frame.encodeOnto (resources.rentBuffer (FrameHeader.size + payload.length)).1 payload
        with _ | ⟨header, frame⟩
      · rfl
      · dsimp only
        rcases ticket.attach frame with _ | ticket <;> rfl

theorem sendCarried_eq (remote : SocketAddress) (signals : Signals) (frame : Buffer)
    (exchange : DatagramExchange) :
    sendCarried remote { armed := some signals, lease := some frame } exchange =
      departed remote { armed := some signals, lease := some frame } frame.length
        (exchange.link.send (watchOf signals exchange.link) ⟨frame.bytes, remote⟩).1
        { exchange with
          link := (exchange.link.send (watchOf signals exchange.link)
            ⟨frame.bytes, remote⟩).2 } := by
  simp only [sendCarried, Ticket.equipment, Ticket.signals, Ticket.carried, bind, Except.bind,
    pure, Except.pure]
  split <;> rename_i met <;> rw [met] <;> rfl

theorem armSend_lends (payload : Bytes) (deadline : Option Duration) (endpoint : Endpoint)
    {resources : Resources} (lends : before.Lends resources tickets buffers) :
    (∃ halt next, endpoint.armSend payload deadline resources = (.error halt, next) ∧
        before.Lends next tickets buffers) ∨
      ∃ signals frame next, endpoint.armSend payload deadline resources =
          (.ok { armed := some signals, lease := some frame }, next) ∧
        frame.bytes = Wire.image payload ∧ before.Lends next (tickets + 1) (buffers + 1) := by
  obtain ⟨next, granted, rented⟩ := lends.rentTicket
    { operation := .send, deadline, cancel := some endpoint.cancel }
  have room := rented.rentBuffer (FrameHeader.size + payload.length)
  have empty := rented.tidy.bytes_rentBuffer (FrameHeader.size + payload.length)
  unfold armSend
  dsimp only
  split
  · exact Or.inl ⟨_, _, rfl, lends⟩
  · rw [granted]
    dsimp only
    cases encoded : Frame.encodeOnto (next.rentBuffer (FrameHeader.size + payload.length)).1 payload
      with
    | error reason => exact Or.inl ⟨_, _, rfl, (room.giveBackBuffer _).giveBackTicket⟩
    | ok made =>
        have image := (Frame.encodeOnto_eq_ok encoded).2
        rw [empty, List.nil_append] at image
        exact Or.inr ⟨_, made.2, _, rfl, image, room⟩

theorem departed_lends (remote : SocketAddress) (ticket : Ticket) (size : Nat) (taken : Outcome Nat)
    (lends : before.Lends exchange.resources (tickets + 1) (buffers + ticket.load)) :
    before.Lends (departed remote ticket size taken exchange).2.resources tickets
      (buffers + lent ((departed remote ticket size taken exchange).1.map some)) := by
  unfold departed
  split
  · exact lends.giveBackTicket
  · split
    · exact deliver_lends ticket remote size _ lends
    · exact lends.giveBackTicket

theorem link_departed (remote : SocketAddress) (ticket : Ticket) (size : Nat)
    (taken : Outcome Nat) (exchange : DatagramExchange) :
    (departed remote ticket size taken exchange).2.link = exchange.link := by
  unfold departed
  split
  · rfl
  · split
    · exact link_deliver ..
    · rfl

end Endpoint

end FramedTransport
