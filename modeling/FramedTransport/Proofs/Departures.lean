import FramedTransport.Proofs.Datagrams

/-!
Datagrams on their way out.
A send that asks for a peek, or whose frame is longer than a datagram may be, touches
nothing. If the socket takes a datagram whole or not at all, every other send puts one
datagram with the whole frame on the network and succeeds, or puts nothing there and fails.
-/

namespace FramedTransport

namespace DatagramLink

/-- A socket that never takes only a part of a datagram. -/
def Entire (link : DatagramLink) : Prop :=
  ∀ departure ∈ link.departures.actions, ∀ count, departure ≠ .cut count

def Accepts (watch : Watch) (link : DatagramLink) : Prop :=
  (Race.run link.time { watch, source := link.departures }).outcome = .ok none ∨
    (Race.run link.time { watch, source := link.departures }).outcome = .ok (some .whole)

variable {watch : Watch} {link : DatagramLink}

theorem Accepts.send (accepts : link.Accepts watch) (datagram : Datagram) :
    (link.send watch datagram).1 = .ok datagram.bytes.length ∧
      (link.send watch datagram).2.sent = link.sent ++ [datagram] := by
  have whole : datagram.bytes.take datagram.bytes.length = datagram.bytes := List.take_length
  rcases accepts with past | taken
  · simp only [DatagramLink.send, past, whole]
    trivial
  · simp only [DatagramLink.send, taken, whole]
    trivial

theorem send_refused (datagram : Datagram) (entire : link.Entire) (refuses : ¬ link.Accepts watch) :
    ∃ halt, (link.send watch datagram).1 = .error halt ∧
      (link.send watch datagram).2.sent = link.sent := by
  have raced := Race.outcome_run link.time { watch, source := link.departures }
  cases ended : (Race.run link.time { watch, source := link.departures }).outcome with
  | error halt => exact ⟨halt, by simp only [send, ended, and_self]⟩
  | ok value =>
      cases value with
      | none => exact absurd (Or.inl ended) refuses
      | some departure =>
          cases departure with
          | whole => exact absurd (Or.inr ended) refuses
          | fail fault =>
              refine ⟨.error (.transport watch.operation fault), ?_⟩
              simp only [send, ended, and_self]
          | cut count =>
              rw [ended] at raced
              have planned : Departure.cut count ∈ link.departures.actions :=
                raced.1 ▸ List.mem_cons_self
              exact absurd rfl (entire _ planned count)

end DatagramLink

namespace Endpoint

variable {resources : Resources}

def sendSignals (deadline : Option Duration) (endpoint : Endpoint) : Signals :=
  { operation := .send, deadline, cancel := some endpoint.cancel }

theorem armSend_armed {payload : Bytes} (deadline : Option Duration) (endpoint : Endpoint)
    (tidy : resources.Tidy) (announced : payload.length < UInt32.size)
    (fits : FrameHeader.size + payload.length ≤ resources.settings.maxDatagramSize) :
    ∃ frame next, endpoint.armSend payload deadline resources =
        (.ok { armed := some (endpoint.sendSignals deadline), lease := some frame }, next) ∧
      frame.bytes = Wire.image payload := by
  obtain ⟨rented, granted, clean, -⟩ := tidy.rentTicket (endpoint.sendSignals deadline)
  have empty := clean.bytes_rentBuffer (FrameHeader.size + payload.length)
  obtain ⟨encoded, made, image⟩ := Frame.appendTo_fits
    (rented.rentBuffer (FrameHeader.size + payload.length)).1 announced
  have encodes := Frame.encodeOnto_eq_appendTo
    (rented.rentBuffer (FrameHeader.size + payload.length)).1 payload
  rw [made] at encodes
  refine ⟨encoded, (rented.rentBuffer (FrameHeader.size + payload.length)).2, ?_, ?_⟩
  · simp only [sendSignals] at granted
    simp only [armSend, Nat.not_lt.2 fits, if_false, granted, encodes, Except.map, Ticket.attach,
      sendSignals]
  · rw [image, empty, List.nil_append]

theorem armSend_excessive {payload : Bytes} (deadline : Option Duration) (endpoint : Endpoint)
    (tidy : resources.Tidy) (excess : UInt32.size ≤ payload.length)
    (fits : FrameHeader.size + payload.length ≤ resources.settings.maxDatagramSize) :
    ∃ halt next, endpoint.armSend payload deadline resources = (.error halt, next) := by
  obtain ⟨rented, granted, -, -⟩ := tidy.rentTicket (endpoint.sendSignals deadline)
  have refuses := Frame.encodeOnto_eq_appendTo
    (rented.rentBuffer (FrameHeader.size + payload.length)).1 payload
  rw [Frame.appendTo_excessive _ excess] at refuses
  simp only [sendSignals] at granted
  simp only [armSend, Nat.not_lt.2 fits, if_false, granted, refuses, Except.map]
  exact ⟨_, _, rfl⟩

section Sends

variable {exchange : DatagramExchange} {payload : Bytes}

theorem sendTo_peek (remote : SocketAddress) (payload : Bytes) (deadline : Option Duration)
    (endpoint : Endpoint) (exchange : DatagramExchange) :
    endpoint.sendTo remote payload true deadline exchange =
      (.error (.error .unsupportedFlags), exchange) := rfl

theorem sendTo_oversize (remote : SocketAddress) (deadline : Option Duration) (endpoint : Endpoint)
    (excess : exchange.resources.settings.maxDatagramSize < FrameHeader.size + payload.length) :
    endpoint.sendTo remote payload false deadline exchange =
      (.error (.error (.datagramTooLarge (FrameHeader.size + payload.length)
        exchange.resources.settings.maxDatagramSize)), exchange) := by
  simp only [sendTo, excess, if_true, Bool.false_eq_true, if_false]

/-- A send that fits is the socket's business from the moment it is armed. -/
theorem sendTo_armed (remote : SocketAddress) (deadline : Option Duration) (endpoint : Endpoint)
    (tidy : exchange.resources.Tidy) (announced : payload.length < UInt32.size)
    (fits : FrameHeader.size + payload.length ≤ exchange.resources.settings.maxDatagramSize) :
    ∃ frame resources, frame.bytes = Wire.image payload ∧
      endpoint.sendTo remote payload false deadline exchange =
        let met := exchange.link.send (watchOf (endpoint.sendSignals deadline) exchange.link)
          ⟨Wire.image payload, remote⟩
        departed remote { armed := some (endpoint.sendSignals deadline), lease := some frame }
          (FrameHeader.size + payload.length) met.1 { resources, link := met.2 } := by
  obtain ⟨frame, resources, armed, image⟩ := endpoint.armSend_armed deadline tidy announced fits
  refine ⟨frame, resources, image, ?_⟩
  rw [sendTo_eq, armed]
  dsimp only
  rw [sendCarried_eq, Buffer.length, image, Wire.length_image]

theorem sendTo_accepted (remote : SocketAddress) (deadline : Option Duration) (endpoint : Endpoint)
    (tidy : exchange.resources.Tidy) (announced : payload.length < UInt32.size)
    (fits : FrameHeader.size + payload.length ≤ exchange.resources.settings.maxDatagramSize)
    (accepts : exchange.link.Accepts (watchOf (endpoint.sendSignals deadline) exchange.link)) :
    ∃ delivery next, endpoint.sendTo remote payload false deadline exchange = (.ok delivery, next) ∧
      delivery.payload = payload ∧ delivery.transferred = FrameHeader.size + payload.length ∧
      delivery.remote = remote ∧
      next.link.sent = exchange.link.sent ++ [⟨Wire.image payload, remote⟩] := by
  obtain ⟨frame, resources, image, sent⟩ :=
    endpoint.sendTo_armed remote deadline tidy announced fits
  obtain ⟨whole, taken⟩ := accepts.send ⟨Wire.image payload, remote⟩
  rw [Wire.length_image] at whole
  simp only [sent, whole, departed, if_true, deliver, Ticket.detach, finish]
  refine ⟨_, _, rfl, ?_, rfl, rfl, taken⟩
  exact @Receiver.slice_image frame ⟨payload, announced⟩ image

theorem sendTo_refused (remote : SocketAddress) (deadline : Option Duration) (endpoint : Endpoint)
    (tidy : exchange.resources.Tidy) (entire : exchange.link.Entire)
    (fits : FrameHeader.size + payload.length ≤ exchange.resources.settings.maxDatagramSize)
    (refuses : ¬ (payload.length < UInt32.size ∧
      exchange.link.Accepts (watchOf (endpoint.sendSignals deadline) exchange.link))) :
    ∃ halt next, endpoint.sendTo remote payload false deadline exchange = (.error halt, next) ∧
      next.link.sent = exchange.link.sent := by
  by_cases announced : payload.length < UInt32.size
  · obtain ⟨frame, resources, -, sent⟩ := endpoint.sendTo_armed remote deadline tidy announced fits
    obtain ⟨halt, failed, kept⟩ := DatagramLink.send_refused ⟨Wire.image payload, remote⟩ entire
      fun accepts => refuses ⟨announced, accepts⟩
    simp only [sent, failed, departed, finish]
    exact ⟨halt, _, rfl, kept⟩
  · obtain ⟨halt, resources, failed⟩ :=
      endpoint.armSend_excessive deadline tidy (Nat.le_of_not_lt announced) fits
    rw [sendTo_eq, failed]
    exact ⟨halt, _, rfl, rfl⟩

end Sends

/-- A send with a flag or a payload that it does not allow touches neither the pools nor the
socket. Every other send puts at most one datagram on the network, the whole frame of its payload,
and tells its caller whether it did. -/
theorem sends_whole_or_not_at_all (endpoint : Endpoint) (exchange : DatagramExchange)
    (remote : SocketAddress) (payload : Bytes) (peek : Bool) (deadline : Option Duration)
    (tidy : exchange.resources.Tidy) (entire : exchange.link.Entire) :
    let sent := endpoint.sendTo remote payload peek deadline exchange
    let size := 4 + payload.length
    let limit := exchange.resources.settings.maxDatagramSize
    let departed := exchange.link.sent ++ [⟨Wire.image payload, remote⟩]
    (peek = true → sent = (.error (.error .unsupportedFlags), exchange)) ∧
      (peek = false → limit < size →
        sent = (.error (.error (.datagramTooLarge size limit)), exchange)) ∧
      (peek = false → size ≤ limit →
        (sent.2.link.sent = exchange.link.sent ∨ sent.2.link.sent = departed) ∧
        ((∃ delivery, sent.1 = .ok delivery) ↔ sent.2.link.sent = departed) ∧
        ((∃ delivery, sent.1 = .ok delivery) ↔ payload.length < 2 ^ 32 ∧
          exchange.link.Accepts (watchOf (endpoint.sendSignals deadline) exchange.link)) ∧
        ∀ delivery, sent.1 = .ok delivery →
          delivery.payload = payload ∧ delivery.transferred = size ∧
            delivery.remote = remote) := by
  intro sent size limit departed
  refine ⟨?_, ?_, ?_⟩
  · rintro rfl
    exact endpoint.sendTo_peek remote payload deadline exchange
  · rintro rfl excess
    exact endpoint.sendTo_oversize remote deadline excess
  · rintro rfl fits
    by_cases goes : payload.length < 2 ^ 32 ∧
        exchange.link.Accepts (watchOf (endpoint.sendSignals deadline) exchange.link)
    · obtain ⟨delivery, next, ended, payload, transferred, address, taken⟩ :=
        endpoint.sendTo_accepted remote deadline tidy goes.1 fits goes.2
      have outcome : sent = (.ok delivery, next) := ended
      rw [outcome]
      refine ⟨.inr taken, iff_of_true ⟨delivery, rfl⟩ taken, iff_of_true ⟨delivery, rfl⟩ goes, ?_⟩
      rintro other ⟨⟩
      exact ⟨payload, transferred, address⟩
    · obtain ⟨halt, next, ended, kept⟩ :=
        endpoint.sendTo_refused remote deadline tidy entire fits goes
      have outcome : sent = (.error halt, next) := ended
      have unsent : next.link.sent ≠ departed := by
        rw [kept]
        simp [departed]
      rw [outcome]
      exact ⟨.inl kept, iff_of_false nofun unsent, iff_of_false nofun goes, nofun⟩

def oneUsedBuffer : DatagramExchange where
  resources := (Resources.ofSettings {}).giveBackBuffer { bytes := [1, 2, 3], capacity := 64 }
  link := {}

theorem tidy_oneUsedBuffer : oneUsedBuffer.resources.Tidy :=
  (Resources.tidy_ofSettings {}).giveBackBuffer _

theorem accepts_oneUsedBuffer (watch : Watch) : oneUsedBuffer.link.Accepts watch :=
  .inl (@Race.run_at_once _ oneUsedBuffer.link.time { watch, source := [] } none rfl rfl).1

/-- What the buffer held before is not sent with the new frame. -/
theorem used_buffer_sends_whole :
    let endpoint : Endpoint := { address := ⟨IpAddress.loopback, 80, 0⟩, cancel := ⟨[]⟩ }
    let sent := endpoint.sendTo ⟨IpAddress.loopback, 81, 0⟩ [7] false none oneUsedBuffer
    oneUsedBuffer.resources.buffers.pool.idle.length = 1 ∧ (∃ delivery, sent.1 = .ok delivery) ∧
      sent.2.link.sent = [⟨[0, 0, 0, 1, 7], ⟨IpAddress.loopback, 81, 0⟩⟩] := by
  intro endpoint sent
  have entire : oneUsedBuffer.link.Entire := by
    intro departure planned
    cases planned
  obtain ⟨-, -, law⟩ := sends_whole_or_not_at_all endpoint oneUsedBuffer
    ⟨IpAddress.loopback, 81, 0⟩ [7] false none tidy_oneUsedBuffer entire
  obtain ⟨-, departs, succeeds, -⟩ := law rfl (by decide)
  have ended := succeeds.2 ⟨by decide, accepts_oneUsedBuffer _⟩
  exact ⟨rfl, ended, departs.1 ended⟩

end Endpoint

end FramedTransport
