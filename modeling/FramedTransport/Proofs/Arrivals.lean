import FramedTransport.Proofs.Departures
import FramedTransport.Proofs.Twins

/-!
Datagrams on their way in.
A socket that offers a datagram shows as much of it as there is room for. One byte more than
the limit is room enough to tell every datagram that is too long from every one that fits, so
only whole frames are accepted. A peek leaves the datagram at the front of the queue, where
the next receive finds it; a receive takes it out, whatever it makes of it.
-/

namespace FramedTransport

namespace Script

variable {α : Type}

@[simp] theorem actions_thenSilence (script : Script α) :
    script.thenSilence.actions = script.actions := by
  simp [thenSilence, actions]

theorem actions_dropLast {script rest : Script α} (suffix : rest <:+ script.thenSilence) :
    actions rest.dropLast = rest.actions := by
  obtain ⟨before, same⟩ := suffix
  rcases List.eq_nil_or_concat rest with rfl | ⟨more, last, rfl⟩
  · rfl
  · have silence : last = { cue := .hang } := by
      simpa [thenSilence] using congrArg List.getLast? same
    subst silence
    simp [actions]

end Script

namespace DatagramLink

/-- Under this watch the socket comes up with this datagram. -/
def Offers (watch : Watch) (datagram : Datagram) (link : DatagramLink) : Prop :=
  (Race.run link.time { watch, source := link.arrivals.thenSilence }).outcome =
    .ok (some (.ok datagram))

def queue (link : DatagramLink) : List (Except Fault Datagram) := link.arrivals.actions

variable {watch : Watch} {datagram : Datagram} {link : DatagramLink}

theorem offers_at_once (watch : Watch) {event : Event (Except Fault Datagram)}
    {rest : Script (Except Fault Datagram)} (running : link.time.cancelled = false)
    (front : link.arrivals = event :: rest) (come : event.notBefore ≤ link.time.now)
    (there : event.cue = .act (.ok datagram)) : link.Offers watch datagram := by
  have ready : (Script.poll link.time.now link.arrivals.thenSilence).answer =
      .ready (some (.ok datagram)) := by
    simp [front, Script.thenSilence, Script.poll, Nat.not_lt.2 come, there]
  exact (@Race.run_at_once _ _ { watch, source := link.arrivals.thenSilence } _ running ready).1

theorem Offers.receive (offers : link.Offers watch datagram) (room : Nat) (peek : Bool) :
    (link.receive watch room peek).1 = .ok (datagram.cut room) := by
  unfold Offers at offers
  simp only [DatagramLink.receive, offers, Datagram.cut]

theorem Offers.arrivals (offers : link.Offers watch datagram) (room : Nat) :
    ∃ rest : Script (Except Fault Datagram), link.queue = .ok datagram :: rest.actions ∧
      ∀ peek, (link.receive watch room peek).2.arrivals =
        if peek then { cue := .act (.ok datagram) } :: rest else rest := by
  have suffix := (@Race.settled_run _ link.time
    { watch, source := link.arrivals.thenSilence }).suffix
  have raced := @Race.outcome_run _ link.time { watch, source := link.arrivals.thenSilence }
  unfold Offers at offers
  rw [offers] at raced
  have left := raced.1
  rw [Script.actions_thenSilence, ← Script.actions_dropLast suffix] at left
  refine ⟨_, left, ?_⟩
  intro peek
  simp only [DatagramLink.receive, offers]

theorem Offers.queue (offers : link.Offers watch datagram) (room : Nat) (peek : Bool) :
    ∃ rest, link.queue = .ok datagram :: rest ∧
      (link.receive watch room peek).2.queue = if peek then link.queue else rest := by
  obtain ⟨rest, front, left⟩ := offers.arrivals room
  refine ⟨rest.actions, front, ?_⟩
  rw [DatagramLink.queue, left, front]
  cases peek <;> rfl

theorem Offers.peek (offers : link.Offers watch datagram) (room : Nat) (another : Watch)
    {time : Timeline} (running : time.cancelled = false) :
    { (link.receive watch room true).2 with time }.Offers another datagram := by
  obtain ⟨rest, -, left⟩ := offers.arrivals room
  exact offers_at_once another running (left true) (Nat.zero_le _) rfl

end DatagramLink

namespace Delivery

variable {outcome : Outcome Delivery}

theorem told_eq {delivery : Delivery} {payload : Bytes} {count : Nat} {remote : SocketAddress} :
    delivery.told = (payload, count, remote) ↔
      delivery.payload = payload ∧ delivery.transferred = count ∧ delivery.remote = remote := by
  simp only [told, Prod.mk.injEq]

theorem error_of_told {halt : Halt} (told : outcome.map Delivery.told = .error halt) :
    outcome = .error halt := by
  cases outcome with
  | error reason => exact congrArg Except.error (Except.error.inj told)
  | ok delivery => cases told

theorem ok_of_told {seen : Bytes × Nat × SocketAddress}
    (told : outcome.map Delivery.told = .ok seen) :
    ∃ delivery, outcome = .ok delivery ∧ delivery.told = seen := by
  cases outcome with
  | error reason => cases told
  | ok delivery => exact ⟨delivery, rfl, Except.ok.inj told⟩

end Delivery

namespace Datagram

def Carries (payload : Bytes) (datagram : Datagram) : Prop :=
  payload.length < UInt32.size ∧ datagram.bytes = Wire.image payload

def verdict (limit : Nat) (datagram : Datagram) : Outcome (Bytes × Nat × SocketAddress) :=
  if limit < datagram.bytes.length then .error (.error (.datagramTooLarge (limit + 1) limit))
  else
    match Frame.decode datagram.bytes with
    | .error reason => .error (.error reason)
    | .ok (_, payload) => .ok (payload, datagram.bytes.length, datagram.remote)

/-- How a receive has dealt with a datagram. -/
structure Received (limit : Nat) (datagram : Datagram) (outcome : Outcome Delivery) : Prop where
  accepted : (∃ delivery, outcome = .ok delivery) ↔
    datagram.bytes.length ≤ limit ∧ ∃ payload, datagram.Carries payload
  delivered : ∀ delivery, outcome = .ok delivery →
    datagram.Carries delivery.payload ∧ delivery.transferred = datagram.bytes.length ∧
      delivery.remote = datagram.remote
  oversize : ∀ size bound, outcome = .error (.error (.datagramTooLarge size bound)) ↔
    limit < datagram.bytes.length ∧ size = limit + 1 ∧ bound = limit
  malformed : (∃ detail, outcome = .error (.error (.malformedFrame detail))) ↔
    datagram.bytes.length ≤ limit ∧ ∀ payload, ¬ datagram.Carries payload

variable {limit : Nat} {datagram : Datagram} {payload : Bytes}

theorem Carries.length (carries : datagram.Carries payload) :
    datagram.bytes.length = FrameHeader.size + payload.length := by
  rw [carries.2, Wire.length_image]

theorem Carries.unique {other : Bytes} (carries : datagram.Carries payload)
    (too : datagram.Carries other) : payload = other := by
  have same : Wire.image payload ++ [] = Wire.image other ++ [] := by rw [← carries.2, ← too.2]
  exact congrArg WireFrame.payload
    (@Wire.image_append_inj ⟨payload, carries.1⟩ ⟨other, too.1⟩ [] [] same)

theorem Carries.verdict (carries : datagram.Carries payload)
    (fits : datagram.bytes.length ≤ limit) :
    datagram.verdict limit = .ok (payload, datagram.bytes.length, datagram.remote) := by
  obtain ⟨announced, image⟩ := carries
  have decoded := Frame.decode_image ⟨payload, announced⟩
  rw [← image] at decoded
  simp only [Datagram.verdict, Nat.not_lt.2 fits, if_false, decoded]

theorem verdict_malformed (fits : datagram.bytes.length ≤ limit)
    (odd : ∀ payload, ¬ datagram.Carries payload) :
    ∃ detail, datagram.verdict limit = .error (.error (.malformedFrame detail)) := by
  cases decoded : Frame.decode datagram.bytes with
  | ok found =>
      obtain ⟨frame, -, payload, image⟩ := Frame.decode_eq_ok_iff.1 decoded
      exact absurd ⟨payload ▸ frame.payload_lt, image⟩ (odd found.2)
  | error reason =>
      simp only [verdict, Nat.not_lt.2 fits, if_false, decoded]
      rcases Frame.decode_eq_error decoded with ⟨-, rfl⟩ | ⟨-, rfl⟩
      · exact ⟨_, rfl⟩
      · exact ⟨_, rfl⟩

theorem verdict_oversize (excess : limit < datagram.bytes.length) :
    datagram.verdict limit = .error (.error (.datagramTooLarge (limit + 1) limit)) :=
  if_pos excess

theorem received_of_told {outcome : Outcome Delivery}
    (told : outcome.map Delivery.told = datagram.verdict limit) :
    datagram.Received limit outcome := by
  by_cases excess : limit < datagram.bytes.length
  · have long := Nat.not_le.2 excess
    rw [verdict_oversize excess] at told
    obtain rfl := Delivery.error_of_told told
    exact
      { accepted := iff_of_false nofun fun within => long within.1
        delivered := nofun
        oversize := by simp [excess, eq_comm]
        malformed := iff_of_false nofun fun within => long within.1 }
  · have fits := Nat.le_of_not_lt excess
    by_cases carried : ∃ payload, datagram.Carries payload
    · obtain ⟨payload, carries⟩ := carried
      rw [carries.verdict fits] at told
      obtain ⟨delivery, rfl, seen⟩ := Delivery.ok_of_told told
      obtain ⟨rfl, transferred, remote⟩ := Delivery.told_eq.1 seen
      exact
        { accepted := iff_of_true ⟨delivery, rfl⟩ ⟨fits, _, carries⟩
          delivered := by
            rintro other ⟨⟩
            exact ⟨carries, transferred, remote⟩
          oversize := fun size bound => iff_of_false nofun fun long => excess long.1
          malformed := iff_of_false nofun fun odd => odd.2 _ carries }
    · have odd := not_exists.1 carried
      obtain ⟨detail, refused⟩ := verdict_malformed fits odd
      rw [refused] at told
      obtain rfl := Delivery.error_of_told told
      exact
        { accepted := iff_of_false nofun fun whole => carried whole.2
          delivered := nofun
          oversize := fun size bound => iff_of_false nofun fun long => excess long.1
          malformed := iff_of_true ⟨detail, rfl⟩ ⟨fits, odd⟩ }

end Datagram

namespace Endpoint

variable {exchange : DatagramExchange} {datagram : Datagram}

theorem told_settle (datagram : Datagram) (signals : Signals) {room : Buffer}
    (roomy : room.length = exchange.resources.settings.maxDatagramSize + 1) :
    (settle (datagram.cut room.length) { armed := some signals, lease := some room }
        exchange).1.map Delivery.told =
      datagram.verdict exchange.resources.settings.maxDatagramSize := by
  generalize limits : exchange.resources.settings.maxDatagramSize = limit at roomy
  unfold settle judge
  rw [limits]
  by_cases excess : limit < datagram.bytes.length
  · rw [Datagram.verdict_oversize excess]
    simp only [roomy, Datagram.length_cut excess, Nat.lt_succ_self, if_true]
    rfl
  · have whole : datagram.cut room.length = datagram := Datagram.cut_whole (by omega)
    rw [whole]
    simp only [excess, if_false, Datagram.verdict]
    cases decoded : Frame.decode datagram.bytes with
    | error reason => rfl
    | ok found =>
        obtain ⟨frame, -, payload, image⟩ := Frame.decode_eq_ok_iff.1 decoded
        have behind : datagram.bytes.drop FrameHeader.size = found.2 := by
          rw [image]
          exact List.drop_left' (Bytes.length_bigEndian _ _)
        have taken := Buffer.slice_overwrite FrameHeader.size
          (show datagram.bytes.length ≤ room.length by omega)
        rw [behind] at taken
        exact congrArg Except.ok (Delivery.told_eq.2 ⟨taken, rfl, rfl⟩)

theorem receiveFrom_eq (peek : Bool) (deadline : Option Duration) (endpoint : Endpoint)
    (tidy : exchange.resources.Tidy) :
    let limit := exchange.resources.settings.maxDatagramSize
    let met := exchange.link.receive (watchOf (endpoint.receiveSignals deadline) exchange.link)
      (limit + 1) peek
    ∃ room resources, room.length = limit + 1 ∧ exchange.resources.Lends resources 1 1 ∧
      endpoint.receiveFrom peek deadline exchange =
        received met.1 { armed := some (endpoint.receiveSignals deadline), lease := some room }
          { resources, link := met.2 } := by
  obtain ⟨room, resources, armed, roomy, lends⟩ :=
    endpoint.armReceive_lends deadline (Resources.Lends.none tidy)
  refine ⟨room, resources, roomy, lends, ?_⟩
  rw [receiveFrom, armed]
  dsimp only
  rw [receiveArmed_eq, roomy]

section Offered

variable {deadline : Option Duration} {endpoint : Endpoint} (peek : Bool)
  (tidy : exchange.resources.Tidy)
  (offers : exchange.link.Offers (watchOf (endpoint.receiveSignals deadline) exchange.link)
    datagram)

include tidy in
theorem receiveFrom_tidy :
    (endpoint.receiveFrom peek deadline exchange).2.resources.Tidy ∧
      (endpoint.receiveFrom peek deadline exchange).2.resources.settings =
        exchange.resources.settings := by
  obtain ⟨room, resources, -, lends, ended⟩ := endpoint.receiveFrom_eq peek deadline tidy
  have settled (arrival : Outcome Datagram) (link : DatagramLink) :=
    @received_lends exchange.resources { resources, link } 0 0 arrival
      { armed := some (endpoint.receiveSignals deadline), lease := some room } lends
  rw [ended]
  exact ⟨(settled _ _).tidy, (settled _ _).settings⟩

include tidy in
theorem link_receiveFrom :
    (endpoint.receiveFrom peek deadline exchange).2.link =
      (exchange.link.receive (watchOf (endpoint.receiveSignals deadline) exchange.link)
        (exchange.resources.settings.maxDatagramSize + 1) peek).2 := by
  obtain ⟨room, resources, -, -, ended⟩ := endpoint.receiveFrom_eq peek deadline tidy
  rw [ended, link_received]

include tidy offers in
theorem told_receiveFrom :
    (endpoint.receiveFrom peek deadline exchange).1.map Delivery.told =
      datagram.verdict exchange.resources.settings.maxDatagramSize := by
  obtain ⟨room, resources, roomy, lends, ended⟩ := endpoint.receiveFrom_eq peek deadline tidy
  have same := lends.settings
  rw [ended, offers.receive, ← roomy, ← same]
  exact told_settle datagram (endpoint.receiveSignals deadline) (by rw [roomy, same])

include tidy offers in
/-- After a peek another receive comes to the same verdict, with whatever buffers and whenever. -/
theorem told_after_peek (another : Endpoint) (later : Option Duration) {time : Timeline}
    {resources : Resources} (clean : resources.Tidy)
    (same : resources.settings.maxDatagramSize = exchange.resources.settings.maxDatagramSize)
    (running : time.cancelled = false) :
    let link := { (endpoint.receiveFrom true deadline exchange).2.link with time }
    (another.receiveFrom false later { resources, link }).1.map Delivery.told =
      datagram.verdict exchange.resources.settings.maxDatagramSize := by
  intro link
  have offered : link.Offers (watchOf (another.receiveSignals later) link) datagram := by
    simp only [link, link_receiveFrom true tidy]
    exact offers.peek _ _ running
  rw [← same]
  exact @told_receiveFrom { resources, link } datagram later another false clean offered

end Offered

/-- A payload that has left one endpoint as a datagram is received at another one exactly if both
of them allow a datagram of its size. -/
theorem crosses_iff {outcome : Outcome Delivery} {limit : Nat} {payload : Bytes}
    (remote : SocketAddress) (deadline : Option Duration) (sender : Endpoint)
    (received : datagram.Received limit outcome) (tidy : exchange.resources.Tidy)
    (announced : payload.length < UInt32.size)
    (accepts : exchange.link.Accepts (watchOf (sender.sendSignals deadline) exchange.link))
    (delivers : ∀ gone, (sender.sendTo remote payload false deadline exchange).2.link.sent =
      exchange.link.sent ++ [gone] → datagram = { gone with remote := sender.address }) :
    ((∃ gone, (sender.sendTo remote payload false deadline exchange).2.link.sent =
        exchange.link.sent ++ [gone]) ∧
      ∃ delivery, outcome = .ok delivery ∧ delivery.payload = payload) ↔
    FrameHeader.size + payload.length ≤ exchange.resources.settings.maxDatagramSize ∧
      FrameHeader.size + payload.length ≤ limit := by
  by_cases fits : FrameHeader.size + payload.length ≤ exchange.resources.settings.maxDatagramSize
  · obtain ⟨delivery, next, ended, -, -, -, taken⟩ :=
      sender.sendTo_accepted remote deadline tidy announced fits accepts
    rw [ended] at delivers ⊢
    obtain rfl := delivers _ taken
    have carries : Datagram.Carries payload ⟨Wire.image payload, sender.address⟩ :=
      ⟨announced, rfl⟩
    have length := carries.length
    constructor
    · rintro ⟨-, delivery, rfl, -⟩
      exact ⟨fits, length ▸ (received.accepted.1 ⟨delivery, rfl⟩).1⟩
    · rintro ⟨-, within⟩
      obtain ⟨delivery, rfl⟩ := received.accepted.2 ⟨length ▸ within, payload, carries⟩
      exact ⟨⟨_, taken⟩, delivery, rfl, (received.delivered delivery rfl).1.unique carries⟩
  · have refused := sender.sendTo_oversize remote deadline (Nat.lt_of_not_le fits)
    constructor
    · rintro ⟨⟨gone, left⟩, -⟩
      rw [refused] at left
      simp at left
    · rintro ⟨within, -⟩
      exact absurd within fits

/-- A receive accepts the datagram that it is offered exactly if the datagram is a frame within the
limit, and says what is wrong with every other one. A peek leaves the datagram in the queue, where
the next receive comes to the same result, and everything else takes it out of the queue, so what
one endpoint sends another one receives exactly if it is within the limits of both. -/
theorem receives_exactly_the_frames (endpoint : Endpoint) (exchange : DatagramExchange)
    (datagram : Datagram) (peek : Bool) (deadline : Option Duration)
    (tidy : exchange.resources.Tidy)
    (offers : exchange.link.Offers (watchOf (endpoint.receiveSignals deadline) exchange.link)
      datagram) :
    let limit := exchange.resources.settings.maxDatagramSize
    let ended := endpoint.receiveFrom peek deadline exchange
    datagram.Received limit ended.1 ∧
      (ended.2.resources.Tidy ∧ ended.2.resources.settings = exchange.resources.settings) ∧
      (∃ rest, exchange.link.queue = .ok datagram :: rest ∧
        ended.2.link.queue = if peek then exchange.link.queue else rest) ∧
      (peek = true → ∀ (another : Endpoint) (later : Option Duration) (time : Timeline)
        (resources : Resources), resources.Tidy → resources.settings.maxDatagramSize = limit →
          time.cancelled = false →
          let next := another.receiveFrom false later
            { resources, link := { ended.2.link with time } }
          next.1.map Delivery.told = ended.1.map Delivery.told) ∧
      ∀ (sender : Endpoint) (origin : DatagramExchange) (remote : SocketAddress) (payload : Bytes)
        (wait : Option Duration), origin.resources.Tidy → payload.length ≤ 2 ^ 32 - 1 →
        origin.link.Accepts (watchOf (sender.sendSignals wait) origin.link) →
        let sent := (sender.sendTo remote payload false wait origin).2.link.sent
        (∀ gone, sent = origin.link.sent ++ [gone] →
          datagram = { gone with remote := sender.address }) →
        (((∃ gone, sent = origin.link.sent ++ [gone]) ∧
            ∃ delivery, ended.1 = .ok delivery ∧ delivery.payload = payload) ↔
          4 + payload.length ≤ origin.resources.settings.maxDatagramSize ∧
            4 + payload.length ≤ limit) := by
  have widest : UInt32.size = 2 ^ 32 := rfl
  intro limit ended
  have told := told_receiveFrom peek tidy offers
  have received : datagram.Received limit ended.1 := Datagram.received_of_told told
  refine ⟨received, receiveFrom_tidy peek tidy, ?_, ?_, ?_⟩
  · have left : ended.2.link = _ := link_receiveFrom peek tidy
    rw [left]
    exact offers.queue _ peek
  · rintro rfl another later time resources clean same running
    exact (told_after_peek tidy offers another later clean same running).trans told.symm
  · intro sender origin remote payload wait clean announced accepts sent delivers
    exact crosses_iff remote wait sender received clean (by omega) accepts delivers

def oneWaiting : DatagramExchange where
  resources := oneUsedBuffer.resources
  link :=
    { arrivals := [{ cue := .act (.ok ⟨[0, 0, 0, 1, 7], ⟨IpAddress.loopback, 80, 0⟩⟩) }] }

/-- A frame that another endpoint has sent is looked at, and then received. -/
theorem frame_is_peeked_and_received :
    let sender : Endpoint := { address := ⟨IpAddress.loopback, 80, 0⟩, cancel := ⟨[]⟩ }
    let receiver : Endpoint := { address := ⟨IpAddress.loopback, 81, 0⟩, cancel := ⟨[]⟩ }
    let sent := (sender.sendTo receiver.address [7] false none oneUsedBuffer).2.link.sent
    let peeked := receiver.receiveFrom true none oneWaiting
    let received := receiver.receiveFrom false none
      { peeked.2 with link := { peeked.2.link with time := {} } }
    sent = [⟨[0, 0, 0, 1, 7], receiver.address⟩] ∧
      peeked.2.link.queue = oneWaiting.link.queue ∧
      (∃ delivery, peeked.1 = .ok delivery ∧ delivery.payload = [7]) ∧
      received.1.map Delivery.told = peeked.1.map Delivery.told := by
  intro sender receiver sent peeked received
  have offers : oneWaiting.link.Offers (watchOf (receiver.receiveSignals none) oneWaiting.link)
      ⟨[0, 0, 0, 1, 7], sender.address⟩ :=
    DatagramLink.offers_at_once _ rfl rfl (Nat.zero_le _) rfl
  have accepts := accepts_oneUsedBuffer (watchOf (sender.sendSignals none) oneUsedBuffer.link)
  have left : sent = [⟨[0, 0, 0, 1, 7], receiver.address⟩] := by
    obtain ⟨delivery, next, ended, -, -, -, taken⟩ := sender.sendTo_accepted receiver.address none
      tidy_oneUsedBuffer (show [(7 : UInt8)].length < UInt32.size by decide) (by decide) accepts
    simp only [sent, ended]
    exact taken
  obtain ⟨-, ⟨clean, settings⟩, ⟨rest, -, queue⟩, again, crossing⟩ :=
    receives_exactly_the_frames receiver oneWaiting _ true none tidy_oneUsedBuffer offers
  refine ⟨left, queue, ?_, ?_⟩
  · refine ((crossing sender oneUsedBuffer receiver.address [7] none tidy_oneUsedBuffer (by decide)
      accepts ?_).2 (by decide)).2
    intro gone same
    obtain rfl := (List.cons.inj (left.symm.trans same)).1
    rfl
  · exact again rfl receiver none {} peeked.2.resources clean
      (congrArg Settings.maxDatagramSize settings) rfl

end Endpoint

end FramedTransport
