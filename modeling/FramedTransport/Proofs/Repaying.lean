import FramedTransport.Datagram.Endpoint
import FramedTransport.Proofs.Accounts
import FramedTransport.Proofs.Receiving
import FramedTransport.Stream.Desk
import FramedTransport.Stream.Session

/-!
Every operation gives back what it rented.
However a call ends, its ticket is back in its pool, and the only buffer that can
still be out is the one of a result, which its caller holds. A session keeps one
buffer for as long as it lasts and nothing longer.
-/

namespace FramedTransport

def lent : Outcome (Option Delivery) → Nat
  | .ok (some _) => 1
  | .ok none | .error _ => 0

theorem lent_nothing (outcome : Outcome Unit) : lent (outcome.map fun () => none) = 0 := by
  cases outcome <;> rfl

variable {before : Resources} {tickets buffers : Nat}

namespace Exchange

variable {β : Type} {exchange : Exchange}

theorem withTicket_lends {signals : Signals} {refused : Halt → β}
    {body : Watch → Ticket → Exchange → (β × Ticket) × Exchange} (kept : β → Nat)
    (lends : before.Lends exchange.resources tickets buffers)
    (ran : ∀ inner, before.Lends inner.resources (tickets + 1) buffers →
      let watch := Watch.starting signals exchange.link.time.now
      let ended := body watch { armed := some signals } inner
      before.Lends ended.2.resources (tickets + 1)
        (buffers + kept ended.1.1 + ended.1.2.load)) :
    before.Lends (withTicket signals refused body exchange).2.resources tickets
      (buffers + kept (withTicket signals refused body exchange).1) := by
  obtain ⟨next, granted, rented⟩ := lends.rentTicket signals
  have ended := ran { exchange with resources := next } rented
  rw [withTicket_eq]
  rw [granted]
  exact ended.giveBackTicket

theorem fillFrame_lends (cancel : CancelToken) (deadline : Option Duration) (frame : Incoming)
    (lends : before.Lends exchange.resources tickets buffers) :
    before.Lends (exchange.fillFrame cancel deadline frame).2.resources tickets buffers := by
  refine withTicket_lends (fun _ => 0) lends ?_
  intro inner rented
  dsimp only
  split
  · exact rented
  · exact rented

theorem pushFrame_lends (cancel : CancelToken) (deadline : Option Duration) (frame : Outgoing)
    (lends : before.Lends exchange.resources tickets buffers) :
    before.Lends (exchange.pushFrame cancel deadline frame).2.resources tickets buffers := by
  refine withTicket_lends (fun _ => 0) lends ?_
  intro inner rented
  dsimp only
  split
  · exact rented
  · exact rented

theorem shutdown_lends (signals : Signals)
    (lends : before.Lends exchange.resources tickets buffers) :
    let ended : Outcome Unit × Exchange := withTicket signals .error
      (fun watch ticket exchange =>
        let (ended, link) := exchange.link.shutdown watch
        ((ended, ticket), { exchange with link })) exchange
    before.Lends ended.2.resources tickets buffers := by
  refine withTicket_lends (fun _ => 0) lends ?_
  intro inner rented
  exact rented

theorem receiveSome_lends (cancel : CancelToken) (remote : SocketAddress) (maxLength : Nat)
    (deadline : Option Duration) (lends : before.Lends exchange.resources tickets buffers) :
    before.Lends (exchange.receiveSome cancel remote maxLength deadline).2.resources tickets
      (buffers + lent ((exchange.receiveSome cancel remote maxLength deadline).1.map some)) := by
  refine withTicket_lends (fun outcome : Outcome Delivery => lent (outcome.map some)) lends ?_
  intro inner rented
  have filled := rented.rentFilled maxLength
  dsimp only
  split
  · rename_i ticket reason refused
    cases refused
  · rename_i ticket attached
    cases attached
    dsimp only [Ticket.carried]
    split
    · exact filled
    · split
      · exact filled
      -- The buffer leaves its ticket for the result.
      · exact filled

theorem sendAll_lends (cancel : CancelToken) (remote : SocketAddress) (payload : Bytes)
    (deadline : Option Duration) (lends : before.Lends exchange.resources tickets buffers) :
    before.Lends (exchange.sendAll cancel remote payload deadline).2.resources tickets
      (buffers + lent ((exchange.sendAll cancel remote payload deadline).1.map some)) := by
  refine withTicket_lends (fun outcome : Outcome Delivery => lent (outcome.map some)) lends ?_
  intro inner rented
  have copied := rented.rentBuffer payload.length
  dsimp only
  split
  · rename_i ticket reason refused
    cases refused
  · rename_i ticket attached
    cases attached
    dsimp only [Ticket.carried]
    split
    · exact copied
    · split
      · exact copied
      · exact copied

end Exchange

namespace Receiver

variable {exchange : Exchange}

theorem calls_lends (call : Call) (receiver : Receiver)
    (lends : before.Lends exchange.resources tickets buffers) :
    before.Lends (calls call receiver exchange).2.2.resources tickets
      (buffers + lent (calls call receiver exchange).1) := by
  cases call with
  | receive maxLength deadline =>
      have received := Exchange.receiveSome_lends receiver.cancel receiver.remote maxLength deadline
        lends
      simp only [calls, receive]
      split
      · split <;> rename_i ended <;> rw [ended] at received <;> exact received
      · exact lends
  | receiveFrame deadline =>
      have room : before.Lends
          { exchange with
            resources := (exchange.resources.rentBuffer
              exchange.resources.settings.bufferCapacity).2 : Exchange }.resources
          tickets (buffers + 1) :=
        lends.rentBuffer exchange.resources.settings.bufferCapacity
      simp only [calls, receiveFrame]
      split
      · have filled := Exchange.fillFrame_lends receiver.cancel deadline
          (Incoming.start (exchange.resources.rentBuffer
            exchange.resources.settings.bufferCapacity).1 exchange.resources.settings.maxFrameSize)
          room
        split <;> rename_i ended <;> rw [ended] at filled
        · exact filled.giveBackBuffer _
        · split
          · exact filled.giveBackBuffer _
          · exact filled
      · exact lends

end Receiver

namespace Sender

variable {exchange : Exchange}

theorem calls_lends (call : Call) (sender : Sender)
    (lends : before.Lends exchange.resources tickets buffers) :
    before.Lends (calls call sender exchange).2.2.resources tickets
      (buffers + lent (calls call sender exchange).1) := by
  cases call with
  | send payload deadline =>
      have sent := Exchange.sendAll_lends sender.cancel sender.remote payload deadline lends
      simp only [calls, send]
      split
      · split <;> rename_i ended <;> rw [ended] at sent <;> exact sent
      · exact lends
  | sendFrame payload deadline =>
      have room : before.Lends
          { exchange with
            resources := (exchange.resources.rentBuffer
              (FrameHeader.size + payload.length)).2 : Exchange }.resources
          tickets (buffers + 1) :=
        lends.rentBuffer (FrameHeader.size + payload.length)
      simp only [calls, sendFrame]
      split
      · split
        · exact room.giveBackBuffer _
        · rename_i frame encoded
          have pushed := Exchange.pushFrame_lends sender.cancel deadline frame room
          split <;> rename_i ended <;> rw [ended] at pushed
          · exact pushed.giveBackBuffer _
          · split
            · exact pushed.giveBackBuffer _
            · exact pushed
      · exact lends
  | shutdown deadline =>
      simp only [calls, shutdown]
      split
      · rw [lent_nothing]
        exact Exchange.shutdown_lends _ lends
      · exact lends

end Sender

namespace Endpoint

variable {exchange : DatagramExchange}

theorem deliver_lends (ticket : Ticket) (remote : SocketAddress) (size : Nat) (lost : String)
    (lends : before.Lends exchange.resources (tickets + 1) (buffers + ticket.load)) :
    before.Lends (deliver ticket remote size lost exchange).2.resources tickets
      (buffers + lent ((deliver ticket remote size lost exchange).1.map some)) := by
  cases ticket with
  | mk armed lease =>
      cases lease with
      | none => exact Resources.Lends.giveBackTicket lends
      | some buffer =>
          have emptied : before.Lends exchange.resources (tickets + 1)
              (buffers + 1 + Ticket.load { armed, lease := none }) :=
            lends
          exact emptied.giveBackTicket

theorem sendCarried_lends (remote : SocketAddress) (ticket : Ticket)
    (lends : before.Lends exchange.resources (tickets + 1) (buffers + ticket.load)) :
    before.Lends (sendCarried remote ticket exchange).2.resources tickets
      (buffers + lent ((sendCarried remote ticket exchange).1.map some)) := by
  unfold sendCarried
  dsimp only
  split
  · exact lends.giveBackTicket
  · split
    · exact lends.giveBackTicket
    · split
      · exact deliver_lends ticket remote _ _ lends
      · exact lends.giveBackTicket

theorem sendTo_lends (remote : SocketAddress) (payload : Bytes) (peek : Bool)
    (deadline : Option Duration) (endpoint : Endpoint)
    (lends : before.Lends exchange.resources tickets buffers) :
    before.Lends (endpoint.sendTo remote payload peek deadline exchange).2.resources tickets
      (buffers + lent ((endpoint.sendTo remote payload peek deadline exchange).1.map some)) := by
  obtain ⟨next, granted, rented⟩ := lends.rentTicket
    { operation := .send, deadline, cancel := some endpoint.cancel }
  have room := rented.rentBuffer (FrameHeader.size + payload.length)
  unfold sendTo
  dsimp only
  split
  · exact lends
  · split
    · exact lends
    · rw [granted]
      dsimp only
      split
      · exact (room.giveBackBuffer _).giveBackTicket
      · exact sendCarried_lends remote _ room

theorem settle_lends (datagram : Datagram) (ticket : Ticket)
    (lends : before.Lends exchange.resources (tickets + 1) (buffers + ticket.load)) :
    before.Lends (settle datagram ticket exchange).2.resources tickets
      (buffers + lent ((settle datagram ticket exchange).1.map some)) := by
  -- What a datagram leaves in the buffer makes no difference to who has it.
  have filled : before.Lends exchange.resources (tickets + 1)
      (buffers + (ticket.changeLease fun buffer => buffer.overwrite 0 datagram.bytes).load) := by
    rwa [Ticket.load_changeLease]
  unfold settle
  dsimp only
  split
  · exact filled.giveBackTicket
  · exact deliver_lends _ datagram.remote _ _ filled

theorem receiveArmed_lends (peek : Bool) (ticket : Ticket)
    (lends : before.Lends exchange.resources (tickets + 1) (buffers + ticket.load)) :
    before.Lends (receiveArmed peek ticket exchange).2.resources tickets
      (buffers + lent ((receiveArmed peek ticket exchange).1.map some)) := by
  unfold receiveArmed
  split
  · exact lends.giveBackTicket
  · split
    · exact lends.giveBackTicket
    · exact settle_lends _ ticket lends

theorem receiveFrom_lends (peek : Bool) (deadline : Option Duration) (endpoint : Endpoint)
    (lends : before.Lends exchange.resources tickets buffers) :
    before.Lends (endpoint.receiveFrom peek deadline exchange).2.resources tickets
      (buffers + lent ((endpoint.receiveFrom peek deadline exchange).1.map some)) := by
  obtain ⟨next, granted, rented⟩ := lends.rentTicket (endpoint.receiveSignals deadline)
  have filled := rented.rentFilled (next.settings.maxDatagramSize + 1)
  unfold receiveFrom armReceive
  rw [granted]
  exact receiveArmed_lends peek _ filled

end Endpoint

namespace Session

variable {σ : Type} {exchange : Exchange}

theorem respond_lends (cancel : CancelToken) (answer : Bytes)
    (lends : before.Lends exchange.resources tickets buffers) :
    before.Lends (respond cancel answer exchange).2.resources tickets buffers := by
  have room := lends.rentBuffer (FrameHeader.size + answer.length)
  unfold respond
  dsimp only
  split
  · exact room.giveBackBuffer _
  · rename_i frame encoded
    exact (Exchange.pushFrame_lends cancel _ frame room).giveBackBuffer _

theorem serve_lends (handler : Handler σ) (remote : SocketAddress) (cancel : CancelToken)
    (frame : Incoming) (state : σ) (lends : before.Lends exchange.resources tickets buffers) :
    before.Lends (serve handler remote cancel frame state exchange).exchange.resources tickets
      buffers := by
  have filled (frame : Incoming) {exchange : Exchange}
      (lends : before.Lends exchange.resources tickets buffers) :=
    Exchange.fillFrame_lends cancel exchange.resources.settings.idleTimeout frame lends
  fun_induction serve handler remote cancel frame state exchange with
  | case1 frame state exchange halt after next ended => simpa only [ended] using filled frame lends
  | case2 frame state exchange after next ended unready =>
      simpa only [ended] using filled frame lends
  | case3 frame state exchange after next ended header payload shown answer later handled ready
      reason refused => simpa only [ended] using filled frame lends
  | case4 frame state exchange after next ended header payload shown later ready rearmed handled
      ih =>
      have rested := filled frame lends
      rw [ended] at rested
      exact ih rested
  | case5 frame state exchange after next ended header payload shown later ready rearmed answer
      halt last sent handled =>
      have rested := filled frame lends
      rw [ended] at rested
      have responded := respond_lends cancel answer rested
      rwa [sent] at responded
  | case6 frame state exchange after next ended header payload shown later ready rearmed answer
      last sent handled ih =>
      have rested := filled frame lends
      rw [ended] at rested
      have responded := respond_lends cancel answer rested
      rw [sent] at responded
      exact ih responded

theorem resources_conclude (outcome : Outcome SessionEnd) (exchange : Exchange) :
    (conclude outcome exchange).2.resources = exchange.resources := by
  have farewell_resources : (farewell exchange).2.resources = exchange.resources := rfl
  unfold conclude
  split
  · rfl
  · rfl
  · split <;> rename_i ended <;> rw [ended] at farewell_resources <;> exact farewell_resources
  · split <;> rename_i ended <;> rw [ended] at farewell_resources <;> exact farewell_resources

theorem run_lends (handler : Handler σ) (session : Session) (state : σ)
    (lends : before.Lends exchange.resources tickets (buffers + 1)) :
    before.Lends (run handler session state exchange).2.2.resources tickets buffers := by
  have served := serve_lends handler session.remote session.cancel session.frame state lends
  unfold run
  dsimp only
  refine Resources.Lends.giveBackBuffer ?_ _
  rw [resources_conclude]
  exact served

theorem start_run_lends (handler : Handler σ) (state : σ) (remote : SocketAddress)
    (cancel : CancelToken) (link : Link) {resources : Resources}
    (lends : before.Lends resources tickets buffers) :
    before.Lends (run handler (start remote cancel resources).1 state
      { resources := (start remote cancel resources).2, link }).2.2.resources tickets buffers :=
  run_lends handler _ state (lends.rentBuffer resources.settings.bufferCapacity)

end Session

namespace HalfDesk

variable {κ η : Type}

/-- Calls that leave nothing out but their result. -/
def Repays (calls : Calls κ η) : Prop :=
  ∀ (before : Resources) (tickets buffers : Nat) (call : κ) (half : η) (exchange : Exchange),
    before.Lends exchange.resources tickets buffers →
      before.Lends (calls call half exchange).2.2.resources tickets
        (buffers + lent (calls call half exchange).1)

theorem giveBackAll_lends (deliveries : List Delivery) (desk : HalfDesk η)
    (lends : before.Lends desk.exchange.resources tickets (buffers + deliveries.length)) :
    before.Lends (deliveries.foldl giveBack desk).exchange.resources tickets buffers ∧
      (deliveries.foldl giveBack desk).kept = desk.kept := by
  induction deliveries generalizing desk with
  | nil => exact ⟨lends, rfl⟩
  | cons delivery rest ih =>
      exact ih (desk.giveBack delivery) (Resources.Lends.giveBackBuffer lends delivery.buffer)

/-- Whatever the caller does with its half and its results, it holds the buffers of the results
that it has kept. -/
theorem perform_lends {calls : Calls κ η} (repays : Repays calls) (action : Action κ)
    (desk : HalfDesk η)
    (lends : before.Lends desk.exchange.resources tickets (buffers + desk.kept.length)) :
    before.Lends (desk.perform calls action).2.exchange.resources tickets
      (buffers + (desk.perform calls action).2.kept.length) := by
  cases action with
  | call call keep =>
      have called := repays before tickets _ call desk.half desk.exchange lends
      unfold perform
      dsimp only
      split <;> rename_i answer <;> rw [answer] at called
      · exact called
      · exact called
      · split
        · rw [List.length_append]
          exact called
        -- A result that nobody keeps is dropped at once.
        · exact Resources.Lends.giveBackBuffer called _
  | cancel => exact lends
  | sleep millis => exact lends
  | takeBytes =>
      unfold perform
      dsimp only
      split
      · rename_i delivery last
        have some_kept : desk.kept ≠ [] := by
          intro empty
          simp [empty] at last
        have shorter : desk.kept.dropLast.length + 1 = desk.kept.length := by
          rw [List.length_dropLast]
          exact Nat.sub_add_cancel (List.length_pos_iff.2 some_kept)
        rw [← shorter] at lends
        exact Resources.Lends.giveBackBuffer lends delivery.buffer
      · exact lends
  | release =>
      obtain ⟨given, none⟩ := giveBackAll_lends desk.kept { desk with kept := [] } lends
      unfold perform
      dsimp only
      rw [none]
      exact given

def performAll (calls : Calls κ η) (actions : List (Action κ)) (desk : HalfDesk η) : HalfDesk η :=
  actions.foldl (fun desk action => (desk.perform calls action).2) desk

theorem performAll_lends {calls : Calls κ η} (repays : Repays calls) (actions : List (Action κ))
    (desk : HalfDesk η)
    (lends : before.Lends desk.exchange.resources tickets (buffers + desk.kept.length)) :
    before.Lends (desk.performAll calls actions).exchange.resources tickets
      (buffers + (desk.performAll calls actions).kept.length) := by
  induction actions generalizing desk with
  | nil => exact lends
  | cons action rest ih => exact ih _ (perform_lends repays action desk lends)

end HalfDesk

namespace Resources

/-- The pools as a call has to leave them: its ticket is back, at most the buffer of its result is
out, and that one comes back with the result. -/
structure Repaid (before after : Resources) (outcome : Outcome (Option Delivery)) : Prop where
  sound : after.Sound
  tickets : after.tickets.stats.outstanding = before.tickets.stats.outstanding
  buffers : after.buffers.stats.outstanding = before.buffers.stats.outstanding + lent outcome
  dropped : ∀ delivery, outcome = .ok (some delivery) →
    (after.giveBackBuffer delivery.buffer).tickets.stats.outstanding =
        before.tickets.stats.outstanding ∧
      (after.giveBackBuffer delivery.buffer).buffers.stats.outstanding =
        before.buffers.stats.outstanding

theorem Lends.repaid {after : Resources} {outcome : Outcome (Option Delivery)}
    (lends : Lends before after 0 (0 + lent outcome)) (sound : before.Sound) :
    Repaid before after outcome where
  sound := lends.sound sound
  tickets := (lends.outstanding sound).1
  buffers := by
    rw [(lends.outstanding sound).2, Nat.zero_add]
  dropped := by
    rintro delivery rfl
    exact (Lends.giveBackBuffer lends delivery.buffer).outstanding sound

/-- However a call ends, be it with a result, with an error or with a broken invariant: its ticket
is back and no buffer is out but that of its result, which comes back with the result. Whatever a
caller does on a half, it holds one buffer for each result that it has kept, and a session that has
ended holds none. -/
theorem operations_repay (resources : Resources) (sound : resources.Sound) :
    (∀ call receiver link,
      let ended := Receiver.calls call receiver { resources, link }
      resources.Repaid ended.2.2.resources ended.1) ∧
    (∀ call sender link,
      let ended := Sender.calls call sender { resources, link }
      resources.Repaid ended.2.2.resources ended.1) ∧
    (∀ remote payload peek deadline (endpoint : Endpoint) link,
      let ended := endpoint.sendTo remote payload peek deadline { resources, link }
      resources.Repaid ended.2.resources (ended.1.map some)) ∧
    (∀ peek deadline (endpoint : Endpoint) link,
      let ended := endpoint.receiveFrom peek deadline { resources, link }
      resources.Repaid ended.2.resources (ended.1.map some)) ∧
    (∀ actions half link,
      let last := HalfDesk.performAll Receiver.calls actions { half, exchange := { resources, link } }
      last.exchange.resources.tickets.stats.outstanding = resources.tickets.stats.outstanding ∧
        last.exchange.resources.buffers.stats.outstanding =
          resources.buffers.stats.outstanding + last.kept.length) ∧
    (∀ actions half link,
      let last := HalfDesk.performAll Sender.calls actions { half, exchange := { resources, link } }
      last.exchange.resources.tickets.stats.outstanding = resources.tickets.stats.outstanding ∧
        last.exchange.resources.buffers.stats.outstanding =
          resources.buffers.stats.outstanding + last.kept.length) ∧
    (∀ (σ : Type) (handler : Handler σ) state remote cancel link,
      let made := Session.start remote cancel resources
      let ended := Session.run handler made.1 state { resources := made.2, link }
      ended.2.2.resources.tickets.stats.outstanding = resources.tickets.stats.outstanding ∧
        ended.2.2.resources.buffers.stats.outstanding = resources.buffers.stats.outstanding) := by
  have even := Lends.none sound.toTidy
  have receiving : HalfDesk.Repays Receiver.calls :=
    fun before tickets buffers call half exchange => Receiver.calls_lends call half
  have sending : HalfDesk.Repays Sender.calls :=
    fun before tickets buffers call half exchange => Sender.calls_lends call half
  refine ⟨?_, ?_, ?_, ?_, ?_, ?_, ?_⟩
  · intro call receiver link
    exact (Receiver.calls_lends call receiver even).repaid sound
  · intro call sender link
    exact (Sender.calls_lends call sender even).repaid sound
  · intro remote payload peek deadline endpoint link
    exact (Endpoint.sendTo_lends remote payload peek deadline endpoint even).repaid sound
  · intro peek deadline endpoint link
    exact (Endpoint.receiveFrom_lends peek deadline endpoint even).repaid sound
  · intro actions half link
    have lends := HalfDesk.performAll_lends receiving actions
      { half, exchange := { resources, link } } even
    simpa using lends.outstanding sound
  · intro actions half link
    have lends := HalfDesk.performAll_lends sending actions
      { half, exchange := { resources, link } } even
    simpa using lends.outstanding sound
  · intro σ handler state remote cancel link
    exact (Session.start_run_lends handler state remote cancel link even).outstanding sound

def oneOut : Resources := ((ofSettings {}).rentBuffer 16).2

theorem sound_oneOut : oneOut.Sound :=
  ((Lends.none (tidy_ofSettings {})).rentBuffer 16).sound (sound_ofSettings {})

theorem oneOut_operations_repay :
    oneOut.Sound ∧ oneOut.buffers.stats.outstanding = 1 ∧
      ∃ delivery next,
        Receiver.calls (.receiveFrame none) Receiver.oneFrame.half
            { resources := oneOut, link := Receiver.oneFrame.exchange.link } =
          (.ok (some delivery), Receiver.oneFrame.half, next) ∧
        next.resources.tickets.stats.outstanding = 0 ∧
        next.resources.buffers.stats.outstanding = 2 ∧
        (next.resources.giveBackBuffer delivery.buffer).buffers.stats.outstanding = 1 := by
  have calm : Receiver.oneFrame.exchange.link.Calm :=
    { running := rfl
      reads := by simp [Receiver.oneFrame, Script.Calm]
      writes := by simp [Receiver.oneFrame, Script.Calm]
      flushes := by simp [Receiver.oneFrame, Script.Calm] }
  obtain ⟨delivery, next, received, -⟩ := @Receiver.receiveFrame_calm {}
    { resources := oneOut, link := Receiver.oneFrame.exchange.link } Receiver.oneFrame.half none
    ⟨[7], by decide⟩ [] rfl (by simp [Exchange.Countable]) ⟨sound_oneOut.toTidy, rfl⟩ calm rfl
    (by decide)
  have answered : Receiver.calls (.receiveFrame none) Receiver.oneFrame.half
      { resources := oneOut, link := Receiver.oneFrame.exchange.link } =
        (.ok (some delivery), Receiver.oneFrame.half, next) := by
    simp [Receiver.calls, received, Except.map]
  have repaid := (operations_repay oneOut sound_oneOut).1 (.receiveFrame none)
    Receiver.oneFrame.half Receiver.oneFrame.exchange.link
  rw [answered] at repaid
  exact ⟨sound_oneOut, rfl, delivery, next, answered, repaid.tickets, repaid.buffers,
    (repaid.dropped delivery rfl).2⟩

end Resources

end FramedTransport
