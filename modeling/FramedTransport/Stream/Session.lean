import FramedTransport.Handler
import FramedTransport.Stream.Receiver

/-!
One peer served frame by frame.
A session reads a frame, asks the handler, sends the answer and begins again.
However it ends, it then shuts its writing side down, for as long as one
operation may take; only a broken invariant skips that.
-/

namespace FramedTransport

inductive SessionEnd where
  | peerClosed
  | cancelled
deriving DecidableEq, Repr

structure Session where
  remote : SocketAddress
  cancel : CancelToken
  frame : Incoming
deriving DecidableEq, Repr

namespace Session

/-- A session with the one buffer it reads all its frames into. -/
def start (remote : SocketAddress) (cancel : CancelToken) (resources : Resources) :
    Session × Resources :=
  let settings := resources.settings
  let (buffer, resources) := resources.rentBuffer settings.bufferCapacity
  ({ remote, cancel, frame := Incoming.start buffer settings.maxFrameSize }, resources)

/-- The peer's departure and a cancellation end a session well. -/
def endOf : Halt → Outcome SessionEnd
  | .error .connectionClosed => .ok .peerClosed
  | .error (.cancelled _) => .ok .cancelled
  | halt => .error halt

def respond (cancel : CancelToken) (answer : Bytes) (exchange : Exchange) :
    Outcome Unit × Exchange :=
  let settings := exchange.resources.settings
  let (buffer, resources) := exchange.resources.rentBuffer (FrameHeader.size + answer.length)
  let exchange := { exchange with resources }
  match Outgoing.encode buffer answer settings.maxFrameSize with
  | .error reason => (.error (.error reason), exchange.giveBackBuffer buffer)
  | .ok frame =>
      let ((pushed, frame), exchange) :=
        exchange.pushFrame cancel (some settings.operationTimeout) frame
      (pushed, exchange.giveBackBuffer frame.buffer)

theorem unread_respond (cancel : CancelToken) (answer : Bytes) (exchange : Exchange) :
    (respond cancel answer exchange).2.link.unread ≤ exchange.link.unread := by
  unfold respond
  dsimp only
  split
  · exact Nat.le_refl _
  · exact Exchange.unread_pushFrame _ _ _ _

/-- Where a session and its handler stand when it stops serving. -/
structure Served (σ : Type) where
  outcome : Outcome SessionEnd
  frame : Incoming
  state : σ
  exchange : Exchange

/-- One more round is worth less than the one before it. -/
def rounds (frame : Incoming) (exchange : Exchange) : Nat :=
  2 * exchange.link.unread + (if frame.wantsBytes then 0 else 1)

theorem rounds_decrease {cancel : CancelToken} {idle : Option Duration}
    {frame filled ready : Incoming} {exchange next last : Exchange}
    (complete : exchange.fillFrame cancel idle frame = ((.ok (), filled), next))
    (rearmed : filled.rearm = (ready, .ok ()))
    (later : last.link.unread ≤ next.link.unread) :
    rounds ready last < rounds frame exchange := by
  have fill := Exchange.unread_fillFrame cancel idle frame exchange
  rw [complete] at fill
  have wants : ready.wantsBytes = true := by
    unfold Incoming.rearm at rearmed
    split at rearmed
    · cases rearmed
      rfl
    · simp at rearmed
  simp only [rounds, wants, if_true]
  cases first : frame.wantsBytes with
  | true =>
      have shorter := fill.2 first rfl
      simp only [if_true] at *
      omega
  | false =>
      have kept := fill.1
      simp only [] at *
      simp
      omega

def serve {σ : Type} (handler : Handler σ) (remote : SocketAddress) (cancel : CancelToken)
    (frame : Incoming) (state : σ) (exchange : Exchange) : Served σ :=
  match _complete :
      exchange.fillFrame cancel exchange.resources.settings.idleTimeout frame with
  | ((.error halt, frame), exchange) => { outcome := endOf halt, frame, state, exchange }
  | ((.ok (), filled), next) =>
      match filled.frame? with
      | none =>
          { outcome := .error (.error (.protocolViolation "dispatch without a complete frame"))
            frame := filled, state, exchange := next }
      | some (header, payload) =>
          let (answer, state) := handler { remote, header, payload } state
          match _rearmed : filled.rearm with
          | (ready, .error reason) =>
              { outcome := .error (.error reason), frame := ready, state, exchange := next }
          | (ready, .ok ()) =>
              match answer with
              | none => serve handler remote cancel ready state next
              | some answer =>
                  match _sent : respond cancel answer next with
                  | (.error halt, last) =>
                      { outcome := endOf halt, frame := ready, state, exchange := last }
                  | (.ok (), last) => serve handler remote cancel ready state last
termination_by rounds frame exchange
decreasing_by
  · exact rounds_decrease _complete _rearmed (Nat.le_refl _)
  · have sent := unread_respond cancel answer next
    rw [_sent] at sent
    exact rounds_decrease _complete _rearmed sent

/-- The last call of a session, not cancelled with it. Its own outcome is of no interest. -/
def farewell (exchange : Exchange) : Outcome Unit × Exchange :=
  let watch : Watch :=
    { operation := .disconnect
      deadline := some exchange.resources.settings.operationTimeout
      cancellable := false
      since := exchange.link.time.now }
  let (ended, link) := exchange.link.shutdown watch
  (ended, { exchange with link })

def conclude (outcome : Outcome SessionEnd) (exchange : Exchange) : Outcome SessionEnd × Exchange :=
  match outcome with
  | .error (.abort _) | .error .stalled => (outcome, exchange)
  | .ok _ | .error (.error _) =>
      match farewell exchange with
      | (.error .stalled, exchange) => (.error .stalled, exchange)
      | (_, exchange) => (outcome, exchange)

def run {σ : Type} (handler : Handler σ) (session : Session) (state : σ) (exchange : Exchange) :
    Outcome SessionEnd × σ × Exchange :=
  let served := serve handler session.remote session.cancel session.frame state exchange
  let (outcome, exchange) := conclude served.outcome served.exchange
  (outcome, served.state, exchange.giveBackBuffer served.frame.close.buffer)

end Session

end FramedTransport
