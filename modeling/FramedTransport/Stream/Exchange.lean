import FramedTransport.Resources
import FramedTransport.Stream.Transfer

/-!
Transfers with everything they need: the engine's resources and a link.
A ticket is held for exactly as long as its operation runs and goes back
whichever way the operation ends. Transfers made of several socket calls refuse
a deadline that the clock cannot count ahead to.
-/

namespace FramedTransport

structure Exchange where
  resources : Resources
  link : Link
deriving DecidableEq, Repr

def Watch.starting (signals : Signals) (now : Nat) : Watch where
  operation := signals.operation
  deadline := signals.deadline
  cancellable := signals.cancel.isSome
  since := now

namespace Exchange

variable {β : Type}

def giveBackBuffer (exchange : Exchange) (buffer : Buffer) : Exchange :=
  { exchange with resources := exchange.resources.giveBackBuffer buffer }

/-- Runs `body` with a rented ticket, under the signals that the ticket is armed with, and returns
the ticket as `body` leaves it. -/
def withTicket (signals : Signals) (refused : Halt → β)
    (body : Watch → Ticket → Exchange → (β × Ticket) × Exchange) (exchange : Exchange) :
    β × Exchange :=
  match exchange.resources.rentTicket signals with
  | (.error reason, resources) => (refused (.abort reason), { exchange with resources })
  | (.ok ticket, resources) =>
      match ticket.signals with
      | .error reason =>
          (refused (.error reason),
            { exchange with resources := resources.giveBackTicket ticket })
      | .ok signals =>
          let watch := Watch.starting signals exchange.link.time.now
          let ((value, ticket), exchange) := body watch ticket { exchange with resources }
          (value, { exchange with resources := exchange.resources.giveBackTicket ticket })

theorem withTicket_eq (signals : Signals) (refused : Halt → β)
    (body : Watch → Ticket → Exchange → (β × Ticket) × Exchange) (exchange : Exchange) :
    withTicket signals refused body exchange =
      match exchange.resources.rentTicket signals with
      | (.error reason, resources) => (refused (.abort reason), { exchange with resources })
      | (.ok ticket, resources) =>
          let watch := Watch.starting signals exchange.link.time.now
          let ((value, ticket), exchange) := body watch ticket { exchange with resources }
          (value, { exchange with resources := exchange.resources.giveBackTicket ticket }) := by
  unfold withTicket
  split
  · rfl
  · rename_i ticket resources rented
    rw [Resources.signals_of_rentTicket rented]

/-- Waits for the first action of a socket that says nothing after its script. -/
def await {α : Type} (signals : Signals) (script : Script α) (exchange : Exchange) :
    Outcome α × Exchange :=
  withTicket signals .error (fun watch ticket exchange =>
      let step := Race.run exchange.link.time { watch, source := script.thenSilence }
      let outcome : Outcome α := match step.outcome with
        | .ok (some action) => .ok action
        | .ok none => .error .stalled
        | .error halt => .error halt
      ((outcome, ticket), { exchange with link := { exchange.link with time := step.time } }))
    exchange

/-- A socket's own failure as the failure of the operation that asked it. -/
def succeeded {α : Type} (operation : Operation) : Outcome (Except Fault α) → Outcome α
  | .ok (.ok value) => .ok value
  | .ok (.error fault) => .error (.error (.transport operation fault))
  | .error halt => .error halt

def fillFrame (cancel : CancelToken) (deadline : Option Duration) (frame : Incoming)
    (exchange : Exchange) : (Outcome Unit × Incoming) × Exchange :=
  withTicket { operation := .receive, deadline, cancel := some cancel }
    (fun halt => (.error halt, frame))
    (fun watch ticket exchange =>
      if watch.beyondHorizon then
        (((.error (.abort .deadlineOverflow), frame), ticket), exchange)
      else
        let (filled, link) := frame.fill watch exchange.link
        ((filled, ticket), { exchange with link }))
    exchange

def pushFrame (cancel : CancelToken) (deadline : Option Duration) (frame : Outgoing)
    (exchange : Exchange) : (Outcome Unit × Outgoing) × Exchange :=
  withTicket { operation := .send, deadline, cancel := some cancel }
    (fun halt => (.error halt, frame))
    (fun watch ticket exchange =>
      if watch.beyondHorizon then
        (((.error (.abort .deadlineOverflow), frame), ticket), exchange)
      else
        let (pushed, link) := frame.push watch exchange.link
        ((pushed, ticket), { exchange with link }))
    exchange

def reclaim (ticket : Ticket) (lost : String) : Outcome Buffer × Ticket :=
  match ticket.detach with
  | (some buffer, ticket) => (.ok buffer, ticket)
  | (none, ticket) => (.error (.error (.protocolViolation lost)), ticket)

def receiveSome (cancel : CancelToken) (remote : SocketAddress) (maxLength : Nat)
    (deadline : Option Duration) (exchange : Exchange) : Outcome Delivery × Exchange :=
  withTicket { operation := .receive, deadline, cancel := some cancel } .error
    (fun watch ticket exchange =>
      let (buffer, resources) := exchange.resources.rentFilled maxLength
      let exchange := { exchange with resources }
      match ticket.attach buffer with
      | .error reason => ((.error (.error reason), ticket), exchange.giveBackBuffer buffer)
      | .ok ticket =>
          match ticket.carried with
          | .error reason => ((.error (.error reason), ticket), exchange)
          | .ok _ =>
              match exchange.link.read watch maxLength with
              | (.error halt, link) => ((.error halt, ticket), { exchange with link })
              | (.ok received, link) =>
                  let exchange := { exchange with link }
                  let ticket := ticket.changeLease fun buffer => buffer.overwrite 0 received
                  if received.length = 0 ∧ 0 < maxLength then
                    ((.error (.error .connectionClosed), ticket), exchange)
                  else
                    let (reclaimed, ticket) := reclaim ticket "receive lost its buffer"
                    let delivered := reclaimed.map fun buffer =>
                      { buffer, start := 0, stop := received.length
                        transferred := received.length, remote : Delivery }
                    ((delivered, ticket), exchange))
    exchange

def sendAll (cancel : CancelToken) (remote : SocketAddress) (payload : Bytes)
    (deadline : Option Duration) (exchange : Exchange) : Outcome Delivery × Exchange :=
  withTicket { operation := .send, deadline, cancel := some cancel } .error
    (fun watch ticket exchange =>
      let (buffer, resources) := exchange.resources.rentBuffer payload.length
      let buffer := buffer.append payload
      let exchange := { exchange with resources }
      match ticket.attach buffer with
      | .error reason => ((.error (.error reason), ticket), exchange.giveBackBuffer buffer)
      | .ok ticket =>
          if watch.beyondHorizon then
            ((.error (.abort .deadlineOverflow), ticket), exchange)
          else
            match ticket.carried with
            | .error reason => ((.error (.error reason), ticket), exchange)
            | .ok buffer =>
                let whole : Outgoing := { buffer, progress := Progress.start payload.length }
                match whole.push watch exchange.link with
                | ((.error halt, _), link) => ((.error halt, ticket), { exchange with link })
                | ((.ok (), _), link) =>
                    let (reclaimed, ticket) := reclaim ticket "send lost its buffer"
                    let delivered := reclaimed.map fun buffer =>
                      { buffer, start := 0, stop := payload.length
                        transferred := payload.length, remote : Delivery }
                    ((delivered, ticket), { exchange with link }))
    exchange

theorem unread_withTicket (signals : Signals) (refused : Halt → β)
    (body : Watch → Ticket → Exchange → (β × Ticket) × Exchange) (exchange : Exchange)
    (bound : Nat) (entry : exchange.link.unread ≤ bound)
    (kept : ∀ watch ticket inner, inner.link = exchange.link →
      (body watch ticket inner).2.link.unread ≤ bound) :
    (withTicket signals refused body exchange).2.link.unread ≤ bound := by
  rw [withTicket_eq]
  split
  · exact entry
  · exact kept _ _ _ rfl

theorem unread_pushFrame (cancel : CancelToken) (deadline : Option Duration) (frame : Outgoing)
    (exchange : Exchange) :
    (pushFrame cancel deadline frame exchange).2.link.unread ≤ exchange.link.unread := by
  refine unread_withTicket _ _ _ _ _ (Nat.le_refl _) ?_
  intro watch ticket inner same
  dsimp only
  split
  · exact Nat.le_of_eq (congrArg Link.unread same)
  · exact Nat.le_of_eq (by rw [Outgoing.unread_push, same])

theorem unread_fillFrame (cancel : CancelToken) (deadline : Option Duration) (frame : Incoming)
    (exchange : Exchange) :
    (fillFrame cancel deadline frame exchange).2.link.unread ≤ exchange.link.unread ∧
      (frame.wantsBytes = true → (fillFrame cancel deadline frame exchange).1.1 = .ok () →
        (fillFrame cancel deadline frame exchange).2.link.unread < exchange.link.unread) := by
  unfold fillFrame
  rw [withTicket_eq]
  split
  · simp
  · rename_i ticket resources rented
    have filled := Incoming.unread_fill
      (Watch.starting { operation := .receive, deadline, cancel := some cancel }
        exchange.link.time.now) frame exchange.link
    dsimp only
    split
    · simp
    · exact filled

end Exchange

end FramedTransport
