import FramedTransport.Proofs.Endings
import FramedTransport.Proofs.Horizon

/-!
The socket calls of the operations on a stream.
An operation makes the calls of its transfer, under the watch of its ticket, or none if
its deadline cannot be counted. All of them stop at a cancellation: no poll begins after
it, and the link stays as it is.
-/

namespace FramedTransport

open SocketCall

namespace SocketCall

/-- Calls that lead from one link to another for a caller who can be cancelled. -/
structure Traced (link : Link) (calls : List SocketCall) (next : Link) : Prop where
  linked : Linked link calls next
  listens : ∀ call ∈ calls, call.watch.cancellable = true

/-- What a cancellation means for some calls that lead from one link to another: no poll begins
behind it, and the link stays as the first call behind it finds it. -/
structure Hushed (link : Link) (calls : List SocketCall) (next : Link) : Prop where
  linked : Linked link calls next
  running : ∀ call ∈ calls, ∀ moment ∈ call.polls, moment.cancelled = false
  still : ∀ before call behind, calls = before ++ call :: behind →
    call.link.time.cancelled = true → next = call.link ∧ ∀ later ∈ call :: behind, later.polls = []

variable {link middle next : Link} {calls more : List SocketCall}

theorem Traced.none (link : Link) : Traced link [] link := ⟨.none link, by simp⟩

theorem Traced.append (first : Traced link calls middle) (second : Traced middle more next) :
    Traced link (calls ++ more) next := by
  refine ⟨first.linked.append second.linked, ?_⟩
  intro call member
  rcases List.mem_append.1 member with early | late
  · exact first.listens call early
  · exact second.listens call late

theorem Traced.cancelled (traced : Traced link calls next) (cancelled : link.time.cancelled = true) :
    next = link ∧ ∀ call ∈ calls, call.polls = [] := by
  obtain ⟨linked, listens⟩ := traced
  induction linked with
  | none link => simp
  | call call later ih =>
      obtain ⟨unpolled, same⟩ := SocketCall.still (listens call List.mem_cons_self) cancelled
      rw [same] at ih
      obtain ⟨rest, silent⟩ := ih cancelled fun other member => listens other (.tail _ member)
      refine ⟨rest, ?_⟩
      intro other member
      rcases List.mem_cons.1 member with rfl | member
      · exact unpolled
      · exact silent other member

theorem Linked.split {link next : Link} {before behind : List SocketCall} {call : SocketCall}
    (linked : Linked link (before ++ call :: behind) next) :
    Linked call.link (call :: behind) next := by
  induction before generalizing link with
  | nil => cases linked with | call _ later => exact .call call later
  | cons first before ih => cases linked with | call _ later => exact ih later

theorem Traced.hushed (traced : Traced link calls next) : Hushed link calls next where
  linked := traced.linked
  running call member := SocketCall.running (traced.listens call member)
  still := by
    rintro before call behind rfl cancelled
    have rest : Traced call.link (call :: behind) next :=
      ⟨traced.linked.split, fun other member => traced.listens other (List.mem_append_right _ member)⟩
    exact rest.cancelled cancelled

end SocketCall

theorem Incoming.traced_fill {watch : Watch} (listens : watch.cancellable = true)
    (frame : Incoming) (link : Link) :
    Traced link (frame.fillCalls watch link) (frame.fill watch link).2 := by
  refine ⟨frame.linked_fill watch link, ?_⟩
  intro call member
  rwa [(frame.reads_fillCalls watch link call member).1]

theorem Outgoing.traced_push {watch : Watch} (listens : watch.cancellable = true)
    (frame : Outgoing) (link : Link) :
    Traced link (frame.pushCalls watch link) (frame.push watch link).2 := by
  refine ⟨frame.linked_push watch link, ?_⟩
  intro call member
  rwa [(frame.writes_pushCalls watch link call member).1]

namespace Exchange

variable {β γ : Type} {settings : Settings} {exchange : Exchange}

def granted (signals : Signals) (calls : Watch → Exchange → List SocketCall)
    (exchange : Exchange) : List SocketCall :=
  match exchange.resources.rentTicket signals with
  | (.error _, _) => []
  | (.ok _, resources) =>
      calls (Watch.starting signals exchange.link.time.now) { exchange with resources }

def fillCalls (cancel : CancelToken) (deadline : Option Duration) (frame : Incoming) :
    Exchange → List SocketCall :=
  granted { operation := .receive, deadline, cancel := some cancel } fun watch exchange =>
    if watch.beyondHorizon then [] else frame.fillCalls watch exchange.link

def pushCalls (cancel : CancelToken) (deadline : Option Duration) (frame : Outgoing) :
    Exchange → List SocketCall :=
  granted { operation := .send, deadline, cancel := some cancel } fun watch exchange =>
    if watch.beyondHorizon then [] else frame.pushCalls watch exchange.link

def receiveCalls (cancel : CancelToken) (maxLength : Nat) (deadline : Option Duration) :
    Exchange → List SocketCall :=
  granted { operation := .receive, deadline, cancel := some cancel } fun watch exchange =>
    [{ request := .read maxLength, watch, link := exchange.link }]

def sendCalls (cancel : CancelToken) (payload : Bytes) (deadline : Option Duration) :
    Exchange → List SocketCall :=
  granted { operation := .send, deadline, cancel := some cancel } fun watch exchange =>
    if watch.beyondHorizon then []
    else
      let buffer := (exchange.resources.rentBuffer payload.length).1.append payload
      let whole : Outgoing := { buffer, progress := Progress.start payload.length }
      whole.pushCalls watch exchange.link

def shutdownCalls (cancel : CancelToken) (deadline : Option Duration) :
    Exchange → List SocketCall :=
  granted { operation := .disconnect, deadline, cancel := some cancel } fun watch exchange =>
    [{ request := .shutdown, watch, link := exchange.link }]

/-- From tidy resources an operation is what its body makes of a ticket as good as new, and its
calls are those of its body. -/
theorem withTicket_calls {signals : Signals} {refused : Halt → β}
    {body : Watch → Ticket → Exchange → (β × Ticket) × Exchange}
    (calls : Watch → Exchange → List SocketCall) (holds : List SocketCall → β → Link → Prop)
    (tidy : exchange.Tidy settings)
    (ran : ∀ inner : Exchange, inner.link = exchange.link → inner.Tidy settings →
      let watch := Watch.starting signals exchange.link.time.now
      let ended := body watch { armed := some signals } inner
      holds (calls watch inner) ended.1.1 ended.2.link) :
    holds (granted signals calls exchange) (withTicket signals refused body exchange).1
      (withTicket signals refused body exchange).2.link := by
  obtain ⟨resources, rented, clean, same⟩ := tidy.resources.rentTicket signals
  rw [withTicket_eq, granted, rented]
  exact ran { exchange with resources } rfl ⟨clean, same.trans tidy.settings⟩

/-- An operation is refused for its deadline before it has made a call, or it is its transfer
under the watch of its ticket, with the same calls. -/
def Called (signals : Signals) (transfer : Watch → Link → (Outcome Unit × γ) × Link)
    (calls : Watch → Link → List SocketCall) (frame : γ) (link : Link) (made : List SocketCall)
    (result : Outcome Unit × γ) (next : Link) : Prop :=
  (¬ Countable signals.deadline ∧ made = [] ∧
      result = (.error (.abort .deadlineOverflow), frame) ∧ next = link) ∨
    (Countable signals.deadline ∧
      let watch := Watch.starting signals link.time.now
      made = calls watch link ∧ result = (transfer watch link).1 ∧ next = (transfer watch link).2)

section

variable {signals : Signals} {transfer : Watch → Link → (Outcome Unit × γ) × Link}
  {calls : Watch → Link → List SocketCall} {frame : γ} {link next : Link} {made : List SocketCall}
  {result : Outcome Unit × γ}

theorem Called.counted (called : Called signals transfer calls frame link made result next)
    (countable : Countable signals.deadline) :
    made = calls (Watch.starting signals link.time.now) link ∧
      result = (transfer (Watch.starting signals link.time.now) link).1 := by
  rcases called with ⟨far, -⟩ | ⟨-, same, ended, -⟩
  · exact absurd countable far
  · exact ⟨same, ended⟩

theorem Called.traced (called : Called signals transfer calls frame link made result next)
    (traced :
      let watch := Watch.starting signals link.time.now
      Traced link (calls watch link) (transfer watch link).2) : Traced link made next := by
  rcases called with ⟨-, none, -, same⟩ | ⟨-, same, -, last⟩
  · rw [none, same]
    exact .none link
  · rw [same, last]
    exact traced

end

theorem timed_called (signals : Signals) (transfer : Watch → Link → (Outcome Unit × γ) × Link)
    (calls : Watch → Link → List SocketCall) (frame : γ) (tidy : exchange.Tidy settings) :
    Called signals transfer calls frame exchange.link
      (granted signals
        (fun watch inner => if watch.beyondHorizon then [] else calls watch inner.link) exchange)
      (withTicket signals (fun halt => (.error halt, frame)) (timed transfer frame) exchange).1
      (withTicket signals (fun halt => (.error halt, frame)) (timed transfer frame)
        exchange).2.link := by
  refine withTicket_calls _
    (fun made => Called signals transfer calls frame exchange.link made) tidy ?_
  intro inner same clean watch ended
  by_cases near : Countable signals.deadline
  · have counted : watch.beyondHorizon = false := Countable.beyondHorizon near
    simp only [ended, timed, counted, Bool.false_eq_true, if_false, same]
    exact .inr ⟨near, rfl, rfl, rfl⟩
  · have beyond : watch.beyondHorizon = true := beyondHorizon_of_uncountable near
    simp only [ended, timed, beyond, if_true, same]
    exact .inl ⟨near, rfl, rfl, rfl⟩

theorem fillFrame_called (cancel : CancelToken) (deadline : Option Duration) (frame : Incoming)
    (tidy : exchange.Tidy settings) :
    Called { operation := .receive, deadline, cancel := some cancel } (fun watch => frame.fill watch)
      (fun watch => frame.fillCalls watch) frame exchange.link
      (exchange.fillCalls cancel deadline frame) (exchange.fillFrame cancel deadline frame).1
      (exchange.fillFrame cancel deadline frame).2.link :=
  timed_called { operation := .receive, deadline, cancel := some cancel }
    (fun watch => frame.fill watch) (fun watch => frame.fillCalls watch) frame tidy

theorem pushFrame_called (cancel : CancelToken) (deadline : Option Duration) (frame : Outgoing)
    (tidy : exchange.Tidy settings) :
    Called { operation := .send, deadline, cancel := some cancel } (fun watch => frame.push watch)
      (fun watch => frame.pushCalls watch) frame exchange.link
      (exchange.pushCalls cancel deadline frame) (exchange.pushFrame cancel deadline frame).1
      (exchange.pushFrame cancel deadline frame).2.link :=
  timed_called { operation := .send, deadline, cancel := some cancel }
    (fun watch => frame.push watch) (fun watch => frame.pushCalls watch) frame tidy

theorem fillFrame_traced (cancel : CancelToken) (deadline : Option Duration) (frame : Incoming)
    (tidy : exchange.Tidy settings) :
    Traced exchange.link (exchange.fillCalls cancel deadline frame)
      (exchange.fillFrame cancel deadline frame).2.link := by
  apply (fillFrame_called cancel deadline frame tidy).traced
  exact frame.traced_fill rfl exchange.link

theorem pushFrame_traced (cancel : CancelToken) (deadline : Option Duration) (frame : Outgoing)
    (tidy : exchange.Tidy settings) :
    Traced exchange.link (exchange.pushCalls cancel deadline frame)
      (exchange.pushFrame cancel deadline frame).2.link := by
  apply (pushFrame_called cancel deadline frame tidy).traced
  exact frame.traced_push rfl exchange.link

theorem fillFrame_ends (cancel : CancelToken) {deadline : Option Duration} {frame : Incoming}
    {held : Bytes} (holds : frame.Holds held) (countable : Countable deadline)
    (tidy : exchange.Tidy settings) :
    Incoming.Ends frame.maxPayload held (exchange.fillCalls cancel deadline frame)
      (exchange.fillFrame cancel deadline frame).1 := by
  obtain ⟨made, result⟩ := (fillFrame_called cancel deadline frame tidy).counted countable
  rw [made, result]
  exact Incoming.fill_ends holds _ exchange.link

theorem pushFrame_ends (cancel : CancelToken) {deadline : Option Duration} {frame : Outgoing}
    (whole : frame.Whole) (countable : Countable deadline) (tidy : exchange.Tidy settings) :
    Outgoing.Ends frame (exchange.pushCalls cancel deadline frame)
      (exchange.pushFrame cancel deadline frame).1 := by
  obtain ⟨made, result⟩ := (pushFrame_called cancel deadline frame tidy).counted countable
  rw [made, result]
  exact Outgoing.push_ends whole _ exchange.link

theorem fillFrame_lawful (cancel : CancelToken) (deadline : Option Duration) {frame : Incoming}
    {held : Bytes} (holds : frame.Holds held) (tidy : exchange.Tidy settings) :
    ∀ halt, (exchange.fillFrame cancel deadline frame).1.1 = .error halt → ¬ halt.Violates := by
  intro halt failed
  rcases fillFrame_called cancel deadline frame tidy with ⟨-, -, result, -⟩ | ⟨near, -⟩
  · rw [result] at failed
    cases failed
    exact id
  · have ends := fillFrame_ends cancel holds near tidy
    generalize (exchange.fillFrame cancel deadline frame).1 = filled at ends failed
    obtain ⟨outcome, after⟩ := filled
    obtain rfl : outcome = .error halt := failed
    exact ends.lawful

theorem pushFrame_overstates (cancel : CancelToken) (deadline : Option Duration) {frame : Outgoing}
    (whole : frame.Whole) (tidy : exchange.Tidy settings) :
    ∀ halt, (exchange.pushFrame cancel deadline frame).1.1 = .error halt → halt.Violates →
      ∃ call ∈ exchange.pushCalls cancel deadline frame, call.Overstates := by
  intro halt failed violated
  rcases pushFrame_called cancel deadline frame tidy with ⟨-, -, result, -⟩ | ⟨near, -⟩
  · rw [result] at failed
    cases failed
    exact violated.elim
  · have ends := pushFrame_ends cancel whole near tidy
    generalize (exchange.pushFrame cancel deadline frame).1 = pushed at ends failed
    obtain ⟨outcome, last⟩ := pushed
    obtain rfl : outcome = .error halt := failed
    exact ends.overstates violated

theorem fillFrame_cancelled (cancel : CancelToken) {deadline : Option Duration} (frame : Incoming)
    (wants : frame.wantsBytes = true) (countable : Countable deadline)
    (tidy : exchange.Tidy settings) (cancelled : exchange.link.time.cancelled = true) :
    (exchange.fillFrame cancel deadline frame).1 =
      (.error (.error (.cancelled .receive)), frame.expose) := by
  obtain ⟨-, result⟩ := (fillFrame_called cancel deadline frame tidy).counted countable
  rw [result]
  exact congrArg Prod.fst (Incoming.fill_cancelled wants rfl cancelled)

theorem pushFrame_cancelled (cancel : CancelToken) {deadline : Option Duration} (frame : Outgoing)
    (countable : Countable deadline) (tidy : exchange.Tidy settings)
    (cancelled : exchange.link.time.cancelled = true) :
    (exchange.pushFrame cancel deadline frame).1 =
      (.error (.error (.cancelled .send)), frame) := by
  obtain ⟨-, result⟩ := (pushFrame_called cancel deadline frame tidy).counted countable
  rw [result]
  exact congrArg Prod.fst (Outgoing.push_cancelled rfl cancelled)

theorem receiveSome_traced (cancel : CancelToken) (remote : SocketAddress) (maxLength : Nat)
    (deadline : Option Duration) (tidy : exchange.Tidy settings) :
    Traced exchange.link (exchange.receiveCalls cancel maxLength deadline)
        (exchange.receiveSome cancel remote maxLength deadline).2.link ∧
      (exchange.link.time.cancelled = true →
        (exchange.receiveSome cancel remote maxLength deadline).1 =
          .error (.error (.cancelled .receive))) := by
  refine withTicket_calls _ (fun calls (result : Outcome Delivery) next =>
    Traced exchange.link calls next ∧
      (exchange.link.time.cancelled = true → result = .error (.error (.cancelled .receive))))
    tidy ?_
  intro inner same clean watch ended
  have one : Traced exchange.link [{ request := .read maxLength, watch, link := exchange.link }]
      (exchange.link.read watch maxLength).2 :=
    ⟨.one { request := .read maxLength, watch, link := exchange.link }, by simp [watch]; rfl⟩
  have cancelled := (Link.raced_read watch maxLength exchange.link).cancelled rfl
  simp only [ended, Ticket.attach, Ticket.carried, same]
  split
  · rename_i halt next stopped
    rw [stopped] at one cancelled
    refine ⟨one, ?_⟩
    intro stopped
    obtain ⟨rfl, -⟩ : halt = .error (.cancelled .receive) ∧ next = exchange.link := by
      simpa [watch, Watch.starting] using cancelled stopped
    rfl
  · rename_i received next arrived
    rw [arrived] at one cancelled
    split
    · exact ⟨one, fun stopped => by simpa using cancelled stopped⟩
    · exact ⟨one, fun stopped => by simpa using cancelled stopped⟩

theorem sendAll_traced (cancel : CancelToken) (remote : SocketAddress) (payload : Bytes)
    (deadline : Option Duration) (tidy : exchange.Tidy settings) :
    Traced exchange.link (exchange.sendCalls cancel payload deadline)
        (exchange.sendAll cancel remote payload deadline).2.link ∧
      (Countable deadline → exchange.link.time.cancelled = true →
        (exchange.sendAll cancel remote payload deadline).1 =
          .error (.error (.cancelled .send))) := by
  refine withTicket_calls _ (fun calls (result : Outcome Delivery) next =>
    Traced exchange.link calls next ∧
      (Countable deadline → exchange.link.time.cancelled = true →
        result = .error (.error (.cancelled .send)))) tidy ?_
  intro inner same clean watch ended
  by_cases near : Countable deadline
  · have counted : watch.beyondHorizon = false := Countable.beyondHorizon near
    generalize whole : ({ buffer := (inner.resources.rentBuffer payload.length).1.append payload
                          progress := Progress.start payload.length } : Outgoing) = frame at ended
    have traced := @Outgoing.traced_push watch rfl frame exchange.link
    have cancelled := @Outgoing.push_cancelled watch frame exchange.link rfl
    simp only [ended, Ticket.attach, Ticket.carried, counted, Bool.false_eq_true, if_false, same,
      whole]
    split
    · rename_i halt last next stopped
      rw [stopped] at traced cancelled
      refine ⟨traced, ?_⟩
      intro _ stopped
      obtain ⟨⟨rfl, -⟩, -⟩ : (halt = .error (.cancelled .send) ∧ last = frame) ∧
          next = exchange.link := by
        simpa [watch, Watch.starting] using cancelled stopped
      rfl
    · rename_i last next sent
      rw [sent] at traced cancelled
      exact ⟨traced, fun _ stopped => by simpa using cancelled stopped⟩
  · have beyond : watch.beyondHorizon = true := beyondHorizon_of_uncountable near
    simp only [ended, Ticket.attach, beyond, if_true, same]
    exact ⟨.none _, fun countable => absurd countable near⟩

theorem shutdown_traced (cancel : CancelToken) (deadline : Option Duration)
    (tidy : exchange.Tidy settings) :
    let ended : Outcome Unit × Exchange := withTicket
      { operation := .disconnect, deadline, cancel := some cancel } .error
      (fun watch ticket exchange =>
        let (ended, link) := exchange.link.shutdown watch
        ((ended, ticket), { exchange with link })) exchange
    Traced exchange.link (exchange.shutdownCalls cancel deadline) ended.2.link ∧
      (exchange.link.time.cancelled = true →
        ended.1 = .error (.error (.cancelled .disconnect))) := by
  refine withTicket_calls _ (fun calls (result : Outcome Unit) next =>
    Traced exchange.link calls next ∧
      (exchange.link.time.cancelled = true → result = .error (.error (.cancelled .disconnect))))
    tidy ?_
  intro inner same clean watch ended
  simp only [ended, same]
  constructor
  · exact ⟨.one { request := .shutdown, watch, link := exchange.link }, by simp [watch]; rfl⟩
  · intro cancelled
    exact congrArg Prod.fst ((Link.raced_shutdown watch exchange.link).cancelled rfl cancelled)

end Exchange

namespace Receiver

variable {settings : Settings} {exchange : Exchange}

def socketCalls (call : Call) (receiver : Receiver) (exchange : Exchange) : List SocketCall :=
  if receiver.isOpen then
    match call with
    | .receive maxLength deadline => exchange.receiveCalls receiver.cancel maxLength deadline
    | .receiveFrame deadline =>
        let settings := exchange.resources.settings
        let (buffer, resources) := exchange.resources.rentBuffer settings.bufferCapacity
        { exchange with resources }.fillCalls receiver.cancel deadline
          (Incoming.start buffer settings.maxFrameSize)
  else []

theorem calls_traced (call : Call) (receiver : Receiver) (tidy : exchange.Tidy settings) :
    Traced exchange.link (receiver.socketCalls call exchange)
      (calls call receiver exchange).2.2.link := by
  unfold socketCalls
  cases opened : receiver.isOpen with
  | false =>
      cases call with
      | receive maxLength deadline =>
          simp only [calls, receive, opened]
          exact .none _
      | receiveFrame deadline =>
          simp only [calls, receiveFrame, opened]
          exact .none _
  | true =>
      cases call with
      | receive maxLength deadline =>
          obtain ⟨traced, -⟩ :=
            Exchange.receiveSome_traced receiver.cancel receiver.remote maxLength deadline tidy
          simp only [calls, receive, opened, if_true]
          split <;> rename_i ended <;> rw [ended] at traced
          · exact traced
          · exact traced
      | receiveFrame deadline =>
          have lent := tidy.rentBuffer exchange.resources.settings.bufferCapacity
          have traced := Exchange.fillFrame_traced receiver.cancel deadline (Incoming.start
            (exchange.resources.rentBuffer exchange.resources.settings.bufferCapacity).1
            exchange.resources.settings.maxFrameSize) lent
          simp only [calls, receiveFrame, opened, if_true]
          split <;> rename_i ended <;> rw [ended] at traced
          · exact traced
          · split
            · exact traced
            · exact traced

def Call.deadline : Call → Option Duration
  | .receive _ deadline => deadline
  | .receiveFrame deadline => deadline

theorem calls_cancelled {call : Call} {receiver : Receiver} (opened : receiver.isOpen = true)
    (countable : Exchange.Countable call.deadline) (tidy : exchange.Tidy settings)
    (cancelled : exchange.link.time.cancelled = true) :
    (calls call receiver exchange).1 = .error (.error (.cancelled .receive)) ∧
      (calls call receiver exchange).2.1.isOpen = false := by
  cases call with
  | receive maxLength deadline =>
      obtain ⟨-, told⟩ :=
        Exchange.receiveSome_traced receiver.cancel receiver.remote maxLength deadline tidy
      have told := told cancelled
      simp only [calls, receive, opened, if_true]
      split <;> rename_i ended <;> rw [ended] at told
      · cases told
      · cases told
        simp [Except.map, after, Halt.survivable, TransportError.isRecoverable]
  | receiveFrame deadline =>
      have lent := tidy.rentBuffer exchange.resources.settings.bufferCapacity
      have told := Exchange.fillFrame_cancelled receiver.cancel (Incoming.start
        (exchange.resources.rentBuffer exchange.resources.settings.bufferCapacity).1
        exchange.resources.settings.maxFrameSize) rfl countable lent cancelled
      simp only [Call.deadline] at told
      simp only [calls, receiveFrame, opened, if_true]
      split <;> rename_i ended <;> rw [ended] at told
      · cases told
        simp [Except.map, after, Halt.survivable, TransportError.isRecoverable]
      · cases told

end Receiver

theorem Outgoing.encode_excessive (buffer : Buffer) {payload : Bytes} {limit : Nat}
    (excessive : limit < payload.length ∨ UInt32.size ≤ payload.length) :
    ∃ length most, encode buffer payload limit = .error (.frameTooLarge length most) := by
  unfold encode
  split
  · exact ⟨_, _, rfl⟩
  · rename_i small
    have wide : ¬ payload.length < UInt32.size := by omega
    simp only [Frame.encodeOnto, FrameHeader.forPayload, wide, dite_false, bind, Except.bind]
    exact ⟨_, _, rfl⟩

namespace Sender

variable {settings : Settings} {exchange : Exchange}

def socketCalls (call : Call) (sender : Sender) (exchange : Exchange) : List SocketCall :=
  if sender.isOpen then
    match call with
    | .send payload deadline => exchange.sendCalls sender.cancel payload deadline
    | .sendFrame payload deadline =>
        let settings := exchange.resources.settings
        let (buffer, resources) :=
          exchange.resources.rentBuffer (FrameHeader.size + payload.length)
        match Outgoing.encode buffer payload settings.maxFrameSize with
        | .error _ => []
        | .ok frame => { exchange with resources }.pushCalls sender.cancel deadline frame
    | .shutdown deadline => exchange.shutdownCalls sender.cancel deadline
  else []

theorem calls_traced (call : Call) (sender : Sender) (tidy : exchange.Tidy settings) :
    Traced exchange.link (sender.socketCalls call exchange)
      (calls call sender exchange).2.2.link := by
  unfold socketCalls
  cases opened : sender.isOpen with
  | false =>
      cases call with
      | send payload deadline =>
          simp only [calls, send, opened]
          exact .none _
      | sendFrame payload deadline =>
          simp only [calls, sendFrame, opened]
          exact .none _
      | shutdown deadline =>
          simp only [calls, shutdown, opened]
          exact .none _
  | true =>
      cases call with
      | send payload deadline =>
          obtain ⟨traced, -⟩ :=
            Exchange.sendAll_traced sender.cancel sender.remote payload deadline tidy
          simp only [calls, send, opened, if_true]
          split <;> rename_i ended <;> rw [ended] at traced
          · exact traced
          · exact traced
      | sendFrame payload deadline =>
          have lent := tidy.rentBuffer (FrameHeader.size + payload.length)
          simp only [calls, sendFrame, opened, if_true]
          cases encoded : Outgoing.encode
              (exchange.resources.rentBuffer (FrameHeader.size + payload.length)).1 payload
              exchange.resources.settings.maxFrameSize with
          | error reason => exact .none _
          | ok frame =>
              have traced := Exchange.pushFrame_traced sender.cancel deadline frame lent
              dsimp only
              split <;> rename_i ended <;> rw [ended] at traced
              · exact traced
              · split
                · exact traced
                · exact traced
      | shutdown deadline =>
          simp only [calls, shutdown, opened, if_true]
          exact (Exchange.shutdown_traced sender.cancel deadline tidy).1

def Call.deadline : Call → Option Duration
  | .send _ deadline => deadline
  | .sendFrame _ deadline => deadline
  | .shutdown deadline => deadline

def Call.operation : Call → Operation
  | .send .. | .sendFrame .. => .send
  | .shutdown _ => .disconnect

/-- A frame whose payload is more than the settings or the length field allow. -/
def Call.Excessive (limit : Nat) : Call → Prop
  | .sendFrame payload _ => limit < payload.length ∨ UInt32.size ≤ payload.length
  | .send .. | .shutdown _ => False

theorem calls_cancelled {call : Call} {sender : Sender} (opened : sender.isOpen = true)
    (countable : Exchange.Countable call.deadline) (tidy : exchange.Tidy settings)
    (cancelled : exchange.link.time.cancelled = true)
    (moderate : ¬ call.Excessive settings.maxFrameSize) :
    (calls call sender exchange).1 = .error (.error (.cancelled call.operation)) ∧
      (calls call sender exchange).2.1.isOpen = false := by
  cases call with
  | send payload deadline =>
      obtain ⟨-, told⟩ :=
        Exchange.sendAll_traced sender.cancel sender.remote payload deadline tidy
      have told := told countable cancelled
      simp only [calls, send, opened, if_true]
      split <;> rename_i ended <;> rw [ended] at told
      · cases told
      · cases told
        simp [Except.map, after, Call.operation]
  | sendFrame payload deadline =>
      have lent := tidy.rentBuffer (FrameHeader.size + payload.length)
      obtain ⟨small, fits⟩ : payload.length ≤ settings.maxFrameSize ∧
          payload.length < UInt32.size := by
        simp only [Call.Excessive, not_or, Nat.not_lt, Nat.not_le] at moderate
        exact moderate
      obtain ⟨frame, encoded⟩ := Outgoing.encode_ok
        (exchange.resources.rentBuffer (FrameHeader.size + payload.length)).1
        (tidy.settings ▸ small) fits
      have told := Exchange.pushFrame_cancelled sender.cancel frame countable lent cancelled
      simp only [Call.deadline] at told
      simp only [calls, sendFrame, opened, if_true, encoded]
      split <;> rename_i ended <;> rw [ended] at told
      · cases told
        simp [Except.map, after, Halt.survivable, TransportError.isRecoverable, Call.operation]
      · cases told
  | shutdown deadline =>
      have told := (Exchange.shutdown_traced sender.cancel deadline tidy).2 cancelled
      simp only [calls, shutdown, opened, if_true, told]
      simp [Except.map, Call.operation]

theorem calls_excessive {call : Call} {sender : Sender} (opened : sender.isOpen = true)
    (excessive : call.Excessive exchange.resources.settings.maxFrameSize) :
    (∃ length limit, (calls call sender exchange).1 =
        .error (.error (.frameTooLarge length limit))) ∧
      (calls call sender exchange).2.1 = sender ∧
      (calls call sender exchange).2.2.link = exchange.link ∧
      sender.socketCalls call exchange = [] := by
  cases call with
  | send payload deadline => exact excessive.elim
  | shutdown deadline => exact excessive.elim
  | sendFrame payload deadline =>
      obtain ⟨length, limit, refused⟩ := Outgoing.encode_excessive
        (exchange.resources.rentBuffer (FrameHeader.size + payload.length)).1 excessive
      simp only [calls, sendFrame, socketCalls, opened, if_true, refused]
      exact ⟨⟨length, limit, rfl⟩, trivial, rfl, trivial⟩

end Sender

end FramedTransport
