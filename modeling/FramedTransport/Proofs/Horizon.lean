import FramedTransport.Proofs.Budgets
import FramedTransport.Proofs.Receiving
import FramedTransport.Proofs.Serving

/-!
Deadlines that the clock cannot count ahead to.
A single socket call treats such a deadline as none. A transfer made of several calls has
to know the moment at which its deadline is over, and stops with a broken invariant if there
is none. Nothing else stops an operation in that way.
-/

namespace FramedTransport

def Unbroken {β : Type} (outcome : Outcome β) : Prop := ∀ reason, outcome ≠ .error (.abort reason)

theorem Unbroken.pass {β γ : Type} {halt : Halt} (unbroken : Unbroken (.error halt : Outcome β)) :
    Unbroken (.error halt : Outcome γ) := by
  rintro reason ⟨⟩
  exact unbroken reason rfl

theorem unbroken_map {β γ : Type} {outcome : Outcome β} {change : β → γ} :
    Unbroken (outcome.map change) ↔ Unbroken outcome := by
  cases outcome with
  | ok value => simp [Unbroken, Except.map]
  | error halt => simp [Unbroken, Except.map]

namespace Race

variable {α : Type}

/-- Without a deadline that ever comes, the deadline makes no difference. -/
theorem run_unlimited (time : Timeline) (source : Script α) {watch other : Watch}
    (alike : watch.Alike other) (operation : watch.operation = other.operation)
    (never : other.dueAt = none) :
    (run time { watch, source }).outcome = (run time { watch := other, source }).outcome ∧
      (run time { watch, source }).time = (run time { watch := other, source }).time ∧
      (run time { watch, source }).race.source =
        (run time { watch := other, source }).race.source := by
  have raced : run time { watch, source } =
      { run time { watch := other, source } with
        race := (run time { watch := other, source }).race.rewatch watch } :=
    run_rewatch time { watch := other, source } alike
  have within : other.Within time.now := by
    intro moment due
    rw [never] at due
    cases due
  obtain ⟨-, due⟩ := within_run time { watch := other, source } within
  have watched := watch_run time { watch := other, source }
  -- The two watches may differ in what a timeout would name, but neither times out.
  rw [raced]
  refine ⟨?_, rfl, rfl⟩
  unfold Step.outcome
  dsimp only [rewatch]
  rw [watched]
  cases verdict : (run time { watch := other, source }).verdict with
  | none => rfl
  | some decided =>
      cases decided with
      | ready value => rfl
      | cancelled => simp [operation]
      | timedOut =>
          have reached := due verdict
          simp [Watch.due, never] at reached

end Race

namespace Link

variable {watch other : Watch}

theorem read_unlimited (room : Nat) (link : Link) (alike : watch.Alike other)
    (operation : watch.operation = other.operation) (never : other.dueAt = none) :
    link.read watch room = link.read other room := by
  obtain ⟨outcome, time, source⟩ := Race.run_unlimited link.time link.reads alike operation never
  unfold read
  dsimp only
  rw [outcome, time, source, operation]

theorem shutdown_unlimited (link : Link) (alike : watch.Alike other)
    (operation : watch.operation = other.operation) (never : other.dueAt = none) :
    link.shutdown watch = link.shutdown other := by
  obtain ⟨outcome, time, source⟩ :=
    Race.run_unlimited link.time link.shutdowns alike operation never
  unfold shutdown
  dsimp only
  rw [outcome, time, source, operation]

theorem Raced.unbroken {α β : Type} {source : Script α} {link next : Link} {outcome : Outcome β}
    (raced : Raced watch source link outcome next) : Unbroken outcome :=
  fun _ broken => (raced.halts broken).1

end Link

theorem Incoming.unbroken_fill (watch : Watch) (frame : Incoming) (link : Link) :
    Unbroken (fill watch frame link).1.1 := by
  fun_induction fill watch frame link with
  | case1 frame link wants halt next stopped =>
      have read := (Link.raced_read watch frame.windowLength link).unbroken
      rw [stopped] at read
      exact read.pass
  | case2 frame link wants received next arrived after reason refused => simp [Unbroken]
  | case3 frame link wants received next arrived after accepted ih => exact ih
  | case4 frame link idle header ready => simp [Unbroken]
  | case5 frame link idle undispatched => simp [Unbroken]

theorem Outgoing.unbroken_push (watch : Watch) (frame : Outgoing) (link : Link) :
    Unbroken (push watch frame link).1.1 := by
  fun_induction push watch frame link with
  | case1 frame link complete flushed next ended =>
      have flush := (Link.raced_flush watch link).unbroken
      rwa [ended] at flush
  | case2 frame link incomplete halt next stopped =>
      have write := (Link.raced_write watch frame.pending link).unbroken
      rw [stopped] at write
      exact write.pass
  | case3 frame link incomplete count next taken reason refused => simp [Unbroken]
  | case4 frame link incomplete count next taken after accepted ih => exact ih

namespace Exchange

variable {settings : Settings} {exchange : Exchange} {deadline : Option Duration} {γ : Type}

/-- What becomes of a transfer: it breaks before it begins if its deadline cannot be counted, and
for no other reason. -/
structure Breaks (deadline : Option Duration) (frame : γ) (link : Link)
    (result : Outcome Unit × γ) (next : Link) : Prop where
  unbroken : Countable deadline → Unbroken result.1
  overflow : ¬ Countable deadline →
    result = (.error (.abort .deadlineOverflow), frame) ∧ next = link

theorem exists_of_uncountable (far : ¬ Countable deadline) :
    ∃ span, deadline = some span ∧ Watch.horizon ≤ span.seconds := by
  cases deadline with
  | none => exact absurd (by simp [Countable]) far
  | some span => exact ⟨span, rfl, by simpa [Countable] using far⟩

theorem beyondHorizon_of_uncountable {watch : Watch} (far : ¬ Countable watch.deadline) :
    watch.beyondHorizon = true := by
  obtain ⟨span, given, beyond⟩ := exists_of_uncountable far
  simp [Watch.beyondHorizon, given, beyond]

theorem dueAt_of_uncountable {watch : Watch} (far : ¬ Countable watch.deadline) :
    watch.dueAt = none := by
  obtain ⟨span, given, beyond⟩ := exists_of_uncountable far
  simp [Watch.dueAt, given, Nat.not_lt.2 beyond]

theorem timed_breaks (signals : Signals) (transfer : Watch → Link → (Outcome Unit × γ) × Link)
    (frame : γ) (tidy : exchange.Tidy settings)
    (unbroken : ∀ watch link, Unbroken (transfer watch link).1.1) :
    Breaks signals.deadline frame exchange.link
        (withTicket signals (fun halt => (.error halt, frame)) (timed transfer frame) exchange).1
        (withTicket signals (fun halt => (.error halt, frame)) (timed transfer frame)
          exchange).2.link ∧
      (withTicket signals (fun halt => (.error halt, frame)) (timed transfer frame)
        exchange).2.Tidy settings := by
  refine withTicket_tidy (Breaks signals.deadline frame exchange.link) tidy ?_
  intro inner same clean
  unfold timed
  split
  · rename_i beyond
    refine ⟨⟨?_, fun _ => ⟨rfl, same⟩⟩, clean⟩
    intro countable
    rw [Countable.beyondHorizon countable] at beyond
    cases beyond
  · rename_i counted
    refine ⟨⟨fun _ => unbroken _ _, ?_⟩, clean.relinked _⟩
    intro far
    rw [beyondHorizon_of_uncountable far] at counted
    exact absurd rfl counted

theorem fillFrame_breaks (cancel : CancelToken) (deadline : Option Duration) (frame : Incoming)
    (tidy : exchange.Tidy settings) :
    Breaks deadline frame exchange.link (exchange.fillFrame cancel deadline frame).1
        (exchange.fillFrame cancel deadline frame).2.link ∧
      (exchange.fillFrame cancel deadline frame).2.Tidy settings :=
  timed_breaks { operation := .receive, deadline, cancel := some cancel }
    (fun watch => frame.fill watch) frame tidy fun watch link => frame.unbroken_fill watch link

theorem pushFrame_breaks (cancel : CancelToken) (deadline : Option Duration) (frame : Outgoing)
    (tidy : exchange.Tidy settings) :
    Breaks deadline frame exchange.link (exchange.pushFrame cancel deadline frame).1
        (exchange.pushFrame cancel deadline frame).2.link ∧
      (exchange.pushFrame cancel deadline frame).2.Tidy settings :=
  timed_breaks { operation := .send, deadline, cancel := some cancel }
    (fun watch => frame.push watch) frame tidy fun watch link => frame.unbroken_push watch link

theorem sendAll_breaks (cancel : CancelToken) (remote : SocketAddress) (payload : Bytes)
    (deadline : Option Duration) (tidy : exchange.Tidy settings) :
    (Countable deadline → Unbroken (exchange.sendAll cancel remote payload deadline).1) ∧
      (¬ Countable deadline →
        (exchange.sendAll cancel remote payload deadline).1 =
            .error (.abort .deadlineOverflow) ∧
          (exchange.sendAll cancel remote payload deadline).2.link = exchange.link) := by
  refine withTicket_granted (fun result link =>
    (Countable deadline → Unbroken result) ∧
      (¬ Countable deadline →
        result = .error (.abort .deadlineOverflow) ∧ link = exchange.link)) tidy ?_
  intro inner same clean
  dsimp only
  split
  · rename_i refused
    cases refused
  · rename_i attached
    cases attached
    split
    · rename_i beyond
      refine ⟨?_, fun _ => ⟨rfl, same⟩⟩
      intro countable
      rw [Countable.beyondHorizon countable] at beyond
      cases beyond
    · rename_i counted
      have pushed := Outgoing.unbroken_push (Watch.starting
        { operation := .send, deadline, cancel := some cancel } exchange.link.time.now)
        { buffer := (inner.resources.rentBuffer payload.length).1.append payload
          progress := Progress.start payload.length } inner.link
      dsimp only [Ticket.carried]
      constructor
      · intro _
        split
        · rename_i halted
          rw [halted] at pushed
          exact pushed.pass
        · simp [Unbroken, reclaim, Ticket.detach, Except.map]
      · intro far
        rw [beyondHorizon_of_uncountable far] at counted
        exact absurd rfl counted

theorem receiveSome_unbroken (cancel : CancelToken) (remote : SocketAddress) (maxLength : Nat)
    (deadline : Option Duration) (tidy : exchange.Tidy settings) :
    Unbroken (exchange.receiveSome cancel remote maxLength deadline).1 := by
  refine withTicket_granted (fun (result : Outcome Delivery) _ => Unbroken result) tidy ?_
  intro inner same clean
  have read := (Link.raced_read (Watch.starting
    { operation := .receive, deadline, cancel := some cancel } exchange.link.time.now) maxLength
    inner.link).unbroken
  dsimp only
  split
  · simp [Unbroken]
  · rename_i attached
    cases attached
    dsimp only [Ticket.carried]
    split
    · rename_i halted
      rw [halted] at read
      exact read.pass
    · split
      · simp [Unbroken]
      · simp [Unbroken, reclaim, Ticket.detach, Ticket.changeLease, Except.map]

theorem giveBackTicket_lease (resources : Resources) {first second : Ticket}
    (same : first.lease = second.lease) :
    resources.giveBackTicket first = resources.giveBackTicket second := by
  cases first
  cases second
  cases same
  rfl

theorem withTicket_congr {β : Type} {first second : Signals} {refused : Halt → β}
    {body : Watch → Ticket → Exchange → (β × Ticket) × Exchange} (tidy : exchange.Tidy settings)
    (same : ∀ inner,
      let one := body (Watch.starting first exchange.link.time.now) { armed := some first } inner
      let other := body (Watch.starting second exchange.link.time.now) { armed := some second } inner
      one.1.1 = other.1.1 ∧ one.1.2.lease = other.1.2.lease ∧ one.2 = other.2) :
    withTicket first refused body exchange = withTicket second refused body exchange := by
  rw [withTicket_eq, withTicket_eq]
  rw [tidy.resources.rentTicket_eq first, tidy.resources.rentTicket_eq second]
  dsimp only
  obtain ⟨value, lease, left⟩ := same _
  rw [value, left, giveBackTicket_lease _ lease]

theorem alike_starting {operation : Operation} {cancel : Option CancelToken} (now : Nat)
    (far : ¬ Countable deadline) :
    (Watch.starting { operation, deadline, cancel } now).Alike
      (Watch.starting { operation, deadline := none, cancel } now) where
  cancellable := rfl
  dueAt := dueAt_of_uncountable far

theorem receiveSome_unlimited (cancel : CancelToken) (remote : SocketAddress) (maxLength : Nat)
    (far : ¬ Countable deadline) (tidy : exchange.Tidy settings) :
    exchange.receiveSome cancel remote maxLength deadline =
      exchange.receiveSome cancel remote maxLength none := by
  refine withTicket_congr tidy ?_
  intro inner
  dsimp only [Ticket.attach, Ticket.carried]
  rw [Link.read_unlimited maxLength inner.link (alike_starting _ far) rfl rfl]
  split
  · exact ⟨rfl, rfl, rfl⟩
  · split
    · exact ⟨rfl, rfl, rfl⟩
    · exact ⟨rfl, rfl, rfl⟩

end Exchange

/-- A call that broke before it began: its half is as it was, and nothing was moved. -/
structure Overflowed {η : Type} (half : η) (exchange : Exchange)
    (ended : Outcome (Option Delivery) × η × Exchange) : Prop where
  outcome : ended.1 = .error (.abort .deadlineOverflow)
  half : ended.2.1 = half
  link : ended.2.2.link = exchange.link

namespace Receiver

variable {settings : Settings} {exchange : Exchange} {deadline : Option Duration}

theorem receive_unbroken (maxLength : Nat) (deadline : Option Duration) (receiver : Receiver)
    (tidy : exchange.Tidy settings) :
    Unbroken (calls (.receive maxLength deadline) receiver exchange).1 := by
  have received := Exchange.receiveSome_unbroken receiver.cancel receiver.remote maxLength deadline
    tidy
  simp only [calls, receive, unbroken_map]
  split
  · split <;> rename_i ended <;> rw [ended] at received
    · simp [Unbroken]
    · exact received
  · simp [Unbroken, notOpen]

theorem receive_unlimited (maxLength : Nat) (receiver : Receiver) (tidy : exchange.Tidy settings)
    (far : ¬ Exchange.Countable deadline) :
    calls (.receive maxLength deadline) receiver exchange =
      calls (.receive maxLength none) receiver exchange := by
  simp only [calls, receive,
    Exchange.receiveSome_unlimited receiver.cancel receiver.remote maxLength far tidy]

theorem receiveFrame_breaks (deadline : Option Duration) (receiver : Receiver)
    (tidy : exchange.Tidy settings) :
    let ended := calls (.receiveFrame deadline) receiver exchange
    (Exchange.Countable deadline → Unbroken ended.1) ∧
      (¬ Exchange.Countable deadline → receiver.isOpen = true →
        Overflowed receiver exchange ended) := by
  have filled := (Exchange.fillFrame_breaks receiver.cancel deadline
    (Incoming.start (exchange.resources.rentBuffer
      exchange.resources.settings.bufferCapacity).1 exchange.resources.settings.maxFrameSize)
    (tidy.rentBuffer exchange.resources.settings.bufferCapacity)).1
  dsimp only [calls]
  rw [unbroken_map]
  unfold receiveFrame
  constructor
  · intro countable
    have unbroken := filled.unbroken countable
    split
    · dsimp only
      split <;> rename_i ended <;> rw [ended] at unbroken
      · exact unbroken.pass
      · split
        · simp [Unbroken]
        · simp [Unbroken]
    · simp [Unbroken, notOpen]
  · intro far isOpen
    obtain ⟨result, link⟩ := filled.overflow far
    rw [if_pos isOpen]
    dsimp only
    split <;> rename_i ended <;> rw [ended] at result link <;> cases result
    exact ⟨rfl, by simp [after, Halt.survivable], link⟩

end Receiver

namespace Sender

variable {settings : Settings} {exchange : Exchange} {deadline : Option Duration}

theorem send_breaks (payload : Bytes) (deadline : Option Duration) (sender : Sender)
    (tidy : exchange.Tidy settings) :
    let ended := calls (.send payload deadline) sender exchange
    (Exchange.Countable deadline → Unbroken ended.1) ∧
      (¬ Exchange.Countable deadline → sender.isOpen = true →
        Overflowed sender exchange ended) := by
  obtain ⟨unbroken, overflow⟩ := Exchange.sendAll_breaks sender.cancel sender.remote payload
    deadline tidy
  dsimp only [calls]
  rw [unbroken_map]
  unfold send
  constructor
  · intro countable
    have sent := unbroken countable
    split
    · split <;> rename_i ended <;> rw [ended] at sent
      · simp [Unbroken]
      · exact sent
    · simp [Unbroken, notOpen]
  · intro far isOpen
    obtain ⟨result, link⟩ := overflow far
    rw [if_pos isOpen]
    split <;> rename_i ended <;> rw [ended] at result link <;> cases result
    exact ⟨rfl, by simp [after], link⟩

theorem sendFrame_breaks (payload : Bytes) (deadline : Option Duration) (sender : Sender)
    (tidy : exchange.Tidy settings) :
    let ended := calls (.sendFrame payload deadline) sender exchange
    (Exchange.Countable deadline → Unbroken ended.1) ∧
      (¬ Exchange.Countable deadline → sender.isOpen = true →
        payload.length ≤ settings.maxFrameSize → payload.length < UInt32.size →
        Overflowed sender exchange ended) := by
  have clean := tidy.rentBuffer (FrameHeader.size + payload.length)
  dsimp only [calls]
  rw [unbroken_map]
  unfold sendFrame
  constructor
  · intro countable
    split
    · dsimp only
      split
      · simp [Unbroken]
      · rename_i frame encoded
        have unbroken :=
          (Exchange.pushFrame_breaks sender.cancel deadline frame clean).1.unbroken countable
        split <;> rename_i ended <;> rw [ended] at unbroken
        · exact unbroken.pass
        · split
          · simp [Unbroken]
          · simp [Unbroken]
    · simp [Unbroken, notOpen]
  · intro far isOpen small fits
    obtain ⟨frame, encoded⟩ := Outgoing.encode_ok
      (exchange.resources.rentBuffer (FrameHeader.size + payload.length)).1 small fits
    obtain ⟨result, link⟩ :=
      (Exchange.pushFrame_breaks sender.cancel deadline frame clean).1.overflow far
    rw [← tidy.settings] at encoded
    rw [if_pos isOpen]
    dsimp only
    rw [encoded]
    dsimp only
    split <;> rename_i ended <;> rw [ended] at result link <;> cases result
    exact ⟨rfl, by simp [after, Halt.survivable], link⟩

theorem shutdown_unbroken (deadline : Option Duration) (sender : Sender)
    (tidy : exchange.Tidy settings) :
    Unbroken (calls (.shutdown deadline) sender exchange).1 := by
  simp only [calls, shutdown, unbroken_map]
  split
  · refine Exchange.withTicket_granted (fun (result : Outcome Unit) _ => Unbroken result) tidy ?_
    intro inner same clean
    exact (Link.raced_shutdown _ inner.link).unbroken
  · simp [Unbroken, notOpen]

theorem shutdown_unlimited (sender : Sender) (tidy : exchange.Tidy settings)
    (far : ¬ Exchange.Countable deadline) :
    calls (.shutdown deadline) sender exchange = calls (.shutdown none) sender exchange := by
  simp only [calls, shutdown]
  split
  · rw [Exchange.withTicket_congr tidy]
    intro inner
    dsimp only
    rw [Link.shutdown_unlimited inner.link (Exchange.alike_starting _ far) rfl rfl]
    exact ⟨rfl, rfl, rfl⟩
  · rfl

end Sender

namespace Session

variable {σ : Type} {settings : Settings} {exchange : Exchange}

theorem endOf_unbroken {halt : Halt} (unbroken : Unbroken (.error halt : Outcome Unit)) :
    Unbroken (endOf halt) := by
  unfold endOf
  split
  · simp [Unbroken]
  · simp [Unbroken]
  · exact unbroken.pass

theorem conclude_unbroken {outcome : Outcome SessionEnd} (unbroken : Unbroken outcome)
    (exchange : Exchange) : Unbroken (conclude outcome exchange).1 := by
  unfold conclude
  split
  · exact unbroken
  · exact unbroken
  · split
    · simp [Unbroken]
    · exact unbroken
  · split
    · simp [Unbroken]
    · exact unbroken

theorem respond_breaks (cancel : CancelToken) (answer : Bytes) (tidy : exchange.Tidy settings) :
    (Exchange.Countable (some settings.operationTimeout) →
        Unbroken (respond cancel answer exchange).1) ∧
      (¬ Exchange.Countable (some settings.operationTimeout) →
        answer.length ≤ settings.maxFrameSize → answer.length < UInt32.size →
        (respond cancel answer exchange).1 = .error (.abort .deadlineOverflow) ∧
          (respond cancel answer exchange).2.link = exchange.link) := by
  have clean := tidy.rentBuffer (FrameHeader.size + answer.length)
  obtain rfl := tidy.settings
  unfold respond
  dsimp only
  constructor
  · intro countable
    split
    · simp [Unbroken]
    · rename_i frame encoded
      exact (Exchange.pushFrame_breaks cancel _ frame clean).1.unbroken countable
  · intro far small fits
    obtain ⟨frame, encoded⟩ := Outgoing.encode_ok
      (exchange.resources.rentBuffer (FrameHeader.size + answer.length)).1 small fits
    obtain ⟨result, link⟩ := (Exchange.pushFrame_breaks cancel _ frame clean).1.overflow far
    rw [encoded]
    exact ⟨congrArg Prod.fst result, link⟩

/-- Serving breaks only for want of a moment at which a deadline is over. -/
theorem serve_unbroken (handler : Handler σ) (remote : SocketAddress) (cancel : CancelToken)
    (frame : Incoming) (state : σ) (tidy : exchange.Tidy settings)
    (idle : Exchange.Countable settings.idleTimeout)
    (operation : Exchange.Countable (some settings.operationTimeout)) :
    Unbroken (serve handler remote cancel frame state exchange).outcome := by
  have filled {exchange : Exchange} (frame : Incoming) (tidy : exchange.Tidy settings) :
      Unbroken (exchange.fillFrame cancel exchange.resources.settings.idleTimeout frame).1.1 ∧
        (exchange.fillFrame cancel exchange.resources.settings.idleTimeout
          frame).2.Tidy settings := by
    rw [tidy.settings]
    obtain ⟨breaks, clean⟩ := Exchange.fillFrame_breaks cancel settings.idleTimeout frame tidy
    exact ⟨breaks.unbroken idle, clean⟩
  fun_induction serve handler remote cancel frame state exchange with
  | case1 frame state exchange halt after next ended =>
      obtain ⟨unbroken, -⟩ := filled frame tidy
      rw [ended] at unbroken
      exact endOf_unbroken unbroken
  | case2 frame state exchange after next ended unready => simp [Unbroken]
  | case3 frame state exchange after next ended header payload shown answer later handled ready
      reason refused => simp [Unbroken]
  | case4 frame state exchange after next ended header payload shown later ready rearmed handled
      ih =>
      obtain ⟨-, clean⟩ := filled frame tidy
      rw [ended] at clean
      exact ih clean
  | case5 frame state exchange after next ended header payload shown later ready rearmed answer
      halt last sent handled =>
      obtain ⟨-, clean⟩ := filled frame tidy
      rw [ended] at clean
      have unbroken := (respond_breaks cancel answer clean).1 operation
      rw [sent] at unbroken
      exact endOf_unbroken unbroken
  | case6 frame state exchange after next ended header payload shown later ready rearmed answer
      last sent handled ih =>
      obtain ⟨-, clean⟩ := filled frame tidy
      rw [ended] at clean
      have cleanLast := respond_tidy cancel answer clean
      rw [sent] at cleanLast
      exact ih cleanLast

theorem run_unbroken (handler : Handler σ) (session : Session) (state : σ)
    (tidy : exchange.Tidy settings) (idle : Exchange.Countable settings.idleTimeout)
    (operation : Exchange.Countable (some settings.operationTimeout)) :
    Unbroken (run handler session state exchange).1 :=
  conclude_unbroken
    (serve_unbroken handler session.remote session.cancel session.frame state tidy idle operation) _

theorem run_overflows (handler : Handler σ) (session : Session) (state : σ)
    (tidy : exchange.Tidy settings) (far : ¬ Exchange.Countable settings.idleTimeout) :
    (run handler session state exchange).1 = .error (.abort .deadlineOverflow) ∧
      (run handler session state exchange).2.1 = state ∧
      (run handler session state exchange).2.2.link = exchange.link := by
  obtain ⟨result, link⟩ :=
    (Exchange.fillFrame_breaks session.cancel settings.idleTimeout session.frame tidy).1.overflow far
  obtain rfl := tidy.settings
  unfold run
  rw [serve]
  split <;> rename_i ended <;> rw [ended] at result link <;> cases result
  exact ⟨rfl, rfl, link⟩

end Session

/-- A deadline breaks a call or a session if the clock cannot count ahead to it and the call is a
transfer that has to know when it is over; nothing else breaks one. A single receive and a shutdown
treat such a deadline as none. -/
theorem Exchange.only_uncountable_deadlines_break (settings : Settings) (exchange : Exchange)
    (tidy : exchange.Tidy settings) :
    (∀ maxLength deadline receiver,
      let call := fun deadline => Receiver.calls (.receive maxLength deadline) receiver exchange
      Unbroken (call deadline).1 ∧ (¬ Countable deadline → call deadline = call none)) ∧
    (∀ deadline sender,
      let call := fun deadline => Sender.calls (.shutdown deadline) sender exchange
      Unbroken (call deadline).1 ∧ (¬ Countable deadline → call deadline = call none)) ∧
    (∀ deadline receiver,
      let ended := Receiver.calls (.receiveFrame deadline) receiver exchange
      (Countable deadline → Unbroken ended.1) ∧
        (¬ Countable deadline → receiver.isOpen = true → Overflowed receiver exchange ended)) ∧
    (∀ payload deadline sender,
      let ended := Sender.calls (.send payload deadline) sender exchange
      (Countable deadline → Unbroken ended.1) ∧
        (¬ Countable deadline → sender.isOpen = true → Overflowed sender exchange ended)) ∧
    (∀ payload deadline sender,
      let ended := Sender.calls (.sendFrame payload deadline) sender exchange
      (Countable deadline → Unbroken ended.1) ∧
        (¬ Countable deadline → sender.isOpen = true →
          payload.length ≤ settings.maxFrameSize → payload.length < UInt32.size →
          Overflowed sender exchange ended)) ∧
    (∀ (σ : Type) (handler : Handler σ) (session : Session) (state : σ),
      let ended := session.run handler state exchange
      (Countable settings.idleTimeout → Countable (some settings.operationTimeout) →
        Unbroken ended.1) ∧
        (¬ Countable settings.idleTimeout →
          ended.1 = .error (.abort .deadlineOverflow) ∧ ended.2.1 = state ∧
            ended.2.2.link = exchange.link)) ∧
    (∀ cancel answer,
      let ended := Session.respond cancel answer exchange
      (Countable (some settings.operationTimeout) → Unbroken ended.1) ∧
        (¬ Countable (some settings.operationTimeout) →
          answer.length ≤ settings.maxFrameSize → answer.length < UInt32.size →
          ended.1 = .error (.abort .deadlineOverflow) ∧ ended.2.link = exchange.link)) ∧
    (∀ outcome, Unbroken outcome → Unbroken (Session.conclude outcome exchange).1) := by
  refine ⟨?_, ?_, ?_, ?_, ?_, ?_, ?_, ?_⟩
  · intro maxLength deadline receiver
    exact ⟨Receiver.receive_unbroken maxLength deadline receiver tidy,
      Receiver.receive_unlimited maxLength receiver tidy⟩
  · intro deadline sender
    exact ⟨Sender.shutdown_unbroken deadline sender tidy, Sender.shutdown_unlimited sender tidy⟩
  · intro deadline receiver
    exact Receiver.receiveFrame_breaks deadline receiver tidy
  · intro payload deadline sender
    exact Sender.send_breaks payload deadline sender tidy
  · intro payload deadline sender
    exact Sender.sendFrame_breaks payload deadline sender tidy
  · intro σ handler session state
    exact ⟨Session.run_unbroken handler session state tidy,
      Session.run_overflows handler session state tidy⟩
  · intro cancel answer
    exact Session.respond_breaks cancel answer tidy
  · intro outcome unbroken
    exact Session.conclude_unbroken unbroken exchange

theorem Exchange.oneFrame_only_uncountable_deadlines_break :
    ¬ Countable (some .longest) ∧
      Overflowed Receiver.oneFrame.half Receiver.oneFrame.exchange
        (Receiver.calls (.receiveFrame (some .longest)) Receiver.oneFrame.half
          Receiver.oneFrame.exchange) ∧
      Receiver.calls (.receive 9 (some .longest)) Receiver.oneFrame.half Receiver.oneFrame.exchange =
        Receiver.calls (.receive 9 none) Receiver.oneFrame.half Receiver.oneFrame.exchange := by
  have far : ¬ Countable (some .longest) := by
    intro countable
    exact absurd (countable .longest rfl) (by decide)
  obtain ⟨received, -, framed, -⟩ := only_uncountable_deadlines_break {} Receiver.oneFrame.exchange
    ⟨Resources.tidy_ofSettings {}, rfl⟩
  exact ⟨far, (framed (some .longest) Receiver.oneFrame.half).2 far rfl,
    (received 9 (some .longest) Receiver.oneFrame.half).2 far⟩

/-- A receiver under the default settings, whose peer has sent a whole frame, breaks under the
longest deadline instead of receiving it. -/
theorem Receiver.longest_deadline_overflows :
    Settings.check {} = .ok () ∧
      (Receiver.calls (.receiveFrame (some .longest)) Receiver.oneFrame.half
        Receiver.oneFrame.exchange).1 = .error (.abort .deadlineOverflow) := by
  constructor
  · rfl
  · rfl

end FramedTransport
