import FramedTransport.Proofs.Recycled

/-!
Operations on two engines.
Two exchanges over the same link, whose pools may have been used in quite different ways,
are run side by side. Rented buffers are empty and rented tickets are as good as new on
both sides, so frames leave alike, are filled alike, and callers are told the same.
-/

namespace FramedTransport

/-- What a caller is told of a delivery; the buffer that it came in is none of that. -/
def Delivery.told (delivery : Delivery) : Bytes × Nat × SocketAddress :=
  (delivery.payload, delivery.transferred, delivery.remote)

theorem Delivery.told_cases {left right : Outcome Delivery}
    (same : left.map Delivery.told = right.map Delivery.told) :
    (∃ halt, left = .error halt ∧ right = .error halt) ∨
      ∃ first second, left = .ok first ∧ right = .ok second ∧ first.told = second.told := by
  cases left <;> cases right
  · cases same
    exact .inl ⟨_, rfl, rfl⟩
  · cases same
  · cases same
  · exact .inr ⟨_, _, rfl, rfl, Except.ok.inj same⟩

/-! ### Frames that leave -/

namespace Outgoing

variable {one other : Outgoing}

/-- The same frame, sent as far, in buffers that may be of different capacity. -/
structure Alike (one other : Outgoing) : Prop where
  bytes : one.buffer.bytes = other.buffer.bytes
  progress : one.progress = other.progress

theorem Alike.pending_eq (alike : Alike one other) : one.pending = other.pending := by
  rw [pending, pending, sent, sent, alike.bytes, alike.progress]

theorem Alike.isComplete_eq (alike : Alike one other) : one.isComplete = other.isComplete := by
  rw [isComplete, isComplete, alike.progress]

theorem Alike.advance (alike : Alike one other) (count : Nat) :
    (∃ reason, one.advance count = .error reason ∧ other.advance count = .error reason) ∨
      ∃ first second, one.advance count = .ok first ∧ other.advance count = .ok second ∧
        Alike first second := by
  unfold Outgoing.advance
  rw [alike.progress]
  cases other.progress.advance count with
  | error reason => exact .inl ⟨reason, rfl, rfl⟩
  | ok progress => exact .inr ⟨_, _, rfl, rfl, alike.bytes, rfl⟩

theorem push_refused {watch : Watch} {frame : Outgoing} {link after : Link} {count : Nat}
    {reason : TransportError} (incomplete : ¬frame.isComplete = true)
    (taken : link.write watch frame.pending = (.ok count, after))
    (refused : frame.advance count = .error reason) :
    push watch frame link = ((.error (.error reason), frame), after) := by
  rw [push, if_neg incomplete, taken]
  dsimp only
  split <;> rename_i advanced <;> cases advanced.symm.trans refused
  rfl

theorem push_accepted {watch : Watch} {frame next : Outgoing} {link after : Link} {count : Nat}
    (incomplete : ¬frame.isComplete = true)
    (taken : link.write watch frame.pending = (.ok count, after))
    (accepted : frame.advance count = .ok next) :
    push watch frame link = push watch next after := by
  rw [push, if_neg incomplete, taken]
  dsimp only
  split <;> rename_i advanced <;> cases advanced.symm.trans accepted
  rfl

theorem push_alike (alike : Alike one other) (watch : Watch) (link : Link) :
    (push watch one link).1.1 = (push watch other link).1.1 ∧
      Alike (push watch one link).1.2 (push watch other link).1.2 ∧
      (push watch one link).2 = (push watch other link).2 := by
  fun_induction push watch one link generalizing other with
  | case1 frame link complete flushed next ended =>
      rw [push, if_pos (alike.isComplete_eq ▸ complete), ended]
      exact ⟨rfl, alike, rfl⟩
  | case2 frame link incomplete halt next stopped =>
      rw [push, if_neg (alike.isComplete_eq ▸ incomplete), ← alike.pending_eq, stopped]
      exact ⟨rfl, alike, rfl⟩
  | case3 frame link incomplete count next taken reason refused =>
      obtain ⟨same, first, second⟩ | ⟨_, _, first, -⟩ := alike.advance count
      · cases refused.symm.trans first
        rw [push_refused (alike.isComplete_eq ▸ incomplete) (alike.pending_eq ▸ taken) second]
        exact ⟨rfl, alike, rfl⟩
      · cases refused.symm.trans first
  | case4 frame link incomplete count next taken after accepted ih =>
      obtain ⟨_, first, -⟩ | ⟨_, _, first, second, both⟩ := alike.advance count
      · cases accepted.symm.trans first
      · cases accepted.symm.trans first
        rw [push_accepted (alike.isComplete_eq ▸ incomplete) (alike.pending_eq ▸ taken) second]
        exact ih both

theorem Alike.release (alike : Alike one other) (remote : SocketAddress) :
    (∃ reason, one.release remote = .error reason ∧ other.release remote = .error reason) ∨
      ∃ first second, one.release remote = .ok first ∧ other.release remote = .ok second ∧
        first.told = second.told := by
  unfold Outgoing.release
  rw [alike.isComplete_eq, alike.progress]
  split
  · refine .inr ⟨_, _, rfl, rfl, ?_⟩
    simp only [Delivery.told, Delivery.payload, Buffer.slice, Buffer.length, alike.bytes]
  · exact .inl ⟨_, rfl, rfl⟩

theorem encode_alike (buffer other : Buffer) (payload : Bytes) (limit : Nat) :
    (∃ reason, encode buffer payload limit = .error reason ∧
        encode other payload limit = .error reason) ∨
      ∃ first second, encode buffer payload limit = .ok first ∧
        encode other payload limit = .ok second ∧ Alike first second := by
  unfold encode Frame.encodeOnto
  split
  · exact .inl ⟨_, rfl, rfl⟩
  · cases FrameHeader.forPayload payload.length with
    | error reason => exact .inl ⟨reason, rfl, rfl⟩
    | ok header =>
        refine .inr ⟨_, _, rfl, rfl, ?_, rfl⟩
        dsimp only
        rw [Buffer.bytes_reserve, Buffer.bytes_reserve, Buffer.bytes_clear, Buffer.bytes_clear]

end Outgoing

/-! ### Exchanges -/

namespace Exchange

variable {α β γ : Type} {settings : Settings} {one other : Exchange}

/-- The same link and the same settings; what waits in the pools may differ. -/
structure Alike (settings : Settings) (one other : Exchange) : Prop where
  link : one.link = other.link
  first : one.Tidy settings
  second : other.Tidy settings

theorem Alike.giveBackBuffer (alike : Alike settings one other) (buffer another : Buffer) :
    Alike settings (one.giveBackBuffer buffer) (other.giveBackBuffer another) where
  link := alike.link
  first := alike.first.giveBackBuffer buffer
  second := alike.second.giveBackBuffer another

theorem Alike.rentBuffer (alike : Alike settings one other) (count : Nat) :
    Alike settings { one with resources := (one.resources.rentBuffer count).2 }
      { other with resources := (other.resources.rentBuffer count).2 } where
  link := alike.link
  first := alike.first.rentBuffer count
  second := alike.second.rentBuffer count

theorem Alike.relinked (alike : Alike settings one other) {link another : Link}
    (same : link = another) : Alike settings { one with link } { other with link := another } where
  link := same
  first := alike.first.relinked link
  second := alike.second.relinked another

/-- The results of two runs correspond, unless the first one was cancelled. -/
def Agree (settings : Settings) (same : β → β → Prop) (one other : β × Exchange) : Prop :=
  one.2.link.time.cancelled = false → same one.1 other.1 ∧ Alike settings one.2 other.2

/-- Tickets are as good as new on both sides, so it is up to the bodies. -/
theorem withTicket_agree {signals : Signals} {refused refusedToo : Halt → β}
    {body bodyToo : Watch → Ticket → Exchange → (β × Ticket) × Exchange} {same : β → β → Prop}
    (alike : Alike settings one other)
    (ran : ∀ first second, Alike settings { resources := first, link := one.link }
        { resources := second, link := one.link } →
      Agree settings (fun left right => same left.1 right.1)
        (body (Watch.starting signals one.link.time.now) { armed := some signals }
          { resources := first, link := one.link })
        (bodyToo (Watch.starting signals one.link.time.now) { armed := some signals }
          { resources := second, link := one.link })) :
    Agree settings same (withTicket signals refused body one)
      (withTicket signals refusedToo bodyToo other) := by
  obtain ⟨first, rented, clean, kept⟩ := alike.first.resources.rentTicket signals
  obtain ⟨second, lent, cleanToo, keptToo⟩ := alike.second.resources.rentTicket signals
  -- A ticket that was used before has been reset, so both bodies get the same one.
  have granted : Alike settings { resources := first, link := one.link }
      { resources := second, link := one.link } :=
    ⟨rfl, ⟨clean, kept.trans alike.first.settings⟩, cleanToo,
      keptToo.trans alike.second.settings⟩
  intro running
  rw [withTicket_eq, rented] at running ⊢
  rw [withTicket_eq, lent, ← alike.link]
  obtain ⟨shown, after⟩ := ran first second granted running
  exact ⟨shown, after.link, ⟨after.first.resources.giveBackTicket _, after.first.settings⟩,
    after.second.resources.giveBackTicket _, after.second.settings⟩

theorem timed_agree {signals : Signals}
    {transfer transferToo : Watch → Link → (Outcome Unit × γ) × Link} {frame frameToo : γ}
    {same : Outcome Unit × γ → Outcome Unit × γ → Prop} (alike : Alike settings one other)
    (refused : ∀ halt, same (.error halt, frame) (.error halt, frameToo))
    (moved : ∀ watch link, (transfer watch link).2.time.cancelled = false →
      same (transfer watch link).1 (transferToo watch link).1 ∧
        (transfer watch link).2 = (transferToo watch link).2) :
    Agree settings same
      (withTicket signals (fun halt => (.error halt, frame)) (timed transfer frame) one)
      (withTicket signals (fun halt => (.error halt, frameToo)) (timed transferToo frameToo)
        other) := by
  refine withTicket_agree alike ?_
  intro first second both
  unfold timed
  split
  · exact fun _ => ⟨refused _, both⟩
  · intro running
    obtain ⟨result, link⟩ := moved _ one.link running
    exact ⟨result, both.relinked link⟩

theorem pushFrame_agree (cancel : CancelToken) (deadline : Option Duration)
    {frame frameToo : Outgoing} (same : frame.Alike frameToo) (alike : Alike settings one other) :
    Agree settings (fun left right => left.1 = right.1 ∧ left.2.Alike right.2)
      (one.pushFrame cancel deadline frame) (other.pushFrame cancel deadline frameToo) := by
  refine timed_agree alike (fun _ => ⟨rfl, same⟩) ?_
  intro watch link _
  obtain ⟨outcome, pushed, links⟩ := Outgoing.push_alike same watch link
  exact ⟨⟨outcome, pushed⟩, links⟩

theorem sendAll_agree (cancel : CancelToken) (remote : SocketAddress) (payload : Bytes)
    (deadline : Option Duration) (alike : Alike settings one other) :
    Agree settings (fun left right => left.map Delivery.told = right.map Delivery.told)
      (one.sendAll cancel remote payload deadline)
      (other.sendAll cancel remote payload deadline) := by
  refine withTicket_agree alike ?_
  rintro first second both -
  have lent := both.rentBuffer payload.length
  have bytes : ((first.rentBuffer payload.length).1.append payload).bytes =
      ((second.rentBuffer payload.length).1.append payload).bytes := by
    rw [Buffer.bytes_append, Buffer.bytes_append, both.first.resources.bytes_rentBuffer,
      both.second.resources.bytes_rentBuffer]
  simp only [Ticket.attach, Ticket.carried]
  generalize (first.rentBuffer payload.length).1.append payload = mine at bytes ⊢
  generalize (second.rentBuffer payload.length).1.append payload = yours at bytes ⊢
  generalize Watch.starting _ one.link.time.now = watch
  split
  · exact ⟨rfl, lent⟩
  · have frames : Outgoing.Alike ⟨mine, Progress.start payload.length⟩
        ⟨yours, Progress.start payload.length⟩ := ⟨bytes, rfl⟩
    obtain ⟨outcome, -, link⟩ := Outgoing.push_alike frames watch one.link
    generalize Outgoing.push watch ⟨mine, _⟩ one.link = left at outcome link ⊢
    generalize Outgoing.push watch ⟨yours, _⟩ one.link = right at outcome link ⊢
    obtain ⟨⟨ended, frame⟩, after⟩ := left
    obtain ⟨⟨_, another⟩, _⟩ := right
    obtain rfl := outcome
    obtain rfl := link
    cases ended with
    | error halt => exact ⟨rfl, lent.relinked rfl⟩
    | ok value =>
        refine ⟨?_, lent.relinked rfl⟩
        simp only [reclaim, Ticket.detach, Except.map, Delivery.told, Delivery.payload,
          Buffer.slice, bytes]

theorem shutdown_agree (signals : Signals) (alike : Alike settings one other) :
    let shut : Exchange → Outcome Unit × Exchange :=
      withTicket signals .error fun watch ticket exchange =>
        let (ended, link) := exchange.link.shutdown watch
        ((ended, ticket), { exchange with link })
    Agree settings Eq (shut one) (shut other) :=
  withTicket_agree alike fun _ _ both _ => ⟨rfl, both.relinked rfl⟩

theorem receiveSome_agree (reader : Reader) (cancel : CancelToken) (remote : SocketAddress)
    (maxLength : Nat) (deadline : Option Duration) (alike : Alike settings one other) :
    Agree settings (fun left right => left.map Delivery.told = right.map Delivery.told)
      (reader.receiveSome cancel remote maxLength deadline one)
      (reader.receiveSome cancel remote maxLength deadline other) := by
  refine withTicket_agree alike ?_
  rintro first second both -
  have lent := both.rentBuffer maxLength
  generalize Watch.starting _ one.link.time.now = watch
  simp only [Ticket.attach, Ticket.carried]
  cases read : reader.read watch maxLength one.link with
  | mk outcome link =>
      cases outcome with
      | error halt => exact ⟨rfl, lent.relinked rfl⟩
      | ok received =>
          have fits (resources : Resources) :
              received.length ≤ (resources.rentFilled maxLength).1.length := by
            rw [Resources.length_rentFilled]
            exact reader.fits read
          dsimp only
          split
          · exact ⟨rfl, lent.relinked rfl⟩
          -- A delivery ends where the received bytes end; what was in the buffers is cut off.
          · refine ⟨?_, lent.relinked rfl⟩
            simp only [Ticket.changeLease, reclaim, Ticket.detach, Option.map, Except.map,
              Delivery.told, Delivery.payload]
            rw [slice_overwrite (fits first), slice_overwrite (fits second)]

theorem fillFrame_agree (reader : Reader) (cancel : CancelToken) (deadline : Option Duration)
    {frame frameToo : Incoming} {held : Bytes} (same : Incoming.Alike held frame frameToo)
    (alike : Alike settings one other) :
    Agree settings Reader.SameFill (reader.fillFrame cancel deadline frame one)
      (reader.fillFrame cancel deadline frameToo other) := by
  refine timed_agree alike (fun _ => .of_error same.phase_eq) ?_
  intro watch link running
  exact Reader.fill_alike same running

end Exchange

/-! ### Calls -/

namespace Incoming

variable {one other : Incoming} {held : Bytes}

theorem buffered_of_phase (same : one.phase = other.phase) : one.buffered = other.buffered := by
  rw [buffered, buffered, same]

theorem Alike.bytes_eq (alike : Alike held one other) {header : FrameHeader}
    (ready : one.phase = .dispatch header) : one.buffer.bytes = other.buffer.bytes := by
  have first := alike.first.2.2
  have second := alike.second.2.2
  rw [← alike.phase_eq] at second
  rw [ready] at first second
  exact first.2.2.2.trans second.2.2.2.symm

theorem Alike.release (alike : Alike held one other) :
    (∃ reason, one.release = .error reason ∧ other.release = .error reason) ∨
      ∃ header buffer another, one.release = .ok (header, buffer) ∧
        other.release = .ok (header, another) ∧ buffer.bytes = another.bytes := by
  have same := alike.phase_eq
  cases phase : one.phase with
  | dispatch header =>
      refine .inr ⟨header, one.buffer, other.buffer, ?_, ?_, alike.bytes_eq phase⟩
      · rw [Incoming.release, phase]
      · rw [Incoming.release, ← same, phase]
  | header _ | payload _ _ | closed =>
      refine .inl ⟨.protocolViolation ("frame taken while " ++ one.phase.name), ?_, ?_⟩ <;>
        simp only [Incoming.release, ← same, phase]

theorem Alike.frame?_eq (alike : Alike held one other) : one.frame? = other.frame? := by
  have same := alike.phase_eq
  cases phase : one.phase with
  | dispatch header => simp only [frame?, ← same, phase, alike.bytes_eq phase]
  | header _ | payload _ _ | closed => simp only [frame?, ← same, phase]

theorem Alike.rearm (alike : Alike held one other) {next : Incoming}
    {verdict : Except TransportError Unit} (rearmed : one.rearm = (next, verdict)) :
    ∃ also, other.rearm = (also, verdict) ∧ (verdict = .ok () → Alike [] next also) := by
  have same := alike.phase_eq
  unfold Incoming.rearm at rearmed ⊢
  rw [← same]
  cases phase : one.phase with
  | dispatch header =>
      rw [phase] at rearmed
      cases rearmed
      exact ⟨_, rfl, fun _ => ⟨holds_emptied _ alike.first.1 _ rfl rfl,
        holds_emptied _ alike.second.1 _ rfl rfl, alike.limit⟩⟩
  | header _ | payload _ _ | closed =>
      rw [phase] at rearmed
      cases rearmed
      exact ⟨_, rfl, nofun⟩

theorem alike_start (buffer another : Buffer) (limit : Nat) :
    Alike [] (start buffer limit) (start another limit) where
  first := holds_start buffer limit
  second := holds_start another limit
  limit := rfl

end Incoming

/-- A call of two runs tells the same, and leaves the half and the link the same, unless the first
run was cancelled. -/
def Exchange.AgreeCall {α β η : Type} (settings : Settings) (tell : α → β)
    (one other : Outcome α × η × Exchange) : Prop :=
  one.2.2.link.time.cancelled = false →
    one.1.map tell = other.1.map tell ∧ one.2.1 = other.2.1 ∧
      Exchange.Alike settings one.2.2 other.2.2

section Calls

open Exchange

variable {settings : Settings} {one other : Exchange}

theorem Exchange.AgreeCall.map_some {η : Type} {left right : Outcome Delivery × η × Exchange}
    (agree : AgreeCall settings Delivery.told left right) :
    AgreeCall settings (Option.map Delivery.told) (left.1.map some, left.2)
      (right.1.map some, right.2) := by
  intro running
  obtain ⟨told, rest⟩ := agree running
  refine ⟨?_, rest⟩
  obtain ⟨halt, first, second⟩ | ⟨delivery, copy, first, second, same⟩ := Delivery.told_cases told
  · rw [first, second]
  · rw [first, second]
    exact congrArg (Except.ok ∘ some) same

theorem Reader.receive_agree (reader : Reader) (maxLength : Nat) (deadline : Option Duration)
    (receiver : Receiver) (alike : Alike settings one other) :
    AgreeCall settings Delivery.told (reader.receive maxLength deadline receiver one)
      (reader.receive maxLength deadline receiver other) := by
  unfold receive
  split
  · have agree :=
      receiveSome_agree reader receiver.cancel receiver.remote maxLength deadline alike
    generalize reader.receiveSome _ _ _ _ one = left at agree ⊢
    generalize reader.receiveSome _ _ _ _ other = right at agree ⊢
    obtain ⟨outcome, exchange⟩ := left
    obtain ⟨ended, another⟩ := right
    intro running
    obtain ⟨told, after⟩ := agree (by cases outcome <;> exact running)
    obtain ⟨halt, rfl, rfl⟩ | ⟨delivery, copy, rfl, rfl, same⟩ := Delivery.told_cases told
    · exact ⟨rfl, rfl, after⟩
    · exact ⟨told, rfl, after⟩
  · exact fun _ => ⟨rfl, rfl, alike⟩

theorem Reader.receiveFrame_agree (reader : Reader) (deadline : Option Duration)
    (receiver : Receiver) (alike : Alike settings one other) :
    AgreeCall settings Delivery.told (reader.receiveFrame deadline receiver one)
      (reader.receiveFrame deadline receiver other) := by
  unfold receiveFrame
  rw [alike.first.settings, alike.second.settings]
  split
  · have empty := Incoming.alike_start
      (one.resources.rentBuffer settings.bufferCapacity).1
      (other.resources.rentBuffer settings.bufferCapacity).1 settings.maxFrameSize
    have agree := fillFrame_agree reader receiver.cancel deadline empty
      (alike.rentBuffer settings.bufferCapacity)
    dsimp only
    generalize reader.fillFrame _ _ (Incoming.start (one.resources.rentBuffer _).1 _) _ = left
      at agree ⊢
    generalize reader.fillFrame _ _ (Incoming.start (other.resources.rentBuffer _).1 _) _ = right
      at agree ⊢
    obtain ⟨⟨outcome, frame⟩, exchange⟩ := left
    obtain ⟨⟨ended, copy⟩, another⟩ := right
    cases outcome with
    | error halt =>
        intro running
        obtain ⟨same, after⟩ := agree running
        obtain rfl := same.outcome
        refine ⟨rfl, ?_, after.giveBackBuffer _ _⟩
        dsimp only
        rw [Incoming.buffered_of_phase same.phase]
    | ok value =>
        intro running
        obtain ⟨same, after⟩ := agree (by dsimp only at running; split at running <;> exact running)
        obtain rfl := same.outcome
        obtain ⟨held, whole⟩ := same.filled rfl
        dsimp only
        obtain ⟨reason, first, second⟩ | ⟨header, buffer, again, first, second, bytes⟩ :=
          whole.release
        · rw [first, second]
          exact ⟨rfl, rfl, after.giveBackBuffer _ _⟩
        · rw [first, second]
          refine ⟨?_, rfl, after⟩
          simp only [Except.map, Delivery.told, Delivery.payload, Buffer.slice, bytes]
  · exact fun _ => ⟨rfl, rfl, alike⟩

theorem Reader.calls_agree (reader : Reader) (call : Receiver.Call) (receiver : Receiver)
    (alike : Alike settings one other) :
    AgreeCall settings (Option.map Delivery.told) (reader.calls call receiver one)
      (reader.calls call receiver other) := by
  cases call with
  | receive maxLength deadline =>
      exact (reader.receive_agree maxLength deadline receiver alike).map_some
  | receiveFrame deadline => exact (reader.receiveFrame_agree deadline receiver alike).map_some

theorem Sender.send_agree (payload : Bytes) (deadline : Option Duration) (sender : Sender)
    (alike : Alike settings one other) :
    AgreeCall settings Delivery.told (sender.send payload deadline one)
      (sender.send payload deadline other) := by
  unfold send
  split
  · have agree := sendAll_agree sender.cancel sender.remote payload deadline alike
    generalize one.sendAll _ _ _ _ = left at agree ⊢
    generalize other.sendAll _ _ _ _ = right at agree ⊢
    obtain ⟨outcome, exchange⟩ := left
    obtain ⟨ended, another⟩ := right
    intro running
    obtain ⟨told, after⟩ := agree (by cases outcome <;> exact running)
    obtain ⟨halt, rfl, rfl⟩ | ⟨delivery, copy, rfl, rfl, same⟩ := Delivery.told_cases told
    · exact ⟨rfl, rfl, after⟩
    · exact ⟨told, rfl, after⟩
  · exact fun _ => ⟨rfl, rfl, alike⟩

theorem Sender.sendFrame_agree (payload : Bytes) (deadline : Option Duration) (sender : Sender)
    (alike : Alike settings one other) :
    AgreeCall settings Delivery.told (sender.sendFrame payload deadline one)
      (sender.sendFrame payload deadline other) := by
  unfold sendFrame
  rw [alike.first.settings, alike.second.settings]
  split
  · have lent := alike.rentBuffer (FrameHeader.size + payload.length)
    dsimp only
    generalize one.resources.rentBuffer (FrameHeader.size + payload.length) = mine at lent ⊢
    generalize other.resources.rentBuffer (FrameHeader.size + payload.length) = yours at lent ⊢
    obtain ⟨reason, first, second⟩ | ⟨frame, copy, first, second, frames⟩ :=
      Outgoing.encode_alike mine.1 yours.1 payload settings.maxFrameSize
    · rw [first, second]
      exact fun _ => ⟨rfl, rfl, lent.giveBackBuffer _ _⟩
    · rw [first, second]
      have agree := pushFrame_agree sender.cancel deadline frames lent
      dsimp only
      generalize Exchange.pushFrame _ _ frame _ = left at agree ⊢
      generalize Exchange.pushFrame _ _ copy _ = right at agree ⊢
      obtain ⟨⟨outcome, pushed⟩, exchange⟩ := left
      obtain ⟨⟨ended, also⟩, another⟩ := right
      cases outcome with
      | error halt =>
          intro running
          obtain ⟨⟨rfl, frames⟩, after⟩ := agree running
          refine ⟨rfl, ?_, after.giveBackBuffer _ _⟩
          dsimp only
          rw [Outgoing.sent, Outgoing.sent, frames.progress]
      | ok value =>
          intro running
          obtain ⟨⟨rfl, frames⟩, after⟩ :=
            agree (by dsimp only at running; split at running <;> exact running)
          dsimp only
          obtain ⟨reason, first, second⟩ | ⟨delivery, told, first, second, same⟩ :=
            frames.release sender.remote
          · rw [first, second]
            exact ⟨rfl, rfl, after.giveBackBuffer _ _⟩
          · rw [first, second]
            exact ⟨congrArg Except.ok same, rfl, after⟩
  · exact fun _ => ⟨rfl, rfl, alike⟩

theorem Sender.calls_agree (call : Sender.Call) (sender : Sender)
    (alike : Alike settings one other) :
    AgreeCall settings (Option.map Delivery.told) (Sender.calls call sender one)
      (Sender.calls call sender other) := by
  cases call with
  | send payload deadline => exact (sender.send_agree payload deadline alike).map_some
  | sendFrame payload deadline => exact (sender.sendFrame_agree payload deadline alike).map_some
  | shutdown deadline =>
      dsimp only [calls, shutdown]
      split
      · intro running
        obtain ⟨same, after⟩ := shutdown_agree
          { operation := .disconnect, deadline, cancel := some sender.cancel } alike running
        exact ⟨by rw [same], rfl, after⟩
      · exact fun _ => ⟨rfl, rfl, alike⟩

end Calls

end FramedTransport
