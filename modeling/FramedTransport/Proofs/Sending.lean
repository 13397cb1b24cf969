import FramedTransport.Proofs.Halves

/-!
Why a sender never goes on behind a torn frame.
A send that fails may have given its link the beginning of its bytes; then it
closes the sender, and a closed sender writes nothing any more. So what an open
sender has written is what it has delivered, call by call.
-/

namespace FramedTransport

namespace Sender

def attempt : Call → Bytes
  | .send payload _ => payload
  | .sendFrame payload _ => Wire.image payload
  | .shutdown _ => []

def image (answered : HalfDesk.Answered Call) : Bytes :=
  match answered.reply with
  | .delivered _ => attempt answered.call
  | _ => []

def Kept (call : Call) (link : Link) : Outcome (Option Delivery) → Sender → Link → Prop
  | .ok (some _), _, next =>
      next.written = link.written ++ attempt call ∧
        ∀ payload deadline, call = .sendFrame payload deadline → payload.length < UInt32.size
  | .ok none, _, next => next.written = link.written
  | .error .stalled, _, _ => True
  | .error _, after, next =>
      ∃ torn, torn <+: attempt call ∧ next.written = link.written ++ torn ∧
        (after.isOpen = true → torn = [])

theorem kept_untouched {call : Call} {link next : Link} {outcome : Outcome (Option Delivery)}
    {after : Sender} (same : next.written = link.written)
    (undelivered : ∀ delivery, outcome ≠ .ok (some delivery)) :
    Kept call link outcome after next := by
  have nothing : ∃ torn, torn <+: attempt call ∧ next.written = link.written ++ torn ∧
      (after.isOpen = true → torn = []) := ⟨[], List.nil_prefix, by simp [same], fun _ => rfl⟩
  cases outcome with
  | ok value =>
      cases value with
      | none => exact same
      | some delivery => exact absurd rfl (undelivered delivery)
  | error halt =>
      cases halt with
      | error reason => exact nothing
      | abort reason => exact nothing
      | stalled => trivial

variable {settings : Settings} {exchange : Exchange}

theorem send_kept (payload : Bytes) (deadline : Option Duration) (sender : Sender)
    (tidy : exchange.Tidy settings) (sincere : exchange.link.Sincere) :
    Kept (.send payload deadline) exchange.link
        ((sender.send payload deadline exchange).1.map some)
        (sender.send payload deadline exchange).2.1
        (sender.send payload deadline exchange).2.2.link ∧
      (sender.send payload deadline exchange).2.2.link.writes <:+ exchange.link.writes ∧
      (sender.send payload deadline exchange).2.2.Tidy settings := by
  obtain ⟨⟨sent, writes⟩, after⟩ :=
    Exchange.sendAll_sent sender.cancel sender.remote payload deadline tidy sincere
  unfold send
  split
  · split <;> rename_i ended <;> rw [ended] at sent writes after
    · refine ⟨⟨sent, ?_⟩, writes, after⟩
      rintro other later ⟨⟩
    · rename_i halt next
      refine ⟨?_, writes, after⟩
      cases halt with
      | error reason =>
          obtain ⟨torn, beginning, written⟩ := sent
          refine ⟨torn, beginning, written, ?_⟩
          intro still
          -- A raw send does not say how far it came, so every failure closes.
          simp [Sender.after] at still
      | abort reason => exact kept_untouched sent (by simp [Except.map])
      | stalled => trivial
  · exact ⟨kept_untouched rfl (by simp [Except.map]), List.suffix_refl _, tidy⟩

theorem sendFrame_kept (payload : Bytes) (deadline : Option Duration) (sender : Sender)
    (tidy : exchange.Tidy settings) (sincere : exchange.link.Sincere) :
    Kept (.sendFrame payload deadline) exchange.link
        ((sender.sendFrame payload deadline exchange).1.map some)
        (sender.sendFrame payload deadline exchange).2.1
        (sender.sendFrame payload deadline exchange).2.2.link ∧
      (sender.sendFrame payload deadline exchange).2.2.link.writes <:+ exchange.link.writes ∧
      (sender.sendFrame payload deadline exchange).2.2.Tidy settings := by
  have lent := tidy.rentBuffer (FrameHeader.size + payload.length)
  unfold sendFrame
  split
  · dsimp only
    split
    · refine ⟨kept_untouched rfl (by simp [Except.map]), List.suffix_refl _, ?_⟩
      exact lent.giveBackBuffer _
    · rename_i frame encoded
      obtain ⟨whole, fresh, pending, fits⟩ := Outgoing.encode_eq_ok encoded
      have attempted := Exchange.pushFrame_attempted sender.cancel deadline frame
        { exchange with
          resources := (exchange.resources.rentBuffer (FrameHeader.size + payload.length)).2 }
      have after := (Exchange.pushFrame_tidy sender.cancel deadline frame lent).2
      split <;> rename_i ended <;> rw [ended] at attempted after
      · rename_i halt pushed next
        refine ⟨?_, Exchange.writes_attempted attempted, after.giveBackBuffer _⟩
        obtain ⟨torn, beginning, written, count, broken, -⟩ :=
          Exchange.pushed_frame whole fresh pending sincere attempted
        cases halt with
        | error reason =>
            refine ⟨torn, beginning, written, ?_⟩
            intro still
            -- The sender stays open only at a count of zero, and the frame counts what is torn off.
            simp only [Sender.after, Halt.survivable, Bool.and_eq_true, beq_iff_eq] at still
            exact List.length_eq_zero_iff.1 (count.symm.trans still.2.2)
        | abort reason => exact ⟨torn, beginning, written, fun _ => broken reason rfl⟩
        | stalled => trivial
      · rename_i pushed next
        obtain ⟨torn, -, written, -, -, complete⟩ :=
          Exchange.pushed_frame whole fresh pending sincere attempted
        obtain ⟨rfl, all⟩ := complete rfl
        simp only [Outgoing.release, all, if_true]
        refine ⟨⟨written, ?_⟩, Exchange.writes_attempted attempted, after⟩
        rintro other later ⟨⟩
        exact fits
  · exact ⟨kept_untouched rfl (by simp [Except.map]), List.suffix_refl _, tidy⟩

theorem sendFrame_calm {payload : Bytes} {deadline : Option Duration} {sender : Sender}
    (opened : sender.isOpen = true) (small : payload.length ≤ settings.maxFrameSize)
    (fits : payload.length < UInt32.size) (countable : Exchange.Countable deadline)
    (tidy : exchange.Tidy settings) (calm : exchange.link.Calm) :
    ∃ delivery next, sender.sendFrame payload deadline exchange = (.ok delivery, sender, next) := by
  have lent := tidy.rentBuffer (FrameHeader.size + payload.length)
  obtain ⟨frame, encoded⟩ := Outgoing.encode_ok
    (exchange.resources.rentBuffer (FrameHeader.size + payload.length)).1
    (tidy.settings ▸ small) fits
  obtain ⟨whole, -⟩ := Outgoing.encode_eq_ok encoded
  obtain ⟨watch, -, -, ran⟩ :=
    (Exchange.pushFrame_tidy sender.cancel deadline frame lent).1 countable
  obtain ⟨passed, -⟩ := Outgoing.push_calm whole watch calm
  obtain ⟨sent, moved⟩ := Outgoing.push_spec whole watch calm.willing.sincere
  have complete := moved.complete passed
  cases ended : Exchange.pushFrame sender.cancel deadline frame
      { exchange with
        resources := (exchange.resources.rentBuffer (FrameHeader.size + payload.length)).2 } with
  | mk pushed next =>
      rw [ended] at ran
      rw [show frame.push watch exchange.link = (pushed, next.link) from ran] at passed complete
      obtain ⟨outcome, pushed⟩ := pushed
      obtain rfl : outcome = .ok () := passed
      have all : pushed.isComplete = true := complete
      simp [sendFrame, opened, encoded, ended, Outgoing.release, all]

theorem shutdown_delivers_nothing (ended : Outcome Unit) (delivery : Delivery) :
    (ended.map fun () => (none : Option Delivery)) ≠ .ok (some delivery) := by
  cases ended <;> simp [Except.map]

theorem shutdown_kept (deadline : Option Duration) (sender : Sender)
    (tidy : exchange.Tidy settings) :
    Kept (.shutdown deadline) exchange.link
        ((sender.shutdown deadline exchange).1.map fun () => none)
        (sender.shutdown deadline exchange).2.1
        (sender.shutdown deadline exchange).2.2.link ∧
      (sender.shutdown deadline exchange).2.2.link.writes <:+ exchange.link.writes ∧
      (sender.shutdown deadline exchange).2.2.Tidy settings := by
  unfold shutdown
  split
  · obtain ⟨⟨written, writes⟩, after⟩ := Exchange.shutdown_tidy
      { operation := .disconnect, deadline, cancel := some sender.cancel } tidy
    exact ⟨kept_untouched written (shutdown_delivers_nothing _),
      writes ▸ List.suffix_refl _, after⟩
  · exact ⟨kept_untouched rfl (by simp [Except.map]), List.suffix_refl _, tidy⟩

theorem calls_kept (call : Call) (sender : Sender) (tidy : exchange.resources.Tidy)
    (sincere : exchange.link.Sincere) :
    Kept call exchange.link (calls call sender exchange).1 (calls call sender exchange).2.1
        (calls call sender exchange).2.2.link ∧
      (calls call sender exchange).2.2.link.Sincere ∧
      (calls call sender exchange).2.2.resources.Tidy := by
  cases call with
  | send payload deadline =>
      obtain ⟨kept, writes, after⟩ := send_kept payload deadline sender ⟨tidy, rfl⟩ sincere
      exact ⟨kept, sincere.of_suffix writes, after.resources⟩
  | sendFrame payload deadline =>
      obtain ⟨kept, writes, after⟩ := sendFrame_kept payload deadline sender ⟨tidy, rfl⟩ sincere
      exact ⟨kept, sincere.of_suffix writes, after.resources⟩
  | shutdown deadline =>
      obtain ⟨kept, writes, after⟩ := shutdown_kept deadline sender ⟨tidy, rfl⟩
      exact ⟨kept, sincere.of_suffix writes, after.resources⟩

open HalfDesk

theorem calls_refuses : Refuses isOpen calls := by
  intro call sender exchange closed
  cases call with
  | send payload deadline => simp [calls, send, closed, Except.map]
  | sendFrame payload deadline => simp [calls, sendFrame, closed, Except.map]
  | shutdown deadline => simp [calls, shutdown, closed, Except.map]

theorem Kept.written {call : Call} {link next : Link} {outcome : Outcome (Option Delivery)}
    {after : Sender} (kept : Kept call link outcome after next)
    (returned : outcome ≠ .error .stalled) :
    (∃ torn, torn <+: attempt call ∧ next.written = link.written ++ torn) ∧
      (after.isOpen = true →
        next.written = link.written ++ image ⟨call, replyOf outcome⟩) := by
  cases outcome with
  | ok delivered =>
      cases delivered with
      | none =>
          have same : next.written = link.written := kept
          exact ⟨⟨[], List.nil_prefix, by simp [same]⟩, by simp [same, image, replyOf]⟩
      | some delivery => exact ⟨⟨_, List.prefix_refl _, kept.1⟩, fun _ => kept.1⟩
  | error halt =>
      cases halt with
      | stalled => exact absurd rfl returned
      | error reason =>
          obtain ⟨torn, beginning, written, whole⟩ := kept
          refine ⟨⟨torn, beginning, written⟩, ?_⟩
          intro still
          rw [written, whole still]
          rfl
      | abort reason =>
          obtain ⟨torn, beginning, written, whole⟩ := kept
          refine ⟨⟨torn, beginning, written⟩, ?_⟩
          intro still
          rw [written, whole still]
          rfl

theorem Kept.fits {call : Call} {link next : Link} {outcome : Outcome (Option Delivery)}
    {after : Sender} {payload : Bytes} {deadline : Option Duration} {delivery : Delivery}
    (kept : Kept call link outcome after next) (framed : call = .sendFrame payload deadline)
    (delivered : replyOf outcome = .delivered delivery) : payload.length < UInt32.size := by
  cases outcome with
  | error halt => cases delivered
  | ok value =>
      cases value with
      | none => cases delivered
      | some other => exact kept.2 payload deadline framed

structure Accounted (start : HalfDesk Sender) (record : List (Answered Call))
    (desk : HalfDesk Sender) : Prop where
  tidy : desk.exchange.resources.Tidy
  sincere : desk.exchange.link.Sincere
  written : desk.half.isOpen = true →
    desk.exchange.link.written = start.exchange.link.written ++ record.flatMap image
  fits : ∀ payload deadline delivery,
    ⟨.sendFrame payload deadline, .delivered delivery⟩ ∈ record → payload.length < UInt32.size

variable {start last : HalfDesk Sender} {record : List (Answered Call)}

theorem accounted (run : Run calls start record last) (tidy : start.exchange.resources.Tidy)
    (sincere : start.exchange.link.Sincere) : Accounted start record last := by
  refine run.invariant (Accounted start) ?_ ?_ ?_
  · exact ⟨tidy, sincere, fun _ => by simp, by simp⟩
  · intro record desk later before same
    refine ⟨same.tidy before.tidy, ?_, ?_, before.fits⟩
    · rw [same.link]
      exact before.sincere
    · intro still
      rw [same.written]
      exact before.written (same.half ▸ still)
  · intro record desk call before returned
    obtain ⟨kept, sincere, tidy⟩ := calls_kept call desk.half before.tidy before.sincere
    refine ⟨tidy, sincere, ?_, ?_⟩
    · intro still
      rw [(kept.written returned).2 still, before.written (calls_refuses.open_before still),
        List.flatMap_append, List.flatMap_singleton, List.append_assoc]
    · intro payload deadline delivery member
      rcases List.mem_append.1 member with earlier | now
      · exact before.fits payload deadline delivery earlier
      · obtain ⟨framed, delivered⟩ := (Answered.mk.injEq ..).mp (List.mem_singleton.1 now)
        exact kept.fits framed.symm delivered.symm

/-- Whatever is called in whatever order, and however the socket behaves: what an open sender has
written is what it has delivered, call by call, and every delivered frame was one that four bytes
can announce. The call that closes it has written a beginning of its own bytes behind that, and
nothing is ever written afterwards. -/
theorem never_tears (run : Run calls start record last)
    (tidy : start.exchange.resources.Tidy) (sincere : start.exchange.link.Sincere) :
    (last.half.isOpen = true →
        last.exchange.link.written = start.exchange.link.written ++ record.flatMap image) ∧
      (∀ payload deadline delivery,
        ⟨.sendFrame payload deadline, .delivered delivery⟩ ∈ record →
        payload.length < UInt32.size) ∧
      ∀ call keep reply closed, last.half.isOpen = true →
        last.perform calls (.call call keep) = (reply, closed) →
        reply ≠ .refused .stalled → closed.half.isOpen = false →
        (∃ torn, torn <+: attempt call ∧ closed.exchange.link.written =
          start.exchange.link.written ++ record.flatMap image ++ torn) ∧
        ∀ more later, Run calls closed more later →
          later.half.isOpen = false ∧
            later.exchange.link.written = closed.exchange.link.written ∧
            ∀ call keep, later.perform calls (.call call keep) = (.refused notOpen, later) := by
  have account := accounted run tidy sincere
  refine ⟨account.written, account.fits, ?_⟩
  intro call keep reply closed still performed returned shut
  obtain ⟨told, same⟩ := perform_call calls call keep last
  rw [performed] at told same
  obtain ⟨kept, -, -⟩ := calls_kept call last.half account.tidy account.sincere
  have finished : (calls call last.half last.exchange).1 ≠ .error .stalled := by
    intro never
    exact returned (by rw [show reply = _ from told, never, replyOf])
  obtain ⟨torn, beginning, written⟩ := (kept.written finished).1
  refine ⟨⟨torn, beginning, ?_⟩, ?_⟩
  · rw [same.written, ← account.written still]
    exact written
  · intro more later after
    obtain ⟨closed, -, written⟩ := after.closed calls_refuses shut
    exact ⟨closed, written, calls_refuses.perform closed⟩

def idleSender : HalfDesk Sender where
  half := { remote := ⟨IpAddress.loopback, 80, 0⟩, cancel := ⟨[]⟩ }
  exchange := { resources := Resources.ofSettings {}, link := {} }

theorem idleSender_never_tears :
    ∃ record last, Run calls idleSender record last ∧ last.half.isOpen = true ∧
      last.exchange.link.written = [0, 0, 0, 1, 7] := by
  have tidy : idleSender.exchange.Tidy {} := ⟨Resources.tidy_ofSettings {}, rfl⟩
  have calm : idleSender.exchange.link.Calm :=
    { running := rfl
      reads := by simp [idleSender, Script.Calm]
      writes := by simp [idleSender, Script.Calm]
      flushes := by simp [idleSender, Script.Calm] }
  obtain ⟨delivery, next, sent⟩ : ∃ delivery next,
      idleSender.half.sendFrame [7] none idleSender.exchange =
        (.ok delivery, idleSender.half, next) :=
    sendFrame_calm rfl (by decide) (by decide) (by simp [Exchange.Countable]) tidy calm
  have answered : idleSender.perform calls (.call (.sendFrame [7] none) false) =
      (.delivered delivery,
        { idleSender with exchange := next.giveBackBuffer delivery.buffer }) := by
    simp [perform, calls, sent, Except.map, HalfDesk.giveBack]
  have begun : Run calls idleSender [] idleSender := .start
  have run := begun.call (.sendFrame [7] none) false (by simp [answered])
  have still : (idleSender.perform calls
      (.call (.sendFrame [7] none) false)).2.half.isOpen = true := by
    rw [answered]
    rfl
  refine ⟨_, _, run, still, ?_⟩
  rw [(never_tears run tidy.resources calm.willing.sincere).1 still, answered]
  rfl

end Sender

end FramedTransport
