import FramedTransport.Proofs.Halves

/-!
Why a receiver never loses its place in the stream.
A receive that fails has taken nothing, unless it stopped inside a frame; then
it closes the receiver, and a closed receiver touches nothing any more. So what
an open receiver has taken is what it has delivered, call by call.
-/

namespace FramedTransport

namespace Receiver

def wire : Call → Delivery → Bytes
  | .receive .., delivery => delivery.payload
  | .receiveFrame _, delivery => Wire.image delivery.payload

def image (answered : HalfDesk.Answered Call) : Bytes :=
  match answered.reply with
  | .delivered delivery => wire answered.call delivery
  | _ => []

/-- How a call on an open receiver ends. -/
def Kept (call : Call) (link : Link) : Outcome (Option Delivery) → Receiver → Link → Prop
  | .ok (some delivery), _, next =>
      link.inbound = wire call delivery ++ next.inbound ∧
        ∀ deadline, call = .receiveFrame deadline → delivery.payload.length < UInt32.size
  | .ok none, _, _ => False
  | .error .stalled, _, _ => True
  | .error _, after, next => after.isOpen = true → link.inbound = next.inbound

theorem receive_kept (maxLength : Nat) (deadline : Option Duration) (receiver : Receiver)
    (exchange : Exchange) :
    Kept (.receive maxLength deadline) exchange.link
      ((receiver.receive maxLength deadline exchange).1.map some)
      (receiver.receive maxLength deadline exchange).2.1
      (receiver.receive maxLength deadline exchange).2.2.link := by
  have received := exchange.receiveSome_received receiver.cancel receiver.remote maxLength deadline
  unfold receive
  split
  · split <;> rename_i ended <;> rw [ended] at received
    · refine ⟨received, ?_⟩
      rintro other ⟨⟩
    · rename_i halt next
      cases halt with
      | error reason => exact fun _ => received
      | abort reason => exact fun _ => received
      | stalled => trivial
  · exact fun _ => rfl

/-- A failed filling that leaves its receiver open has taken nothing. -/
theorem inbound_of_survives {frame filled : Incoming} {link next : Link} {watch : Watch}
    {halt : Halt} (holds : frame.Holds [])
    (stopped : frame.fill watch link = ((.error halt, filled), next))
    (returned : halt ≠ .stalled) (survives : halt.survivable filled.buffered = true) :
    link.inbound = next.inbound := by
  obtain ⟨got, taken, how⟩ := Incoming.fill_spec holds watch link
  rw [stopped] at taken how
  cases halt with
  | error reason =>
      simp only [Halt.survivable, Bool.and_eq_true, beq_iff_eq] at survives
      obtain ⟨recoverable, nothing⟩ := survives
      rcases how with ⟨-, buffered⟩ | ⟨ending, -, rfl⟩
      · have empty : got = [] := by
          rw [nothing, List.nil_append] at buffered
          exact List.length_eq_zero_iff.1 buffered.symm
        rwa [empty] at taken
      · -- What the bytes themselves lead to is never a timeout.
        rw [ending.unrecoverable] at recoverable
        cases recoverable
  | abort reason => exact how.elim
  | stalled => exact absurd rfl returned

theorem exists_frame_of_filled {frame filled : Incoming} {link next : Link} {watch : Watch}
    (holds : frame.Holds []) (complete : frame.fill watch link = ((.ok (), filled), next)) :
    ∃ whole : WireFrame, link.inbound = Wire.image whole.payload ++ next.inbound ∧
      filled.phase = .dispatch whole.header ∧ filled.buffer.bytes = Wire.image whole.payload := by
  obtain ⟨got, taken, how⟩ := Incoming.fill_spec holds watch link
  rw [complete] at taken how
  obtain ⟨held, idle, -, -⟩ := how
  obtain ⟨whole, phase, contents, image, -⟩ := held.ready idle
  rw [List.nil_append] at image
  exact ⟨whole, image ▸ taken, phase, contents⟩

theorem slice_image {buffer : Buffer} {whole : WireFrame}
    (contents : buffer.bytes = Wire.image whole.payload) :
    buffer.slice FrameHeader.size whole.header.frameLength = whole.payload := by
  have width := Bytes.length_bigEndian FrameHeader.size whole.payload.length
  rw [Buffer.slice, contents, Wire.image, List.drop_left' width]
  exact List.take_of_length_le (by simp [FrameHeader.frameLength, WireFrame.header])

theorem receiveFrame_calm {settings : Settings} {exchange : Exchange} {receiver : Receiver}
    {deadline : Option Duration} {whole : WireFrame} {rest : Bytes}
    (opened : receiver.isOpen = true) (countable : Exchange.Countable deadline)
    (tidy : exchange.Tidy settings) (calm : exchange.link.Calm)
    (input : exchange.link.input = Wire.image whole.payload ++ rest)
    (fits : whole.payload.length ≤ settings.maxFrameSize) :
    ∃ delivery next, receiver.receiveFrame deadline exchange = (.ok delivery, receiver, next) ∧
      delivery.payload = whole.payload := by
  obtain rfl := tidy.settings
  have holds := Incoming.holds_start
    (exchange.resources.rentBuffer exchange.resources.settings.bufferCapacity).1
    exchange.resources.settings.maxFrameSize
  obtain ⟨watch, -, -, ran⟩ := (Exchange.fillFrame_tidy receiver.cancel deadline
    (Incoming.start
      (exchange.resources.rentBuffer exchange.resources.settings.bufferCapacity).1
      exchange.resources.settings.maxFrameSize)
    (tidy.rentBuffer exchange.resources.settings.bufferCapacity)).1 countable
  obtain ⟨filled, next, complete, phase, contents⟩ :=
    Incoming.fill_calm_frame holds watch calm input fits
  have result := (Prod.mk.inj (complete.symm.trans ran)).1
  cases ended : Exchange.fillFrame receiver.cancel deadline
      (Incoming.start
        (exchange.resources.rentBuffer exchange.resources.settings.bufferCapacity).1
        exchange.resources.settings.maxFrameSize)
      { exchange with
        resources :=
          (exchange.resources.rentBuffer exchange.resources.settings.bufferCapacity).2 } with
  | mk outcome after =>
      rw [ended] at result
      obtain rfl : (.ok (), filled) = outcome := result
      simp only [receiveFrame, opened, if_true, ended, Incoming.release, phase]
      exact ⟨_, _, rfl, slice_image contents⟩

theorem receiveFrame_kept (deadline : Option Duration) (receiver : Receiver)
    (exchange : Exchange) :
    Kept (.receiveFrame deadline) exchange.link
      ((receiver.receiveFrame deadline exchange).1.map some)
      (receiver.receiveFrame deadline exchange).2.1
      (receiver.receiveFrame deadline exchange).2.2.link := by
  unfold receiveFrame
  split
  · dsimp only
    have holds := Incoming.holds_start
      (exchange.resources.rentBuffer exchange.resources.settings.bufferCapacity).1
      exchange.resources.settings.maxFrameSize
    have attempted := Exchange.fillFrame_attempted receiver.cancel deadline
      (Incoming.start
        (exchange.resources.rentBuffer exchange.resources.settings.bufferCapacity).1
        exchange.resources.settings.maxFrameSize)
      { exchange with
        resources :=
          (exchange.resources.rentBuffer exchange.resources.settings.bufferCapacity).2 }
    split <;> rename_i ended <;> rw [ended] at attempted
    · rename_i halt frame next
      cases halt with
      | stalled => trivial
      -- Refused before its first read, or ended by the filling itself.
      | abort reason =>
        rcases attempted with ⟨-, same⟩ | ⟨watch, -, -, ran⟩
        · exact fun _ => congrArg Link.inbound same.symm
        · exact fun _ => inbound_of_survives holds ran (by simp) rfl
      | error reason =>
        rcases attempted with ⟨⟨other, refused⟩, -⟩ | ⟨watch, -, -, ran⟩
        · cases refused
        · intro survives
          simp only [after, Bool.and_eq_true] at survives
          exact inbound_of_survives holds ran (by simp) survives.2
    · rename_i frame next
      rcases attempted with ⟨⟨other, refused⟩, -⟩ | ⟨watch, -, -, ran⟩
      · cases refused
      · obtain ⟨whole, taken, phase, contents⟩ := exists_frame_of_filled holds ran
        simp only [Incoming.release, phase]
        have payload := slice_image contents
        refine ⟨?_, ?_⟩
        · simp only [wire, Delivery.payload, payload]
          exact taken
        · intro _ _
          simp only [Delivery.payload, payload]
          exact whole.payload_lt
  · exact fun _ => rfl

theorem calls_kept (call : Call) (receiver : Receiver) (exchange : Exchange) :
    Kept call exchange.link (calls call receiver exchange).1 (calls call receiver exchange).2.1
      (calls call receiver exchange).2.2.link := by
  cases call with
  | receive maxLength deadline => exact receive_kept maxLength deadline receiver exchange
  | receiveFrame deadline => exact receiveFrame_kept deadline receiver exchange

open HalfDesk

theorem calls_refuses : Refuses isOpen calls := by
  intro call receiver exchange closed
  cases call with
  | receive maxLength deadline => simp [calls, receive, closed, Except.map]
  | receiveFrame deadline => simp [calls, receiveFrame, closed, Except.map]

theorem Kept.inbound {call : Call} {link next : Link} {outcome : Outcome (Option Delivery)}
    {after : Receiver} (kept : Kept call link outcome after next)
    (returned : outcome ≠ .error .stalled) (still : after.isOpen = true) :
    link.inbound = image ⟨call, replyOf outcome⟩ ++ next.inbound := by
  cases outcome with
  | ok delivered =>
      cases delivered with
      | none => exact kept.elim
      | some delivery => exact kept.1
  | error halt =>
      cases halt with
      | error reason => exact kept still
      | abort reason => exact kept still
      | stalled => exact absurd rfl returned

theorem Kept.fits {call : Call} {link next : Link} {outcome : Outcome (Option Delivery)}
    {after : Receiver} {deadline : Option Duration} {delivery : Delivery}
    (kept : Kept call link outcome after next) (framed : call = .receiveFrame deadline)
    (delivered : replyOf outcome = .delivered delivery) :
    delivery.payload.length < UInt32.size := by
  cases outcome with
  | error halt => cases delivered
  | ok value =>
      cases value with
      | none => cases delivered
      | some other =>
          cases delivered
          exact kept.2 deadline framed

/-- Whatever is called in whatever order, and however the socket behaves: what an open receiver
has taken from its peer is what it has delivered, call by call, and every delivered frame was a
whole one. A closed receiver stays closed, and no call on it changes anything. -/
theorem keeps_its_place {start last : HalfDesk Receiver} {record : List (Answered Call)}
    (run : Run calls start record last) :
    (last.half.isOpen = true →
        start.exchange.link.inbound = record.flatMap image ++ last.exchange.link.inbound) ∧
      (∀ deadline delivery, ⟨.receiveFrame deadline, .delivered delivery⟩ ∈ record →
        delivery.payload.length < UInt32.size) ∧
      (last.half.isOpen = false → ∀ more later, Run calls last more later →
        later.half.isOpen = false ∧
          later.exchange.link.inbound = last.exchange.link.inbound ∧
          ∀ call keep, later.perform calls (.call call keep) = (.refused notOpen, later)) := by
  refine ⟨?_, ?_, ?_⟩
  · refine run.invariant (fun record desk => desk.half.isOpen = true →
      start.exchange.link.inbound = record.flatMap image ++ desk.exchange.link.inbound) ?_ ?_ ?_
    · intro _
      rfl
    · intro record desk later taken same still
      rw [same.inbound]
      exact taken (same.half ▸ still)
    · intro record desk call taken returned still
      have kept := calls_kept call desk.half desk.exchange
      rw [taken (calls_refuses.open_before still), kept.inbound returned still, List.flatMap_append]
      simp only [List.flatMap_singleton, List.append_assoc]
  · refine run.invariant (fun record _ => ∀ deadline delivery,
      ⟨.receiveFrame deadline, .delivered delivery⟩ ∈ record →
        delivery.payload.length < UInt32.size) ?_ ?_ ?_
    · intro deadline delivery member
      cases member
    · intro record desk later fits same
      exact fits
    · intro record desk call fits returned deadline delivery member
      rcases List.mem_append.1 member with before | now
      · exact fits deadline delivery before
      · obtain ⟨framed, delivered⟩ := (Answered.mk.injEq ..).mp (List.mem_singleton.1 now)
        exact (calls_kept call desk.half desk.exchange).fits framed.symm delivered.symm
  · intro closed more later after
    obtain ⟨shut, inbound, -⟩ := after.closed calls_refuses closed
    exact ⟨shut, inbound, calls_refuses.perform shut⟩

def oneFrame : HalfDesk Receiver where
  half := { remote := ⟨IpAddress.loopback, 80, 0⟩, cancel := ⟨[]⟩ }
  exchange :=
    { resources := Resources.ofSettings {}
      link := { reads := [{ cue := .act (.data [0, 0, 0, 1]) }, { cue := .act (.data [7]) }] } }

theorem oneFrame_keeps_its_place :
    ∃ record last, Run calls oneFrame record last ∧ last.half.isOpen = true ∧
      record.flatMap image = [0, 0, 0, 1, 7] ∧
      oneFrame.exchange.link.inbound = record.flatMap image ++ last.exchange.link.inbound := by
  have calm : oneFrame.exchange.link.Calm :=
    { running := rfl
      reads := by simp [oneFrame, Script.Calm]
      writes := by simp [oneFrame, Script.Calm]
      flushes := by simp [oneFrame, Script.Calm] }
  obtain ⟨delivery, next, received, payload⟩ : ∃ delivery next,
      oneFrame.half.receiveFrame none oneFrame.exchange = (.ok delivery, oneFrame.half, next) ∧
        delivery.payload = [7] :=
    @receiveFrame_calm {} _ _ none ⟨[7], by decide⟩ [] rfl (by simp [Exchange.Countable])
      ⟨Resources.tidy_ofSettings {}, rfl⟩ calm rfl (by decide)
  have answered : oneFrame.perform calls (.call (.receiveFrame none) false) =
      (.delivered delivery, { oneFrame with exchange := next.giveBackBuffer delivery.buffer }) := by
    simp [perform, calls, received, Except.map, HalfDesk.giveBack]
  have begun : Run calls oneFrame [] oneFrame := .start
  have run := begun.call (.receiveFrame none) false (by simp [answered])
  refine ⟨_, _, run, ?_, ?_, ?_⟩
  · rw [answered]
    rfl
  · simp [answered, image, wire, payload]
    rfl
  · exact (keeps_its_place run).1 (by rw [answered]; rfl)

end Receiver

end FramedTransport
