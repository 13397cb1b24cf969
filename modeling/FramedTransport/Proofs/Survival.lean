import FramedTransport.Proofs.Tracing
import Mathlib.Tactic

/-!
What a call on one half of a stream reports, and whether the half survives it.
A framed receive reports the end of the stream by the place at which one of its reads has
met it: between two frames, or inside one. Whatever fails, a half stays open exactly if it
is still certain where in the stream it stands.
-/

namespace FramedTransport

open SocketCall

theorem TransportError.isRecoverable_iff {reason : TransportError} :
    reason.isRecoverable = true ↔ ∃ operation after, reason = .timeout operation after := by
  cases reason <;> simp [isRecoverable]

namespace Incoming

variable {limit : Nat} {calls : List SocketCall} {frame : Incoming}

theorem Ends.survivable_iff {halt : Halt} (ends : Ends limit [] calls (.error halt, frame))
    (returned : halt ≠ .stalled) :
    halt.survivable frame.buffered = true ↔
      (∃ operation after, halt = .error (.timeout operation after)) ∧ receivedBy calls = [] := by
  cases ends with
  | disturbed quiet outside unfinished counted =>
      rw [List.nil_append] at counted
      cases halt with
      | error reason =>
          simp [Halt.survivable, TransportError.isRecoverable_iff, counted]
      | abort reason => exact outside.elim
      | stalled => exact absurd rfl returned
  | closed made quiet meets unfinished =>
      unfold endInside
      split <;> simp [Halt.survivable, TransportError.isRecoverable]
  | oversize quiet peeked excess => simp [Halt.survivable, TransportError.isRecoverable]

end Incoming

namespace Outgoing

variable {calls : List SocketCall} {frame last : Outgoing}

theorem Ends.survivable_iff {halt : Halt} (ends : Ends frame calls (.error halt, last))
    (fresh : frame.sent = 0) (returned : halt ≠ .stalled) :
    halt.survivable last.sent = true ↔
      (∃ operation after, halt = .error (.timeout operation after)) ∧ acceptedBy calls = [] := by
  cases ends with
  | disturbed busy outside part counted =>
      rw [fresh, Nat.zero_add] at counted
      cases halt with
      | error reason =>
          simp [Halt.survivable, TransportError.isRecoverable_iff, counted]
      | abort reason => exact outside.elim
      | stalled => exact absurd rfl returned
  | balked made idle part short => simp [Halt.survivable, TransportError.isRecoverable]
  | overrun busy member claimed => simp [Halt.survivable, TransportError.isRecoverable]

end Outgoing

namespace Receiver

variable {settings : Settings} {exchange : Exchange} {deadline : Option Duration}

theorem receiveFrame_ends {receiver : Receiver} (opened : receiver.isOpen = true)
    (countable : Exchange.Countable deadline) (tidy : exchange.Tidy settings) :
    ∃ outcome frame,
      Incoming.Ends settings.maxFrameSize []
        (receiver.socketCalls (.receiveFrame deadline) exchange) (outcome, frame) ∧
      ((∃ delivery, outcome = .ok () ∧
          (receiver.receiveFrame deadline exchange).1 = .ok delivery) ∨
        ∃ halt, outcome = .error halt ∧
          (receiver.receiveFrame deadline exchange).1 = .error halt ∧
          (receiver.receiveFrame deadline exchange).2.1 = receiver.after halt frame.buffered) := by
  obtain rfl := tidy.settings
  have holds := Incoming.holds_start
    (exchange.resources.rentBuffer exchange.resources.settings.bufferCapacity).1
    exchange.resources.settings.maxFrameSize
  have ends := Exchange.fillFrame_ends receiver.cancel holds countable
    (tidy.rentBuffer exchange.resources.settings.bufferCapacity)
  simp only [socketCalls, receiveFrame, opened, if_true]
  split <;> rename_i ended <;> rw [ended] at ends
  · exact ⟨_, _, ends, .inr ⟨_, rfl, rfl, rfl⟩⟩
  · refine ⟨_, _, ends, .inl ?_⟩
    cases ends with
    | filled quiet whole idle same =>
        obtain ⟨found, phase, -⟩ := whole.ready idle
        simp only [Incoming.release, phase]
        exact ⟨_, trivial, rfl⟩

/-- How a framed receive on an open receiver ends, by the reads that it made. -/
structure Framed (limit : Nat) (link : Link) (calls : List SocketCall)
    (outcome : Outcome Delivery) (after : Receiver) (next : Link) : Prop where
  traced : Traced link calls next
  consumed : link.inbound = receivedBy calls ++ next.inbound
  connectionClosed : outcome = .error (.error .connectionClosed) ↔ EndsAfter calls (· = [])
  malformedFrame : (∃ text, outcome = .error (.error (.malformedFrame text))) ↔
    EndsAfter calls Wire.Partial
  frameTooLarge : ∀ length most, outcome = .error (.error (.frameTooLarge length most)) ↔
    most = limit ∧ limit < length ∧
      ∃ header, FrameHeader.peek (receivedBy calls) = some header ∧ header.payloadLength = length
  survives : ∀ halt, outcome = .error halt → halt ≠ .stalled →
    (after.isOpen = true ↔
      (∃ operation span, halt = .error (.timeout operation span)) ∧ receivedBy calls = [])

theorem receiveFrame_framed {receiver : Receiver} (opened : receiver.isOpen = true)
    (countable : Exchange.Countable deadline) (tidy : exchange.Tidy settings) :
    Framed settings.maxFrameSize exchange.link
      (receiver.socketCalls (.receiveFrame deadline) exchange)
      (receiver.receiveFrame deadline exchange).1 (receiver.receiveFrame deadline exchange).2.1
      (receiver.receiveFrame deadline exchange).2.2.link := by
  have traced := calls_traced (.receiveFrame deadline) receiver tidy
  obtain ⟨outcome, frame, ends, told⟩ := receiveFrame_ends opened countable tidy
  have same (reason : TransportError) :
      (receiver.receiveFrame deadline exchange).1 = .error (.error reason) ↔
        outcome = .error (.error reason) := by
    rcases told with ⟨delivery, rfl, told⟩ | ⟨halt, rfl, told, -⟩
    · simp [told]
    · simp [told]
  constructor
  · exact traced
  · exact traced.linked.inbound
  · rw [same]
    exact ends.connectionClosed_iff
  · simp only [same]
    exact ends.malformedFrame_iff
  · intro length most
    rw [same]
    exact ends.frameTooLarge_iff length most
  · intro halt failed returned
    rcases told with ⟨delivery, -, told⟩ | ⟨other, rfl, told, after⟩
    · rw [told] at failed
      cases failed
    · rw [told] at failed
      cases failed
      rw [after, ← ends.survivable_iff returned]
      simp [Receiver.after, opened]

/-- A raw receive moves all of its bytes at once, so a timeout has moved none. -/
theorem receive_survives {receiver : Receiver} (opened : receiver.isOpen = true) (maxLength : Nat)
    (tidy : exchange.Tidy settings) {halt : Halt}
    (failed : (receiver.receive maxLength deadline exchange).1 = .error halt)
    (returned : halt ≠ .stalled) :
    (receiver.receive maxLength deadline exchange).2.1.isOpen = true ↔
      ∃ operation span, halt = .error (.timeout operation span) := by
  have unbroken := Exchange.receiveSome_unbroken receiver.cancel receiver.remote maxLength deadline
    tidy
  simp only [receive, opened, if_true] at failed ⊢
  split at failed <;> rename_i ended
  · cases failed
  · cases failed
    rw [ended] at unbroken
    cases halt with
    | error reason =>
        simp [after, opened, Halt.survivable, TransportError.isRecoverable_iff]
    | abort reason => exact absurd rfl (unbroken reason)
    | stalled => exact absurd rfl returned

end Receiver

namespace Sender

variable {settings : Settings} {exchange : Exchange} {deadline : Option Duration}

theorem sendFrame_ends {sender : Sender} {payload : Bytes} (opened : sender.isOpen = true)
    (countable : Exchange.Countable deadline) (tidy : exchange.Tidy settings)
    (moderate : ¬ (Call.sendFrame payload deadline).Excessive settings.maxFrameSize) :
    ∃ frame outcome last, Outgoing.sent frame = 0 ∧
      Outgoing.Ends frame (sender.socketCalls (.sendFrame payload deadline) exchange)
        (outcome, last) ∧
      ((∃ delivery, outcome = .ok () ∧
          (sender.sendFrame payload deadline exchange).1 = .ok delivery ∧
          (sender.sendFrame payload deadline exchange).2.1 = sender) ∨
        ∃ halt, outcome = .error halt ∧
          (sender.sendFrame payload deadline exchange).1 = .error halt ∧
          (sender.sendFrame payload deadline exchange).2.1 =
            sender.after (halt.survivable last.sent)) := by
  obtain rfl := tidy.settings
  simp only [Call.Excessive, not_or, Nat.not_lt, Nat.not_le] at moderate
  obtain ⟨frame, encoded⟩ := Outgoing.encode_ok
    (exchange.resources.rentBuffer (FrameHeader.size + payload.length)).1 moderate.1 moderate.2
  obtain ⟨whole, fresh, -⟩ := Outgoing.encode_eq_ok encoded
  have ends := Exchange.pushFrame_ends sender.cancel whole countable
    (tidy.rentBuffer (FrameHeader.size + payload.length))
  simp only [socketCalls, sendFrame, opened, if_true, encoded]
  split <;> rename_i ended <;> rw [ended] at ends
  · exact ⟨frame, _, _, fresh, ends, .inr ⟨_, rfl, rfl, rfl⟩⟩
  · refine ⟨frame, _, _, fresh, ends, .inl ?_⟩
    cases ends with
    | sent busy all complete buffer =>
        simp only [Outgoing.release, complete, if_true]
        exact ⟨_, trivial, rfl, trivial⟩

/-- How a framed send on an open sender ends, by the calls that it made. -/
structure Framed (link : Link) (calls : List SocketCall) (outcome : Outcome Delivery)
    (after : Sender) (next : Link) : Prop where
  traced : Traced link calls next
  survives : outcome ≠ .error .stalled →
    (after.isOpen = true ↔
      (∃ delivery, outcome = .ok delivery) ∨
      (∃ length most, outcome = .error (.error (.frameTooLarge length most))) ∨
      (∃ operation span, outcome = .error (.error (.timeout operation span))) ∧
        acceptedBy calls = [])
  untouched : (∃ length most, outcome = .error (.error (.frameTooLarge length most))) →
    calls = [] ∧ next = link

theorem sendFrame_framed {sender : Sender} (opened : sender.isOpen = true) (payload : Bytes)
    (countable : Exchange.Countable deadline) (tidy : exchange.Tidy settings) :
    Framed exchange.link (sender.socketCalls (.sendFrame payload deadline) exchange)
      (sender.sendFrame payload deadline exchange).1 (sender.sendFrame payload deadline exchange).2.1
      (sender.sendFrame payload deadline exchange).2.2.link := by
  have traced := calls_traced (.sendFrame payload deadline) sender tidy
  by_cases excessive : (Call.sendFrame payload deadline).Excessive settings.maxFrameSize
  · obtain ⟨⟨length, most, refused⟩, same, link, silent⟩ :=
      calls_excessive opened (tidy.settings ▸ excessive)
    have told : (sender.sendFrame payload deadline exchange).1 =
        .error (.error (.frameTooLarge length most)) := by
      cases outcome : (sender.sendFrame payload deadline exchange).1 with
      | ok delivery => simp [calls, outcome, Except.map] at refused
      | error halt => simpa [calls, outcome, Except.map] using refused
    replace same : (sender.sendFrame payload deadline exchange).2.1 = sender := same
    constructor
    · exact traced
    · intro returned
      rw [same, told]
      simp [opened]
    · intro _
      exact ⟨silent, link⟩
  · obtain ⟨frame, outcome, last, fresh, ends, told⟩ :=
      sendFrame_ends opened countable tidy excessive
    have measured := ends.not_frameTooLarge
    rcases told with ⟨delivery, rfl, told, same⟩ | ⟨halt, rfl, told, same⟩
    · constructor
      · exact traced
      · intro returned
        rw [same, told]
        simp [opened]
      · rintro ⟨length, most, refused⟩
        rw [told] at refused
        cases refused
    · constructor
      · exact traced
      · intro returned
        have survives := ends.survivable_iff fresh (fun never => returned (by rw [told, never]))
        have other (length most : Nat) : halt ≠ .error (.frameTooLarge length most) :=
          fun refused => measured length most (by rw [refused])
        rw [same, told]
        simp [Sender.after, opened, survives, other]
      · rintro ⟨length, most, refused⟩
        rw [told] at refused
        cases refused
        exact absurd rfl (measured length most)

/-- A raw send does not say how far it has come. -/
theorem send_closes {sender : Sender} (opened : sender.isOpen = true) (payload : Bytes)
    (countable : Exchange.Countable deadline) (tidy : exchange.Tidy settings) {halt : Halt}
    (failed : (sender.send payload deadline exchange).1 = .error halt)
    (returned : halt ≠ .stalled) : (sender.send payload deadline exchange).2.1.isOpen = false := by
  have unbroken := (Exchange.sendAll_breaks sender.cancel sender.remote payload deadline tidy).1
    countable
  simp only [send, opened, if_true] at failed ⊢
  split at failed <;> rename_i ended
  · cases failed
  · cases failed
    rw [ended] at unbroken
    cases halt with
    | error reason => simp [after]
    | abort reason => exact absurd rfl (unbroken reason)
    | stalled => exact absurd rfl returned

theorem shutdown_closes {sender : Sender} (opened : sender.isOpen = true)
    (deadline : Option Duration) (exchange : Exchange) :
    (sender.shutdown deadline exchange).2.1.isOpen = false := by
  simp [shutdown, opened]

end Sender

namespace Exchange

/-- What the calls on the open halves of a stream report, and which of them leave their half
open. A framed receive tells the end of the stream between two frames from the end inside one,
and refuses a header as soon as it has all of it. Any failure but a timeout closes a half, and so
does a timeout behind the first byte of a frame; only a frame that is too large to be sent closes
nothing, because none of it has been sent. -/
theorem halves_survive (settings : Settings) (exchange : Exchange) (deadline : Option Duration)
    (tidy : exchange.Tidy settings) (countable : Countable deadline) :
    (∀ receiver : Receiver, receiver.isOpen = true →
      let framed := receiver.receiveFrame deadline exchange
      Receiver.Framed settings.maxFrameSize exchange.link
          (receiver.socketCalls (.receiveFrame deadline) exchange) framed.1 framed.2.1
          framed.2.2.link ∧
        ∀ maxLength halt,
          let raw := receiver.receive maxLength deadline exchange
          raw.1 = .error halt → halt ≠ .stalled →
            (raw.2.1.isOpen = true ↔ ∃ operation span, halt = .error (.timeout operation span))) ∧
    (∀ sender : Sender, sender.isOpen = true →
      (∀ payload,
        let framed := sender.sendFrame payload deadline exchange
        Sender.Framed exchange.link (sender.socketCalls (.sendFrame payload deadline) exchange)
          framed.1 framed.2.1 framed.2.2.link) ∧
      (∀ payload halt,
        let raw := sender.send payload deadline exchange
        raw.1 = .error halt → halt ≠ .stalled → raw.2.1.isOpen = false) ∧
      (sender.shutdown deadline exchange).2.1.isOpen = false) := by
  constructor
  · intro receiver opened framed
    constructor
    · exact Receiver.receiveFrame_framed opened countable tidy
    · intro maxLength halt raw failed returned
      exact Receiver.receive_survives opened maxLength tidy failed returned
  · intro sender opened
    refine ⟨?_, ?_, ?_⟩
    · intro payload
      exact Sender.sendFrame_framed opened payload countable tidy
    · intro payload halt raw failed returned
      exact Sender.send_closes opened payload countable tidy failed returned
    · exact Sender.shutdown_closes opened deadline exchange

def cutOff : HalfDesk Receiver where
  half := { remote := ⟨IpAddress.loopback, 80, 0⟩, cancel := ⟨[]⟩ }
  exchange :=
    { resources := Resources.ofSettings {}
      link := { reads := [{ cue := .act (.data [0, 0, 0, 3, 7]) }] } }

theorem cutOff_halves_survive :
    let ended := cutOff.half.receiveFrame none cutOff.exchange
    ended.1 = .error (.error (.malformedFrame "connection closed mid-frame")) ∧
      EndsAfter (cutOff.half.socketCalls (.receiveFrame none) cutOff.exchange) Wire.Partial ∧
      ended.2.1.isOpen = false := by
  have tidy : cutOff.exchange.Tidy {} := ⟨Resources.tidy_ofSettings {}, rfl⟩
  have law :=
    ((halves_survive {} cutOff.exchange none tidy (by simp [Countable])).1 cutOff.half rfl).1
  have told : (cutOff.half.receiveFrame none cutOff.exchange).1 =
      .error (.error (.malformedFrame "connection closed mid-frame")) := by cbv
  refine ⟨told, law.malformedFrame.1 ⟨_, told⟩, ?_⟩
  rw [← Bool.not_eq_true, law.survives _ told (by simp)]
  rintro ⟨⟨operation, span, timed⟩, -⟩
  cases timed

end Exchange

end FramedTransport
