import FramedTransport.Proofs.Sockets

/-!
How a transfer ends, by the calls that it made.
Filling a frame ends with the frame, with the end of the stream, with a header that
declares too much, or with something from outside; each of them shows in the calls, and
only one of them. Sending a frame ends with all of it taken, with a write that takes
nothing, with one that claims too much, or with something from outside.
-/

namespace FramedTransport

open SocketCall

/-- An operation has caught the engine, or a socket, at something that must not happen. -/
def Halt.Violates : Halt → Prop
  | .error (.protocolViolation _) | .abort .ticketArmedTwice => True
  | _ => False

theorem Halt.Outside.lawful {halt : Halt} (outside : halt.Outside) : ¬ halt.Violates := by
  cases halt with
  | error reason => cases reason <;> simp_all [Outside, Violates, TransportError.disturbs]
  | abort reason => exact outside.elim
  | stalled => exact id

/-- Bytes that reach neither the end of a frame nor a header that declares more than the limit. -/
def Wire.Unfinished (limit : Nat) (held : Bytes) : Prop :=
  ∀ header, FrameHeader.peek held = some header →
    header.payloadLength ≤ limit ∧ held.length < header.frameLength

def Wire.Partial (held : Bytes) : Prop :=
  held ≠ [] ∧ ∀ header, FrameHeader.peek held = some header → held.length < header.frameLength

namespace SocketCall

variable {calls before : List SocketCall} {last : SocketCall}

/-- One of the calls meets the end of the stream, after such bytes. -/
def EndsAfter (calls : List SocketCall) (such : Bytes → Prop) : Prop :=
  ∃ before last later, calls = before ++ last :: later ∧ last.MeetsEnd ∧ such (receivedBy before)

theorem not_endsAfter (quiet : ∀ call ∈ calls, ¬ call.MeetsEnd) (such : Bytes → Prop) :
    ¬ EndsAfter calls such := by
  rintro ⟨before, last, later, rfl, ends, -⟩
  exact quiet last (by simp) ends

theorem endsAfter_iff (quiet : ∀ call ∈ before, ¬ call.MeetsEnd) (ends : last.MeetsEnd)
    (such : Bytes → Prop) : EndsAfter (before ++ [last]) such ↔ such (receivedBy before) := by
  constructor
  · rintro ⟨first, other, later, same, meets, held⟩
    -- No call before the last has met the end, so there is no other place to divide the calls.
    induction before generalizing first such with
    | nil =>
        cases first with
        | nil => exact held
        | cons call first => simp at same
    | cons call before ih =>
        cases first with
        | nil =>
            obtain ⟨rfl, -⟩ : call = other ∧ before ++ [last] = later := by simpa using same
            exact absurd meets (quiet call List.mem_cons_self)
        | cons opening first =>
            obtain ⟨rfl, rest⟩ : call = opening ∧ before ++ [last] = first ++ other :: later := by
              simpa using same
            exact ih (fun other member => quiet other (.tail _ member))
              (fun held => such (call.received ++ held)) first rest held
  · intro held
    exact ⟨before, last, [], rfl, ends, held⟩

end SocketCall

namespace Incoming

theorem Holds.unfinished {frame : Incoming} {held : Bytes} (holds : frame.Holds held)
    (wants : frame.wantsBytes = true) : Wire.Unfinished frame.maxPayload held := by
  obtain ⟨-, -, known⟩ := holds
  intro header peeked
  cases phase : frame.phase with
  | header progress =>
      simp only [phase] at known
      have enough := (Wire.peek_eq_some.1 peeked).1
      omega
  | payload declared progress =>
      simp only [phase] at known
      obtain ⟨same, fits, expected, place, below⟩ := known
      obtain rfl : declared = header := by simpa [same] using peeked
      refine ⟨fits, ?_⟩
      rw [FrameHeader.frameLength]
      omega
  | dispatch declared => simp [wantsBytes, phase] at wants
  | closed => simp [wantsBytes, phase] at wants

/-- How filling a frame ends that held `held`, by the calls that were made for it. -/
inductive Ends (limit : Nat) (held : Bytes) (calls : List SocketCall) :
    Outcome Unit × Incoming → Prop
  | filled {frame : Incoming} (quiet : ∀ call ∈ calls, ¬ call.MeetsEnd)
      (whole : frame.Holds (held ++ receivedBy calls)) (idle : frame.wantsBytes = false)
      (same : frame.maxPayload = limit) : Ends limit held calls (.ok (), frame)
  | disturbed {halt : Halt} {frame : Incoming} (quiet : ∀ call ∈ calls, ¬ call.MeetsEnd)
      (outside : halt.Outside) (unfinished : Wire.Unfinished limit (held ++ receivedBy calls))
      (counted : frame.buffered = (held ++ receivedBy calls).length) :
      Ends limit held calls (.error halt, frame)
  | closed {before : List SocketCall} {last : SocketCall} {frame : Incoming}
      (made : calls = before ++ [last]) (quiet : ∀ call ∈ before, ¬ call.MeetsEnd)
      (ends : last.MeetsEnd) (unfinished : Wire.Unfinished limit (held ++ receivedBy before)) :
      Ends limit held calls
        (.error (.error (endInside (held ++ receivedBy before).length .connectionClosed)), frame)
  | oversize {header : FrameHeader} {frame : Incoming} (quiet : ∀ call ∈ calls, ¬ call.MeetsEnd)
      (peeked : FrameHeader.peek (held ++ receivedBy calls) = some header)
      (excess : limit < header.payloadLength) :
      Ends limit held calls
        (.error (.error (.frameTooLarge header.payloadLength limit)), frame)

theorem Ends.after_read {limit : Nat} {held : Bytes} {call : SocketCall} {calls : List SocketCall}
    {result : Outcome Unit × Incoming} (going : ¬ call.MeetsEnd)
    (ends : Ends limit (held ++ call.received) calls result) :
    Ends limit held (call :: calls) result := by
  have still {calls : List SocketCall} (quiet : ∀ call ∈ calls, ¬ call.MeetsEnd) :
      ∀ other ∈ call :: calls, ¬ other.MeetsEnd := by
    intro other member
    rcases List.mem_cons.1 member with rfl | later
    · exact going
    · exact quiet other later
  have shift (calls : List SocketCall) :
      held ++ call.received ++ receivedBy calls = held ++ receivedBy (call :: calls) := by
    rw [List.append_assoc, receivedBy_cons]
  cases ends with
  | filled quiet whole idle same =>
      rw [shift] at whole
      exact .filled (still quiet) whole idle same
  | disturbed quiet outside unfinished counted =>
      rw [shift] at unfinished counted
      exact .disturbed (still quiet) outside unfinished counted
  | closed made quiet meets unfinished =>
      rw [shift] at unfinished ⊢
      exact .closed (by rw [made]; rfl) (still quiet) meets unfinished
  | oversize quiet peeked excess =>
      rw [shift] at peeked
      exact .oversize (still quiet) peeked excess

theorem Ends.lawful {limit : Nat} {held : Bytes} {calls : List SocketCall} {halt : Halt}
    {frame : Incoming} (ends : Ends limit held calls (.error halt, frame)) : ¬ halt.Violates := by
  cases ends with
  | disturbed quiet outside unfinished counted => exact outside.lawful
  | closed made quiet meets unfinished =>
      unfold endInside
      split
      · exact id
      · exact id
  | oversize quiet peeked excess => exact id

theorem fill_ends {frame : Incoming} {held : Bytes} (holds : frame.Holds held) (watch : Watch)
    (link : Link) :
    Ends frame.maxPayload held (frame.fillCalls watch link) (frame.fill watch link).1 := by
  fun_induction fill watch frame link generalizing held with
  | case1 frame link wants halt next stopped =>
      have read := Link.read_spec watch frame.windowLength link
      rw [stopped] at read
      obtain ⟨-, -, outside, -⟩ := read
      rw [fillCalls_eq, if_pos wants]
      simp only [stopped]
      have nothing : receivedBy [{ request := .read frame.windowLength, watch, link }] = [] := by
        simp [SocketCall.received, stopped]
      apply Ends.disturbed
      · simp [MeetsEnd, stopped]
      · exact outside
      · rw [nothing, List.append_nil]
        exact holds.unfinished wants
      · rw [nothing, List.append_nil, buffered_expose, holds.buffered]
  | case2 frame link wants received next arrived after reason refused =>
      have read := Link.read_spec watch frame.windowLength link
      rw [arrived] at read
      obtain ⟨fits, -⟩ := read
      rw [fillCalls_eq, if_pos wants]
      simp only [arrived, refused]
      rw [holds.buffered]
      by_cases present : received = []
      · subst present
        have stops := advance_nothing (wantsBytes_write wants [])
        obtain ⟨-, rfl⟩ : _ ∧ TransportError.connectionClosed = reason := by
          simpa [stops] using refused
        have ends := @Ends.closed frame.maxPayload held _ []
          { request := .read frame.windowLength, watch, link } after rfl (by simp)
          ⟨_, rfl, holds.windowLength_pos wants, congrArg Prod.fst arrived⟩
          (by simpa using holds.unfinished wants)
        simpa using ends
      · have took := holds.took received (List.length_pos_iff.2 present) fits
        rw [refused] at took
        obtain ⟨-, header, peeked, excess, rfl⟩ := took
        have kept : endInside held.length (.frameTooLarge header.payloadLength frame.maxPayload) =
            .frameTooLarge header.payloadLength frame.maxPayload := by simp [endInside]
        rw [kept]
        apply Ends.oversize
        · simp [MeetsEnd, arrived, present]
        · simpa [SocketCall.received, arrived] using peeked
        · exact excess
  | case3 frame link wants received next arrived after accepted ih =>
      have read := Link.read_spec watch frame.windowLength link
      rw [arrived] at read
      obtain ⟨fits, -⟩ := read
      have counted := advance_count accepted
      have took := holds.took received counted fits
      rw [accepted] at took
      have rest := ih took.1
      rw [took.2] at rest
      rw [fillCalls_eq, if_pos wants]
      simp only [arrived, accepted]
      apply Ends.after_read
      · simp [MeetsEnd, arrived, List.length_pos_iff.1 counted]
      · simpa [SocketCall.received, arrived] using rest
  | case4 frame link idle header ready =>
      rw [fillCalls_eq, if_neg idle]
      exact .filled (by simp) (by simpa using holds) (by simpa using idle) rfl
  | case5 frame link idle undispatched =>
      obtain ⟨whole, dispatch, -⟩ := holds.ready (by simpa using idle)
      exact absurd dispatch (undispatched _)

variable {limit : Nat} {calls : List SocketCall} {outcome : Outcome Unit} {frame : Incoming}

theorem Ends.connectionClosed_iff (ends : Ends limit [] calls (outcome, frame)) :
    outcome = .error (.error .connectionClosed) ↔ EndsAfter calls (· = []) := by
  cases ends with
  | filled quiet whole idle same => simp [not_endsAfter quiet]
  | disturbed quiet outside unfinished counted =>
      simp only [not_endsAfter quiet, iff_false, Except.error.injEq]
      rintro rfl
      cases outside
  | closed made quiet meets unfinished =>
      rw [made, endsAfter_iff quiet meets]
      simp [endInside, List.length_pos_iff]
  | oversize quiet peeked excess => simp [not_endsAfter quiet]

theorem Ends.malformedFrame_iff (ends : Ends limit [] calls (outcome, frame)) :
    (∃ text, outcome = .error (.error (.malformedFrame text))) ↔ EndsAfter calls Wire.Partial := by
  cases ends with
  | filled quiet whole idle same => simp [not_endsAfter quiet]
  | disturbed quiet outside unfinished counted =>
      simp only [not_endsAfter quiet, iff_false, Except.error.injEq]
      rintro ⟨text, rfl⟩
      cases outside
  | @closed before last frame made quiet meets unfinished =>
      rw [made, endsAfter_iff quiet meets, List.nil_append]
      by_cases nothing : receivedBy before = []
      · simp [endInside, nothing, Wire.Partial]
      · have some_bytes := List.length_pos_iff.2 nothing
        simp only [endInside, some_bytes, and_self, if_true, Except.error.injEq, Halt.error.injEq,
          TransportError.malformedFrame.injEq, exists_eq', true_iff]
        exact ⟨nothing, fun header peeked => (unfinished header peeked).2⟩
  | oversize quiet peeked excess => simp [not_endsAfter quiet]

theorem Ends.frameTooLarge_iff (ends : Ends limit [] calls (outcome, frame)) (length most : Nat) :
    outcome = .error (.error (.frameTooLarge length most)) ↔
      most = limit ∧ limit < length ∧
        ∃ header, FrameHeader.peek (receivedBy calls) = some header ∧
          header.payloadLength = length := by
  cases ends with
  | filled quiet whole idle same =>
      obtain ⟨found, -, -, image, fits⟩ := whole.ready idle
      rw [List.nil_append] at image
      have peeked := Wire.peek_image found []
      rw [List.append_nil] at peeked
      simp only [image, peeked, reduceCtorEq, false_iff, Option.some.injEq]
      rintro ⟨-, excess, header, rfl, rfl⟩
      simp only [WireFrame.header] at excess
      omega
  | disturbed quiet outside unfinished counted =>
      constructor
      · rintro ⟨⟩
        cases outside
      · rintro ⟨-, excess, header, peeked, rfl⟩
        have fits := (unfinished header peeked).1
        omega
  | @closed before last frame made quiet meets unfinished =>
      have held : receivedBy calls = receivedBy before := by
        simp [made, received_of_meetsEnd meets]
      constructor
      · intro same
        unfold endInside at same
        split at same <;> cases same
      · rintro ⟨-, excess, header, peeked, rfl⟩
        rw [held] at peeked
        have fits := (unfinished header peeked).1
        omega
  | @oversize header frame quiet peeked excess =>
      rw [List.nil_append] at peeked
      simp only [peeked, Except.error.injEq, Halt.error.injEq, TransportError.frameTooLarge.injEq,
        Option.some.injEq]
      constructor
      · rintro ⟨rfl, rfl⟩
        exact ⟨rfl, excess, header, rfl, rfl⟩
      · rintro ⟨rfl, -, other, rfl, rfl⟩
        exact ⟨rfl, rfl⟩

theorem Ends.received_eq_nil (ends : Ends limit [] calls (outcome, frame))
    (told : outcome = .error (.error .connectionClosed)) : receivedBy calls = [] := by
  cases ends with
  | filled quiet whole idle same => cases told
  | disturbed quiet outside unfinished counted =>
      cases told
      cases outside
  | @closed before last frame made quiet meets unfinished =>
      by_cases nothing : receivedBy before = []
      · simp [made, nothing, received_of_meetsEnd meets]
      · simp [endInside, List.length_pos_iff.2 nothing] at told
  | oversize quiet peeked excess => cases told

end Incoming

namespace Outgoing

theorem Whole.refused {frame : Outgoing} (whole : frame.Whole) {count : Nat}
    {reason : TransportError} (refused : frame.advance count = .error reason) :
    (count = 0 ∧ reason = .connectionClosed) ∨
      (frame.pending.length < count ∧ ∃ detail, reason = .protocolViolation detail) := by
  rw [whole.length_pending]
  by_cases none : count = 0
  · subst none
    obtain rfl : TransportError.connectionClosed = reason := by
      simpa [Outgoing.advance, bind, Except.bind] using refused
    exact .inl ⟨rfl, rfl⟩
  · by_cases room : count ≤ frame.progress.remaining
    · obtain ⟨progress, advanced, -⟩ := Progress.advance_of_le (Nat.pos_of_ne_zero none) room
      simp [Outgoing.advance, advanced, bind, Except.bind, pure, Except.pure] at refused
    · refine .inr ⟨Nat.lt_of_not_le room, ?_⟩
      simp only [Outgoing.advance, Progress.advance, none, room, dite_false, if_false, bind,
        Except.bind, Except.error.injEq] at refused
      exact ⟨_, refused.symm⟩

/-- How sending the rest of a frame ends, by the calls that were made for it. -/
inductive Ends (frame : Outgoing) (calls : List SocketCall) : Outcome Unit × Outgoing → Prop
  | sent {last : Outgoing} (busy : ∀ call ∈ calls, ¬ call.TakesNothing)
      (all : acceptedBy calls = frame.pending) (complete : last.isComplete = true)
      (buffer : last.buffer = frame.buffer) : Ends frame calls (.ok (), last)
  | disturbed {halt : Halt} {last : Outgoing} (busy : ∀ call ∈ calls, ¬ call.TakesNothing)
      (outside : halt.Outside) (part : acceptedBy calls <+: frame.pending)
      (counted : last.sent = frame.sent + (acceptedBy calls).length) :
      Ends frame calls (.error halt, last)
  | balked {before : List SocketCall} {call : SocketCall} {last : Outgoing}
      (made : calls = before ++ [call]) (idle : call.TakesNothing)
      (part : acceptedBy calls <+: frame.pending) (short : acceptedBy calls ≠ frame.pending) :
      Ends frame calls (.error (.error .connectionClosed), last)
  | overrun {call : SocketCall} {detail : String} {last : Outgoing}
      (busy : ∀ call ∈ calls, ¬ call.TakesNothing) (member : call ∈ calls)
      (claimed : call.Overstates) : Ends frame calls (.error (.error (.protocolViolation detail)), last)

theorem Ends.after_write {frame next : Outgoing} {call : SocketCall} {calls : List SocketCall}
    {result : Outcome Unit × Outgoing} (taking : ¬ call.TakesNothing)
    (split : frame.pending = call.accepted ++ next.pending)
    (counted : next.sent = frame.sent + call.accepted.length) (buffer : next.buffer = frame.buffer)
    (ends : Ends next calls result) : Ends frame (call :: calls) result := by
  have still (busy : ∀ call ∈ calls, ¬ call.TakesNothing) :
      ∀ other ∈ call :: calls, ¬ other.TakesNothing := by
    intro other member
    rcases List.mem_cons.1 member with rfl | later
    · exact taking
    · exact busy other later
  cases ends with
  | sent busy all complete same =>
      apply Ends.sent (still busy) _ complete (same.trans buffer)
      rw [acceptedBy_cons, all, split]
  | disturbed busy outside part count =>
      apply Ends.disturbed (still busy) outside
      · rw [acceptedBy_cons, split]
        exact (List.prefix_append_right_inj _).2 part
      · rw [count, counted, acceptedBy_cons, List.length_append, Nat.add_assoc]
  | @balked before last _ made idle part short =>
      apply @Ends.balked _ _ (call :: before) last _ (by rw [made]; rfl) idle
      · rw [acceptedBy_cons, split]
        exact (List.prefix_append_right_inj _).2 part
      · rw [acceptedBy_cons, split]
        intro same
        exact short (List.append_cancel_left same)
  | overrun busy member claimed =>
      exact .overrun (still busy) (List.mem_cons_of_mem _ member) claimed

/-- Only a write that claims more than it was offered can go against the rules of the engine. -/
theorem Ends.overstates {frame last : Outgoing} {calls : List SocketCall} {halt : Halt}
    (ends : Ends frame calls (.error halt, last)) (violated : halt.Violates) :
    ∃ call ∈ calls, call.Overstates := by
  cases ends with
  | disturbed busy outside part counted => exact absurd violated outside.lawful
  | balked made idle part short => exact violated.elim
  | overrun busy member claimed => exact ⟨_, member, claimed⟩

theorem push_ends {frame : Outgoing} (whole : frame.Whole) (watch : Watch) (link : Link) :
    Ends frame (frame.pushCalls watch link) (frame.push watch link).1 := by
  fun_induction push watch frame link with
  | case1 frame link complete flushed next ended =>
      obtain ⟨-, -, -, halted⟩ := Link.flush_spec watch link
      rw [ended] at halted
      have nothing := pending_of_isComplete whole complete
      rw [pushCalls_eq, if_pos complete]
      cases flushed with
      | ok value =>
          apply Ends.sent
          · simp [TakesNothing]
          · simp [accepted, nothing]
          · exact complete
          · rfl
      | error halt =>
          apply Ends.disturbed
          · simp [TakesNothing]
          · exact (halted halt rfl).1
          · simp [accepted]
          · simp [accepted]
  | case2 frame link incomplete halt next stopped =>
      have write := Link.write_spec watch frame.pending link
      rw [stopped] at write
      rw [pushCalls_eq, if_neg incomplete]
      simp only [stopped]
      apply Ends.disturbed
      · simp [TakesNothing, stopped]
      · exact write.2.1
      · simp [accepted, stopped]
      · simp [accepted, stopped]
  | case3 frame link incomplete count next taken reason refused =>
      have present := pending_ne_nil whole incomplete
      rw [pushCalls_eq, if_neg incomplete]
      simp only [taken, refused]
      rcases whole.refused refused with ⟨rfl, rfl⟩ | ⟨beyond, detail, rfl⟩
      · apply @Ends.balked _ _ []
        · rfl
        · exact ⟨_, rfl, present, congrArg Prod.fst taken⟩
        · simp [accepted, taken]
        · simpa [accepted, taken] using present.symm
      · apply Ends.overrun _ List.mem_cons_self
        · exact ⟨_, _, rfl, congrArg Prod.fst taken, beyond⟩
        · simp [TakesNothing, taken]
          omega
  | case4 frame link incomplete count next taken after accepted ih =>
      rw [pushCalls_eq, if_neg incomplete]
      simp only [taken, accepted]
      rcases whole.advance count with
        ⟨other, same, positive, fits, wholeNext, buffer, counted, split⟩ | ⟨⟨reason, refused⟩, -⟩
      · obtain rfl : other = after := by simpa [same] using accepted
        apply Ends.after_write _ _ _ buffer (ih wholeNext)
        · simp [TakesNothing, taken]
          omega
        · simpa [SocketCall.accepted, taken] using split
        · simp [SocketCall.accepted, taken, counted, fits]
      · simp [refused] at accepted

variable {calls : List SocketCall} {frame last : Outgoing} {result : Outcome Unit × Outgoing}

theorem Ends.not_frameTooLarge {outcome : Outcome Unit} (ends : Ends frame calls (outcome, last))
    (length most : Nat) : outcome ≠ .error (.error (.frameTooLarge length most)) := by
  cases ends with
  | sent busy all complete buffer => simp
  | disturbed busy outside part counted =>
      rintro ⟨⟩
      cases outside
  | balked made idle part short => simp
  | overrun busy member claimed => simp

theorem Ends.taken (ends : Ends frame calls (.ok (), last)) : acceptedBy calls = frame.pending := by
  cases ends with
  | sent busy all complete buffer => exact all

/-- The socket has taken a beginning of these bytes, and then nothing of what it was offered. -/
def Torn (image : Bytes) (calls : List SocketCall) : Prop :=
  acceptedBy calls <+: image ∧ acceptedBy calls ≠ image ∧ ∃ call ∈ calls, call.TakesNothing

theorem Ends.torn (ends : Ends frame calls (.error (.error .connectionClosed), last)) :
    Torn frame.pending calls := by
  cases ends with
  | disturbed busy outside part counted => cases outside
  | @balked before call last made idle part short =>
      exact ⟨part, short, call, by simp [made], idle⟩

theorem Ends.connectionClosed (ends : Ends frame calls result)
    (balked : ∃ call ∈ calls, call.TakesNothing) :
    result.1 = .error (.error .connectionClosed) := by
  obtain ⟨call, member, idle⟩ := balked
  cases ends with
  | sent busy all complete buffer => exact absurd idle (busy call member)
  | disturbed busy outside part counted => exact absurd idle (busy call member)
  | balked made other part short => rfl
  | overrun busy other claimed => exact absurd idle (busy call member)

end Outgoing

end FramedTransport
