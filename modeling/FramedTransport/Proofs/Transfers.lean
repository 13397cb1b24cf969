import FramedTransport.Proofs.Reading
import FramedTransport.Proofs.Traffic
import FramedTransport.Stream.Transfer

/-!
What the transfer loops move.
Filling takes from the link exactly the bytes that it puts into the frame, and
ends as the reference does unless something outside the bytes cuts it short.
Pushing gives the link exactly the bytes that it counts as sent.
-/

namespace FramedTransport

namespace Incoming

/-- How filling leaves a frame that held `held`, after it has taken `got` from the link. -/
-- A frame that is cut off from outside still counts every byte it has taken; one that has ended
-- by itself is closed and counts none, so nothing is said of its count.
def Filled (limit : Nat) (link : Link) (held got : Bytes) : Outcome Unit × Incoming → Link → Prop
  | (.ok (), frame), next =>
      frame.Holds (held ++ got) ∧ frame.wantsBytes = false ∧ frame.maxPayload = limit ∧
        link.input = got ++ next.input
  | (.error (.error reason), frame), _ =>
      (reason.disturbs = true ∧ frame.buffered = (held ++ got).length) ∨
        ∃ ending, Wire.parse limit (held ++ link.input) = { frames := [], ending } ∧
          reason = ending.reason limit
  | (.error (.abort _), _), _ => False
  | (.error .stalled, _), _ => ¬ link.reads.Moves

theorem endInside_closed (held : Bytes) (limit : Nat) :
    endInside held.length .connectionClosed = (Wire.Ending.unfinished held).reason limit := by
  cases held <;> simp [endInside, Wire.Ending.reason]

theorem Filled.after_read {limit : Nat} {link next last : Link} {held received got : Bytes}
    {result : Outcome Unit × Incoming} (input : link.input = received ++ next.input)
    (moves : link.reads.Moves → next.reads.Moves)
    (filled : Filled limit next (held ++ received) got result last) :
    Filled limit link held (received ++ got) result last := by
  obtain ⟨outcome, frame⟩ := result
  cases outcome with
  | ok value =>
      obtain ⟨holds, idle, same, rest⟩ := filled
      refine ⟨?_, idle, same, ?_⟩
      · rwa [← List.append_assoc]
      · rw [input, rest, List.append_assoc]
  | error halt =>
      cases halt with
      | error reason =>
          rcases filled with ⟨disturbs, buffered⟩ | ⟨ending, parsed, named⟩
          · exact Or.inl ⟨disturbs, by rwa [← List.append_assoc]⟩
          · exact Or.inr ⟨ending, by rwa [input, ← List.append_assoc], named⟩
      | abort reason => exact filled
      | stalled => exact fun still => filled (moves still)

theorem fill_spec {frame : Incoming} {held : Bytes} (holds : frame.Holds held) (watch : Watch)
    (link : Link) :
    ∃ got, link.inbound = got ++ (fill watch frame link).2.inbound ∧
      Filled frame.maxPayload link held got (fill watch frame link).1 (fill watch frame link).2 := by
  -- Every accepted count moves what was read from the link behind what the frame holds.
  fun_induction fill watch frame link generalizing held with
  | case1 frame link wants halt next stopped =>
      have read := Link.read_spec watch frame.windowLength link
      rw [stopped] at read
      obtain ⟨kept, -, outside, stalled⟩ := read
      refine ⟨[], kept, ?_⟩
      cases halt with
      | error reason => exact Or.inl ⟨outside, by simp [holds.buffered]⟩
      | abort reason => exact outside
      | stalled => exact stalled rfl
  | case2 frame link wants received next arrived after reason refused =>
      have read := Link.read_spec watch frame.windowLength link
      rw [arrived] at read
      obtain ⟨fits, kept, present_input, empty_input⟩ := read
      refine ⟨received, kept, Or.inr ?_⟩
      rw [holds.buffered]
      -- A count is refused for one of two reasons: the stream is over, or a header says too much.
      by_cases present : received = []
      · subst present
        have ended := empty_input rfl (holds.windowLength_pos wants)
        have closed := advance_nothing (wantsBytes_write wants [])
        obtain ⟨-, rfl⟩ : _ ∧ TransportError.connectionClosed = reason := by
          simpa [closed] using refused
        refine ⟨.unfinished held, ?_, endInside_closed held frame.maxPayload⟩
        rw [ended, List.append_nil]
        exact holds.waiting wants
      · have took := holds.took received (List.length_pos_iff.2 present) fits
        rw [refused] at took
        obtain ⟨-, header, peeked, excess, rfl⟩ := took
        refine ⟨.oversize header.payloadLength, ?_, by simp [endInside, Wire.Ending.reason]⟩
        rw [present_input present, ← List.append_assoc]
        exact Wire.parse_oversize (Wire.peek_append peeked next.input) excess
  | case3 frame link wants received next arrived after accepted ih =>
      have read := Link.read_spec watch frame.windowLength link
      have still : link.reads.Moves → (link.read watch frame.windowLength).2.reads.Moves :=
        Link.moves_read watch frame.windowLength
      rw [arrived] at read still
      obtain ⟨fits, kept, present_input, -⟩ := read
      have counted := advance_count accepted
      have took := holds.took received counted fits
      rw [accepted] at took
      obtain ⟨got, rest, filled⟩ := ih took.1
      rw [took.2] at filled
      refine ⟨received ++ got, ?_, filled.after_read (present_input ?_) still⟩
      · rw [kept, rest, List.append_assoc]
      · exact List.length_pos_iff.1 counted
  | case4 frame link idle header ready =>
      exact ⟨[], rfl, by simpa using holds, by simpa using idle, rfl, rfl⟩
  | case5 frame link idle undispatched =>
      obtain ⟨whole, dispatch, -⟩ := holds.ready (by simpa using idle)
      exact absurd dispatch (undispatched _)

theorem progress_undisturbed {progress : Progress} {count : Nat} {reason : TransportError}
    (refused : progress.advance count = .error reason) : reason.disturbs = false := by
  unfold Progress.advance at refused
  split at refused
  · cases refused
    rfl
  · split at refused
    · cases refused
    · cases refused
      rfl

theorem advance_undisturbed {frame next : Incoming} {count : Nat} {reason : TransportError}
    (refused : frame.advance count = (next, .error reason)) : reason.disturbs = false := by
  unfold advance at refused
  split at refused
  · split at refused
    · rename_i taken
      cases refused
      exact progress_undisturbed taken
    · split at refused
      · unfold onHeader at refused
        split at refused
        · cases refused
          rfl
        · split at refused
          · cases refused
            rfl
          · split at refused <;> cases refused
      · cases refused
  · split at refused
    · rename_i taken
      cases refused
      exact progress_undisturbed taken
    · cases refused
  · cases refused
    rfl
  · cases refused
    rfl

theorem fill_calm (watch : Watch) (frame : Incoming) {link : Link} (calm : link.Calm) :
    (fill watch frame link).2.Calm ∧
      ∀ halt, (fill watch frame link).1.1 = .error halt →
        ∃ reason, halt = .error reason ∧ reason.disturbs = false := by
  fun_induction fill watch frame link with
  | case1 frame link wants halt next stopped =>
      obtain ⟨received, other, arrived, -⟩ := calm.read watch frame.windowLength
      simp [arrived] at stopped
  | case2 frame link wants received next arrived after reason refused =>
      obtain ⟨_, other, same, still⟩ := calm.read watch frame.windowLength
      obtain ⟨-, rfl⟩ : _ ∧ other = next := by simpa [same] using arrived
      refine ⟨still, ?_⟩
      rintro halt ⟨⟩
      refine ⟨_, rfl, ?_⟩
      unfold endInside
      split
      · rfl
      · exact advance_undisturbed refused
  | case3 frame link wants received next arrived after accepted ih =>
      obtain ⟨_, other, same, still⟩ := calm.read watch frame.windowLength
      obtain ⟨-, rfl⟩ : _ ∧ other = next := by simpa [same] using arrived
      exact ih still
  | case4 frame link idle header ready => exact ⟨calm, by simp⟩
  | case5 frame link idle undispatched =>
      refine ⟨calm, ?_⟩
      rintro halt ⟨⟩
      exact ⟨_, rfl, rfl⟩

theorem fill_calm_frame {frame : Incoming} (holds : frame.Holds []) (watch : Watch) {link : Link}
    (calm : link.Calm) {whole : WireFrame} {rest : Bytes}
    (input : link.input = Wire.image whole.payload ++ rest)
    (fits : whole.payload.length ≤ frame.maxPayload) :
    ∃ filled next, fill watch frame link = ((.ok (), filled), next) ∧
      filled.phase = .dispatch whole.header ∧
      filled.buffer.bytes = Wire.image whole.payload := by
  obtain ⟨got, -, ended⟩ := fill_spec holds watch link
  obtain ⟨-, undisturbed⟩ := fill_calm watch frame calm
  cases result : fill watch frame link with
  | mk outcome next =>
      obtain ⟨outcome, filled⟩ := outcome
      rw [result] at ended undisturbed
      cases outcome with
      | ok value =>
          obtain ⟨held, idle, -, taken⟩ := ended
          obtain ⟨found, phase, contents, image, -⟩ := held.ready idle
          rw [List.nil_append] at image
          rw [input, image] at taken
          obtain rfl := Wire.image_append_inj taken
          exact ⟨filled, next, rfl, phase, contents⟩
      | error halt =>
          obtain ⟨reason, rfl, quiet⟩ := undisturbed halt rfl
          rcases ended with ⟨disturbs, -⟩ | ⟨ending, parsed, -⟩
          · simp [quiet] at disturbs
          · rw [List.nil_append, input, Wire.parse_image whole fits] at parsed
            cases parsed

@[simp] theorem outlet_fill (watch : Watch) (frame : Incoming) (link : Link) :
    (fill watch frame link).2.outlet = link.outlet := by
  fun_induction fill watch frame link with
  | case1 frame link wants halt next stopped =>
      have kept := Link.outlet_read watch frame.windowLength link
      rwa [stopped] at kept
  | case2 frame link wants received next arrived after reason refused =>
      have kept := Link.outlet_read watch frame.windowLength link
      rwa [arrived] at kept
  | case3 frame link wants received next arrived after accepted ih =>
      have kept := Link.outlet_read watch frame.windowLength link
      rw [arrived] at kept
      exact ih.trans kept
  | case4 frame link idle header ready => rfl
  | case5 frame link idle undispatched => rfl

theorem moves_fill (watch : Watch) (frame : Incoming) {link : Link} (moves : link.reads.Moves) :
    (fill watch frame link).2.reads.Moves := by
  fun_induction fill watch frame link with
  | case1 frame link wants halt next stopped =>
      have still := Link.moves_read watch frame.windowLength moves
      rwa [stopped] at still
  | case2 frame link wants received next arrived after reason refused =>
      have still := Link.moves_read watch frame.windowLength moves
      rwa [arrived] at still
  | case3 frame link wants received next arrived after accepted ih =>
      have still := Link.moves_read watch frame.windowLength moves
      rw [arrived] at still
      exact ih still
  | case4 frame link idle header ready => exact moves
  | case5 frame link idle undispatched => exact moves

end Incoming

namespace Outgoing

/-- The buffer holds exactly what is to be sent. -/
def Whole (frame : Outgoing) : Prop := frame.buffer.length = frame.progress.expected

theorem Whole.length_pending {frame : Outgoing} (whole : frame.Whole) :
    frame.pending.length = frame.progress.remaining := by
  unfold Whole Buffer.length at whole
  rw [pending, List.length_drop, whole, Progress.remaining, sent]

theorem pending_of_isComplete {frame : Outgoing} (whole : frame.Whole)
    (complete : frame.isComplete = true) : frame.pending = [] := by
  rw [← List.length_eq_zero_iff, whole.length_pending, Progress.remaining]
  simp only [isComplete, Progress.isComplete, beq_iff_eq] at complete
  omega

/-- A payload in an empty buffer is all that there is to send. -/
-- Stale bytes in the buffer would be sent in front of the payload.
theorem whole_append {buffer : Buffer} (empty : buffer.bytes = []) (payload : Bytes) :
    let frame : Outgoing :=
      { buffer := buffer.append payload, progress := Progress.start payload.length }
    frame.Whole ∧ frame.pending = payload := by
  constructor
  · simp [Whole, Buffer.length, empty, Progress.start]
  · simp [pending, sent, empty, Progress.start]

theorem encode_eq_ok {buffer : Buffer} {payload : Bytes} {maxPayload : Nat} {frame : Outgoing}
    (encoded : encode buffer payload maxPayload = .ok frame) :
    frame.Whole ∧ frame.sent = 0 ∧ frame.pending = Wire.image payload ∧
      payload.length < UInt32.size := by
  unfold encode at encoded
  split at encoded
  · cases encoded
  · cases made : Frame.encodeOnto buffer.clear payload with
    | error reason => simp [made, bind, Except.bind] at encoded
    | ok result =>
        obtain ⟨header, filled⟩ := result
        obtain ⟨length, bytes⟩ := Frame.encodeOnto_eq_ok made
        rw [Buffer.bytes_clear, List.nil_append] at bytes
        simp only [made, bind, Except.bind, pure, Except.pure, Except.ok.injEq] at encoded
        subst encoded
        refine ⟨?_, rfl, bytes, length ▸ header.payloadLength_lt⟩
        rw [Whole, Buffer.length, bytes, Wire.length_image, Progress.start, FrameHeader.frameLength,
          length]

theorem encode_ok (buffer : Buffer) {payload : Bytes} {maxPayload : Nat}
    (small : payload.length ≤ maxPayload) (fits : payload.length < UInt32.size) :
    ∃ frame, encode buffer payload maxPayload = .ok frame := by
  obtain ⟨encoded, made, -⟩ := Frame.encodeOnto_ok buffer.clear fits
  simp [encode, Nat.not_lt.2 small, made, bind, Except.bind, pure, Except.pure]

theorem encode_undisturbed {buffer : Buffer} {payload : Bytes} {maxPayload : Nat}
    {reason : TransportError} (refused : encode buffer payload maxPayload = .error reason) :
    reason.disturbs = false := by
  by_cases small : payload.length ≤ maxPayload
  · by_cases fits : payload.length < UInt32.size
    · obtain ⟨frame, encoded⟩ := encode_ok buffer small fits
      simp [encoded] at refused
    · simp only [encode, Nat.not_lt.2 small, if_false, Frame.encodeOnto, FrameHeader.forPayload, fits,
        dif_neg, not_false_eq_true, bind, Except.bind, Except.error.injEq] at refused
      subst refused
      rfl
  · simp only [encode, Nat.lt_of_not_le small, if_true, Except.error.injEq] at refused
    subst refused
    rfl

theorem Whole.advance {frame : Outgoing} (whole : frame.Whole) (count : Nat) :
    (∃ next, frame.advance count = .ok next ∧ 0 < count ∧ count ≤ frame.pending.length ∧
        next.Whole ∧ next.buffer = frame.buffer ∧ next.sent = frame.sent + count ∧
        frame.pending = frame.pending.take count ++ next.pending) ∨
      ((∃ reason, frame.advance count = .error reason) ∧
        (count = 0 ∨ frame.pending.length < count)) := by
  rw [whole.length_pending]
  by_cases accepted : 0 < count ∧ count ≤ frame.progress.remaining
  · obtain ⟨positive, room⟩ := accepted
    obtain ⟨progress, advanced, expected, transferred⟩ := Progress.advance_of_le positive room
    refine Or.inl ⟨{ frame with progress }, ?_, positive, room, ?_, rfl, transferred, ?_⟩
    · simp [Outgoing.advance, advanced, bind, Except.bind, pure, Except.pure]
    · exact whole.trans expected.symm
    · simp only [pending, sent, transferred]
      rw [← List.drop_drop, List.take_append_drop]
  · refine Or.inr ⟨?_, by omega⟩
    unfold Outgoing.advance Progress.advance
    split
    · exact ⟨_, rfl⟩
    · split
      · omega
      · exact ⟨_, rfl⟩

theorem writes_push (watch : Watch) (frame : Outgoing) (link : Link) :
    (push watch frame link).2.writes <:+ link.writes := by
  fun_induction push watch frame link with
  | case1 frame link complete flushed next ended =>
      obtain ⟨-, -, kept, -⟩ := Link.flush_spec watch link
      rw [ended] at kept
      exact kept ▸ List.suffix_refl _
  | case2 frame link incomplete halt next stopped =>
      have kept := Link.writes_write watch frame.pending link
      rwa [stopped] at kept
  | case3 frame link incomplete count next taken reason refused =>
      have kept := Link.writes_write watch frame.pending link
      rwa [taken] at kept
  | case4 frame link incomplete count next taken after accepted ih =>
      have kept := Link.writes_write watch frame.pending link
      rw [taken] at kept
      exact ih.trans kept

@[simp] theorem reads_push (watch : Watch) (frame : Outgoing) (link : Link) :
    (push watch frame link).2.reads = link.reads := by
  fun_induction push watch frame link with
  | case1 frame link complete flushed next ended =>
      obtain ⟨-, kept, -⟩ := Link.flush_spec watch link
      rwa [ended] at kept
  | case2 frame link incomplete halt next stopped =>
      have kept := Link.reads_write watch frame.pending link
      rwa [stopped] at kept
  | case3 frame link incomplete count next taken reason refused =>
      have kept := Link.reads_write watch frame.pending link
      rwa [taken] at kept
  | case4 frame link incomplete count next taken after accepted ih =>
      have kept := Link.reads_write watch frame.pending link
      rw [taken] at kept
      exact ih.trans kept

/-- How pushing leaves a frame, after the link has taken `sent` of it. -/
structure Pushed (link : Link) (frame : Outgoing) (sent : Bytes)
    (result : Outcome Unit × Outgoing) (next : Link) : Prop where
  written : next.written = link.written ++ sent
  pending : frame.pending = sent ++ result.2.pending
  counted : result.2.sent = frame.sent + sent.length
  buffer : result.2.buffer = frame.buffer
  whole : result.2.Whole
  complete : result.1 = .ok () → result.2.isComplete = true
  unbroken : ∀ reason, result.1 ≠ .error (.abort reason)

theorem Pushed.nothing {link next : Link} {frame : Outgoing} {outcome : Outcome Unit}
    (whole : frame.Whole) (written : next.written = link.written)
    (complete : outcome = .ok () → frame.isComplete = true)
    (unbroken : ∀ reason, outcome ≠ .error (.abort reason)) :
    Pushed link frame [] (outcome, frame) next where
  written := by simpa using written
  pending := rfl
  counted := rfl
  buffer := rfl
  whole
  complete
  unbroken

theorem push_spec {frame : Outgoing} (whole : frame.Whole) (watch : Watch) {link : Link}
    (sincere : link.Sincere) :
    ∃ sent, Pushed link frame sent (push watch frame link).1 (push watch frame link).2 := by
  fun_induction push watch frame link with
  | case1 frame link complete flushed next ended =>
      obtain ⟨written, -, -, halted⟩ := Link.flush_spec watch link
      rw [ended] at written halted
      exact ⟨[], .nothing whole written (fun _ => complete) fun reason broken =>
        (halted _ broken).1⟩
  | case2 frame link incomplete halt next stopped =>
      have write := Link.write_spec watch frame.pending link
      rw [stopped] at write
      obtain ⟨written, outside, -⟩ := write
      refine ⟨[], .nothing whole written (by simp) ?_⟩
      rintro reason ⟨⟩
      exact outside
  | case3 frame link incomplete count next taken reason refused =>
      have write := Link.write_spec watch frame.pending link
      rw [taken] at write
      -- What is refused is nothing, or a claim that no byte stands behind.
      have written : next.written = link.written := by
        rcases write with ⟨written, fits, -⟩ | ⟨written, -⟩
        · rcases whole.advance count with ⟨after, accepted, -⟩ | ⟨-, none | excess⟩
          · simp [refused] at accepted
          · simpa [none] using written
          · omega
        · exact written
      exact ⟨[], .nothing whole written (by simp) (by simp)⟩
  | case4 frame link incomplete count next taken after accepted ih =>
      have write := Link.write_spec watch frame.pending link
      have kept := Link.writes_write watch frame.pending link
      rw [taken] at write kept
      rcases whole.advance count with ⟨other, same, positive, fits, wholeNext, buffer, counted, split⟩ |
        ⟨⟨reason, refused⟩, -⟩
      · obtain rfl : other = after := by simpa [same] using accepted
        have written : next.written = link.written ++ frame.pending.take count := by
          rcases write with ⟨written, -⟩ | ⟨-, surplus, claimed, beyond⟩
          · exact written
          · -- Only a claim of exactly what was offered could be both untrue and accepted.
            obtain rfl : surplus = 0 := by omega
            exact absurd claimed sincere
        obtain ⟨sent, pushed⟩ := ih wholeNext (sincere.of_suffix kept)
        exact ⟨frame.pending.take count ++ sent,
          { written := by rw [pushed.written, written, List.append_assoc]
            pending := by rw [List.append_assoc, ← pushed.pending]; exact split
            counted := by
              rw [pushed.counted, counted, List.length_append, List.length_take_of_le fits]
              omega
            buffer := pushed.buffer.trans buffer
            whole := pushed.whole
            complete := pushed.complete
            unbroken := pushed.unbroken }⟩
      · simp [refused] at accepted

/-- A send gives its link the beginning of `image`, all of it if it succeeds and nothing of it if
it is refused. -/
def Sent {β : Type} (link : Link) (image : Bytes) : Outcome β → Link → Prop
  | .ok _, next => next.written = link.written ++ image
  | .error (.error _), next => ∃ torn, torn <+: image ∧ next.written = link.written ++ torn
  | .error (.abort _), next => next.written = link.written
  | .error .stalled, _ => True

theorem push_sent {frame : Outgoing} (whole : frame.Whole) (watch : Watch) {link : Link}
    (sincere : link.Sincere) :
    Sent link frame.pending (push watch frame link).1.1 (push watch frame link).2 := by
  obtain ⟨sent, pushed⟩ := push_spec whole watch sincere
  cases outcome : (push watch frame link).1.1 with
  | ok value =>
      have complete := pending_of_isComplete pushed.whole (pushed.complete outcome)
      have all := pushed.pending
      rw [complete, List.append_nil] at all
      rw [all]
      exact pushed.written
  | error halt =>
      cases halt with
      | error reason => exact ⟨sent, ⟨_, pushed.pending.symm⟩, pushed.written⟩
      | abort reason => exact absurd outcome (pushed.unbroken reason)
      | stalled => trivial

theorem pending_ne_nil {frame : Outgoing} (whole : frame.Whole)
    (incomplete : ¬ frame.isComplete = true) : frame.pending ≠ [] := by
  intro empty
  have nothing := whole.length_pending
  have bound := frame.progress.transferred_le
  simp only [empty, List.length_nil, Progress.remaining] at nothing
  simp only [isComplete, Progress.isComplete, beq_iff_eq] at incomplete
  omega

theorem Whole.accepts {frame : Outgoing} (whole : frame.Whole)
    (incomplete : ¬ frame.isComplete = true) {watch : Watch} {link next : Link}
    (willing : link.Willing) {count : Nat}
    (taken : link.write watch frame.pending = (.ok count, next)) {reason : TransportError} :
    frame.advance count ≠ .error reason := by
  intro refused
  have write := Link.write_spec watch frame.pending link
  rw [taken] at write
  rcases write with ⟨-, fits, positive⟩ | ⟨-, surplus, claimed, -⟩
  · have some_taken := positive willing (pending_ne_nil whole incomplete)
    rcases whole.advance count with ⟨after, accepted, -⟩ | ⟨-, none | excess⟩
    · simp [refused] at accepted
    · omega
    · omega
  · exact willing _ claimed

theorem push_calm {frame : Outgoing} (whole : frame.Whole) (watch : Watch) {link : Link}
    (calm : link.Calm) :
    (push watch frame link).1.1 = .ok () ∧ (push watch frame link).2.Calm := by
  fun_induction push watch frame link with
  | case1 frame link complete flushed next ended =>
      obtain ⟨other, same, still⟩ := calm.flush watch
      obtain ⟨rfl, rfl⟩ : .ok () = flushed ∧ other = next := by simpa [same] using ended
      exact ⟨rfl, still⟩
  | case2 frame link incomplete halt next stopped =>
      obtain ⟨count, other, same, -⟩ := calm.write watch frame.pending
      simp [same] at stopped
  | case3 frame link incomplete count next taken reason refused =>
      exact absurd refused (whole.accepts incomplete calm.willing taken)
  | case4 frame link incomplete count next taken after accepted ih =>
      obtain ⟨_, other, same, still⟩ := calm.write watch frame.pending
      obtain ⟨-, rfl⟩ : _ ∧ other = next := by simpa [same] using taken
      rcases whole.advance count with ⟨later, again, -, -, wholeNext, -⟩ | ⟨⟨reason, refused⟩, -⟩
      · obtain rfl : later = after := by simpa [again] using accepted
        exact ih wholeNext still
      · simp [refused] at accepted

/-- Nothing but the outside keeps a willing link from taking a whole frame. -/
theorem push_outside {frame : Outgoing} (whole : frame.Whole) (watch : Watch) {link : Link}
    (willing : link.Willing) {halt : Halt} (halted : (push watch frame link).1.1 = .error halt) :
    halt.Outside ∧ (halt = .stalled → watch.dueAt = none) := by
  fun_induction push watch frame link with
  | case1 frame link complete flushed next ended =>
      obtain ⟨-, -, -, outside⟩ := Link.flush_spec watch link
      rw [ended] at outside
      exact outside halt halted
  | case2 frame link incomplete other next stopped =>
      have write := Link.write_spec watch frame.pending link
      rw [stopped] at write
      obtain rfl : other = halt := by simpa using halted
      exact write.2
  | case3 frame link incomplete count next taken reason refused =>
      exact absurd refused (whole.accepts incomplete willing taken)
  | case4 frame link incomplete count next taken after accepted ih =>
      have kept := Link.writes_write watch frame.pending link
      rw [taken] at kept
      rcases whole.advance count with ⟨other, same, -, -, wholeNext, -⟩ | ⟨⟨reason, refused⟩, -⟩
      · obtain rfl : other = after := by simpa [same] using accepted
        exact ih wholeNext (willing.of_suffix kept) halted
      · simp [refused] at accepted

end Outgoing

end FramedTransport
