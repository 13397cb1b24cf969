import FramedTransport.Frame.Incoming
import FramedTransport.Proofs.Wire

/-!
What a frame reader has in its buffer.
The bytes of the current frame that have arrived stand at the front of the
buffer, whatever stood there before; phase and progress follow from them. An
accepted count keeps this true, so a reader that is brought a byte string in any
pieces reads what the reference reads at once.
-/

namespace FramedTransport

namespace Progress

theorem advance_of_le {progress : Progress} {count : Nat} (positive : 0 < count)
    (room : count ≤ progress.remaining) :
    ∃ next, progress.advance count = .ok next ∧ next.expected = progress.expected ∧
      next.transferred = progress.transferred + count := by
  unfold advance
  rw [if_neg (Nat.ne_of_gt positive), dif_pos room]
  exact ⟨_, rfl, rfl, rfl⟩

@[simp] theorem advance_zero (progress : Progress) :
    progress.advance 0 = .error .connectionClosed := rfl

end Progress

namespace Incoming

/-- The reader holds `held`, the bytes of an unfinished or of a whole frame. -/
def Holds (frame : Incoming) (held : Bytes) : Prop :=
  0 < frame.chunk ∧ held <+: frame.buffer.bytes ∧
    match frame.phase with
    | .header progress =>
        progress.expected = FrameHeader.size ∧ progress.transferred = held.length ∧
          held.length < FrameHeader.size ∧ frame.buffer.length = FrameHeader.size
    | .payload header progress =>
        FrameHeader.peek held = some header ∧ header.payloadLength ≤ frame.maxPayload ∧
          progress.expected = header.payloadLength ∧
          held.length = FrameHeader.size + progress.transferred ∧
          progress.transferred < progress.expected
    | .dispatch header =>
        FrameHeader.peek held = some header ∧ header.payloadLength ≤ frame.maxPayload ∧
          held.length = header.frameLength ∧ frame.buffer.bytes = held
    | .closed => False

theorem holds_emptied (frame : Incoming) (chunky : 0 < frame.chunk) (stale : Buffer)
    (fresh : frame.phase = .fresh) (empty : frame.buffer = emptied stale) : frame.Holds [] := by
  have size : frame.buffer.length = FrameHeader.size := by
    rw [empty, emptied, Buffer.length_resize]
  simp [Holds, chunky, fresh, Phase.fresh, Progress.start, size, FrameHeader.size]

theorem holds_start (buffer : Buffer) (maxPayload : Nat) : (start buffer maxPayload).Holds [] := by
  refine holds_emptied _ ?_ buffer rfl rfl
  simp only [start, leastChunk]
  omega

theorem Holds.buffered {frame : Incoming} {held : Bytes} (holds : frame.Holds held) :
    frame.buffered = held.length := by
  obtain ⟨-, -, fits⟩ := holds
  unfold Incoming.buffered
  cases phase : frame.phase <;> simp only [phase] at fits
  case header progress => exact fits.2.1
  case payload header progress => exact fits.2.2.2.1.symm
  case dispatch header => exact fits.2.2.1.symm

@[simp] theorem phase_expose (frame : Incoming) : frame.expose.phase = frame.phase := by
  unfold expose
  dsimp only
  split <;> rfl

@[simp] theorem maxPayload_expose (frame : Incoming) :
    frame.expose.maxPayload = frame.maxPayload := by
  unfold expose
  dsimp only
  split <;> rfl

@[simp] theorem chunk_expose (frame : Incoming) : frame.expose.chunk = frame.chunk := by
  unfold expose
  dsimp only
  split <;> rfl

@[simp] theorem phase_write (frame : Incoming) (received : Bytes) :
    (frame.write received).phase = frame.phase := frame.phase_expose

@[simp] theorem maxPayload_write (frame : Incoming) (received : Bytes) :
    (frame.write received).maxPayload = frame.maxPayload := frame.maxPayload_expose

@[simp] theorem chunk_write (frame : Incoming) (received : Bytes) :
    (frame.write received).chunk = frame.chunk := frame.chunk_expose

theorem wantsBytes_write {frame : Incoming} (wants : frame.wantsBytes = true) (received : Bytes) :
    (frame.write received).wantsBytes = true := by
  simpa only [wantsBytes, phase_write] using wants

@[simp] theorem buffered_expose (frame : Incoming) : frame.expose.buffered = frame.buffered := by
  simp only [buffered, phase_expose]

theorem length_expose (frame : Incoming) :
    frame.expose.buffer.length = max frame.buffer.length frame.bounds.2 := by
  unfold expose
  dsimp only
  split
  · rw [Buffer.length_resize]
    omega
  · omega

theorem Holds.bounds {frame : Incoming} {held : Bytes} (holds : frame.Holds held)
    (wants : frame.wantsBytes = true) :
    frame.bounds.1 = held.length ∧ held.length < frame.bounds.2 := by
  obtain ⟨chunky, -, fits⟩ := holds
  cases phase : frame.phase <;> simp only [phase] at fits
  case header progress =>
    simp only [Incoming.bounds, phase]
    omega
  case payload header progress =>
    simp only [Incoming.bounds, phase, Progress.remaining]
    omega
  case dispatch header => simp [wantsBytes, phase] at wants

theorem Holds.windowLength_pos {frame : Incoming} {held : Bytes} (holds : frame.Holds held)
    (wants : frame.wantsBytes = true) : 0 < frame.windowLength := by
  have bounds := holds.bounds wants
  unfold windowLength
  omega

theorem wantsBytes_of_window {frame : Incoming} (room : 0 < frame.windowLength) :
    frame.wantsBytes = true := by
  unfold windowLength Incoming.bounds at room
  unfold wantsBytes
  split at room <;> simp_all

theorem Holds.front_write {frame : Incoming} {held received : Bytes} (holds : frame.Holds held)
    (wants : frame.wantsBytes = true) (fits : received.length ≤ frame.windowLength) :
    held ++ received <+: (frame.write received).buffer.bytes ∧
      (frame.write received).buffer.length = frame.expose.buffer.length := by
  have bounds := holds.bounds wants
  have room : held.length + received.length ≤ frame.expose.buffer.length := by
    rw [length_expose]
    unfold windowLength at fits
    omega
  have front : held <+: frame.expose.buffer.bytes := by
    unfold expose
    dsimp only
    split
    · exact Buffer.front_resize holds.2.1 (Nat.le_of_lt bounds.2)
    · exact holds.2.1
  have whole : received.take frame.windowLength = received := List.take_of_length_le fits
  simp only [write, bounds.1, whole]
  exact ⟨Buffer.front_overwrite front room, Buffer.length_overwrite ..⟩

/-- What an accepted count makes of a reader, by the bytes that it then holds. -/
def Took (limit : Nat) (held : Bytes) : Incoming × Except TransportError Unit → Prop
  | (next, .ok ()) => next.Holds held ∧ next.maxPayload = limit
  | (next, .error reason) =>
      next.phase = .closed ∧ ∃ header, FrameHeader.peek held = some header ∧
        limit < header.payloadLength ∧ reason = .frameTooLarge header.payloadLength limit

/-- A complete header opens a payload, is a whole frame by itself, or is refused. -/
theorem took_onHeader (frame : Incoming) {held : Bytes} (chunky : 0 < frame.chunk)
    (whole : frame.buffer.bytes = held) (size : held.length = FrameHeader.size) :
    Took frame.maxPayload held frame.onHeader := by
  obtain ⟨header, peeked⟩ : ∃ header, FrameHeader.peek held = some header := by
    simp [FrameHeader.peek, size]
  unfold onHeader
  simp only [whole, peeked]
  by_cases excess : frame.maxPayload < header.payloadLength
  · rw [if_pos excess]
    exact ⟨rfl, header, peeked, excess, rfl⟩
  · have fits := Nat.le_of_not_lt excess
    by_cases empty : header.payloadLength = 0
    · rw [if_neg excess, if_pos empty]
      refine ⟨⟨chunky, ?_, peeked, fits, ?_, whole⟩, rfl⟩
      · exact whole ▸ List.prefix_refl _
      · rw [FrameHeader.frameLength, empty, size, Nat.add_zero]
    · rw [if_neg excess, if_neg empty]
      refine ⟨⟨chunky, ?_, peeked, fits, rfl, size, ?_⟩, rfl⟩
      · exact whole ▸ List.prefix_refl _
      · exact Nat.pos_of_ne_zero empty

theorem Holds.took {frame : Incoming} {held : Bytes} (holds : frame.Holds held) (received : Bytes)
    (positive : 0 < received.length) (fits : received.length ≤ frame.windowLength) :
    Took frame.maxPayload (held ++ received)
      ((frame.write received).advance received.length) := by
  have wants := wantsBytes_of_window (Nat.lt_of_lt_of_le positive fits)
  have bounds := holds.bounds wants
  have written := holds.front_write wants fits
  have size : (held ++ received).length = held.length + received.length := List.length_append
  obtain ⟨chunky, -, known⟩ := holds
  cases phase : frame.phase with
  | header progress =>
      simp only [phase] at known
      obtain ⟨expected, transferred, -, length⟩ := known
      have length : (frame.write received).buffer.length = FrameHeader.size := by
        rw [written.2, length_expose, length]
        simp [Incoming.bounds, phase]
      have room : received.length ≤ progress.remaining := by
        simpa [windowLength, Incoming.bounds, phase, Progress.remaining, expected] using fits
      obtain ⟨next, accepted, kept, moved⟩ := Progress.advance_of_le positive room
      simp only [advance, phase_write, phase, accepted]
      by_cases complete : next.isComplete = true
      · simp only [complete, if_true]
        have filled : (held ++ received).length = FrameHeader.size := by
          simp only [Progress.isComplete, beq_iff_eq] at complete
          omega
        -- While a header is read the buffer is as long as a header, so all of it is held.
        have whole : (frame.write received).buffer.bytes = held ++ received :=
          (written.1.eq_of_length (filled.trans length.symm)).symm
        simpa using took_onHeader (frame.write received) (by simpa using chunky) whole filled
      · have below : next.transferred < next.expected := by
          have bound := next.transferred_le
          simp only [Progress.isComplete, beq_iff_eq] at complete
          omega
        simp only [complete, Bool.false_eq_true, if_false]
        refine ⟨⟨by simpa using chunky, written.1, ?_⟩, frame.maxPayload_write received⟩
        exact ⟨kept.trans expected, by omega, by omega, length⟩
  | payload header progress =>
      simp only [phase] at known
      obtain ⟨peeked, small, expected, place, below⟩ := known
      have room : received.length ≤ progress.remaining := by
        simp only [windowLength, Incoming.bounds, phase] at fits
        omega
      obtain ⟨next, accepted, kept, moved⟩ := Progress.advance_of_le positive room
      have stop : FrameHeader.size + next.transferred = (held ++ received).length := by omega
      -- Truncating cuts off what the window had left over, stale bytes included.
      have contents : (frame.write received).buffer.bytes.take (held ++ received).length =
          held ++ received := (List.prefix_iff_eq_take.1 written.1).symm
      have peekedNow := Wire.peek_append peeked received
      have bound := next.transferred_le
      simp only [advance, phase_write, phase, accepted, stop]
      refine ⟨⟨by simpa using chunky, ?_, ?_⟩, frame.maxPayload_write received⟩
      · exact ⟨[], (List.append_nil _).trans contents.symm⟩
      · by_cases complete : next.isComplete = true
        · simp only [complete, if_true]
          simp only [Progress.isComplete, beq_iff_eq] at complete
          refine ⟨peekedNow, by simpa using small, ?_, contents⟩
          rw [FrameHeader.frameLength]
          omega
        · simp only [complete, Bool.false_eq_true, if_false]
          simp only [Progress.isComplete, beq_iff_eq] at complete
          exact ⟨peekedNow, by simpa using small, by omega, by omega, by omega⟩
  | dispatch header => simp [wantsBytes, phase] at wants
  | closed => simp [wantsBytes, phase] at wants

theorem advance_nothing {frame : Incoming} (wants : frame.wantsBytes = true) :
    frame.advance 0 = ({ frame with phase := .closed }, .error .connectionClosed) := by
  unfold wantsBytes at wants
  unfold advance
  split at wants <;> simp_all [closeWith]

theorem Holds.waiting {frame : Incoming} {held : Bytes} (holds : frame.Holds held)
    (wants : frame.wantsBytes = true) :
    Wire.parse frame.maxPayload held = { frames := [], ending := .unfinished held } := by
  obtain ⟨-, -, known⟩ := holds
  cases phase : frame.phase <;> simp only [phase] at known
  case header progress => exact Wire.parse_short _ known.2.2.1
  case payload header progress =>
    obtain ⟨peeked, fits, expected, place, below⟩ := known
    refine Wire.parse_cut peeked fits ?_
    rw [FrameHeader.frameLength]
    omega
  case dispatch header => simp [wantsBytes, phase] at wants

theorem Holds.ready {frame : Incoming} {held : Bytes} (holds : frame.Holds held)
    (idle : frame.wantsBytes = false) :
    ∃ whole : WireFrame, frame.phase = .dispatch whole.header ∧
      frame.buffer.bytes = Wire.image whole.payload ∧ held = Wire.image whole.payload ∧
      whole.payload.length ≤ frame.maxPayload := by
  obtain ⟨-, -, known⟩ := holds
  cases phase : frame.phase <;> simp only [phase] at known
  case header progress => simp [wantsBytes, phase] at idle
  case payload header progress => simp [wantsBytes, phase] at idle
  case dispatch header =>
    obtain ⟨peeked, fits, size, contents⟩ := known
    obtain ⟨whole, rfl, image⟩ := Wire.exists_frame peeked size
    exact ⟨whole, rfl, contents.trans image, image, fits⟩

theorem frame?_of_dispatch {frame : Incoming} {whole : WireFrame}
    (phase : frame.phase = .dispatch whole.header)
    (contents : frame.buffer.bytes = Wire.image whole.payload) :
    frame.frame? = some (whole.header, whole.payload) := by
  have width := Bytes.length_bigEndian FrameHeader.size whole.payload.length
  simp only [frame?, phase, contents, Wire.image, List.drop_left' width]

theorem rearm_of_dispatch {frame : Incoming} {header : FrameHeader} (chunky : 0 < frame.chunk)
    (phase : frame.phase = .dispatch header) :
    ∃ next, frame.rearm = (next, .ok ()) ∧ next.Holds [] ∧ next.wantsBytes = true ∧
      next.maxPayload = frame.maxPayload := by
  refine ⟨{ frame with phase := .fresh, buffer := emptied frame.buffer }, ?_, ?_, rfl, rfl⟩
  · simp only [rearm, phase]
  · exact holds_emptied _ chunky frame.buffer rfl rfl

end Incoming

end FramedTransport
