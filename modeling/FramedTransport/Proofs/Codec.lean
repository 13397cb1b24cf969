import FramedTransport.Proofs.Wire
import Mathlib.Algebra.Group.Nat.Defs

/-!
The codec of single frames.
Encoding puts four bytes of length and then the payload behind whatever a buffer
holds, or refuses the payload and leaves the buffer as it was. Decoding takes what
encoding makes of an empty buffer and nothing else, so no byte string is a frame in
two ways and no frame is the beginning of another.
-/

namespace FramedTransport

namespace Frame

/-- How an encoding goes, and what its buffer is afterwards. -/
def appendTo (buffer : Buffer) (payload : Bytes) : Except TransportError FrameHeader × Buffer :=
  match FrameHeader.forPayload payload.length with
  | .error reason => (.error reason, buffer)
  | .ok header =>
      let roomy := buffer.reserve header.frameLength
      (.ok header, { roomy with bytes := roomy.bytes ++ (header.wire ++ payload) })

theorem encodeOnto_eq_appendTo (buffer : Buffer) (payload : Bytes) :
    encodeOnto buffer payload =
      (appendTo buffer payload).1.map fun header => (header, (appendTo buffer payload).2) := by
  simp only [encodeOnto, appendTo, bind, Except.bind]
  cases FrameHeader.forPayload payload.length <;> rfl

theorem appendTo_fits (buffer : Buffer) {payload : Bytes} (fits : payload.length < UInt32.size) :
    ∃ encoded, appendTo buffer payload = (.ok ⟨payload.length, fits⟩, encoded) ∧
      encoded.bytes = buffer.bytes ++ Wire.image payload := by
  refine ⟨_, by simp only [appendTo, FrameHeader.forPayload, fits, dite_true]; rfl, ?_⟩
  simp [FrameHeader.wire, Wire.image]

theorem appendTo_excessive (buffer : Buffer) {payload : Bytes}
    (excess : UInt32.size ≤ payload.length) :
    appendTo buffer payload =
      (.error (.frameTooLarge payload.length FrameHeader.greatestPayload), buffer) := by
  simp only [appendTo, FrameHeader.forPayload, Nat.not_lt.2 excess, dite_false]

theorem appendTo_eq_ok {buffer encoded : Buffer} {payload : Bytes} {header : FrameHeader}
    (made : appendTo buffer payload = (.ok header, encoded)) :
    ∃ fits : payload.length < UInt32.size, header = ⟨payload.length, fits⟩ ∧
      encoded.bytes = buffer.bytes ++ Wire.image payload := by
  by_cases fits : payload.length < UInt32.size
  · obtain ⟨other, same, image⟩ := appendTo_fits buffer fits
    rw [same] at made
    cases made
    exact ⟨fits, rfl, image⟩
  · rw [appendTo_excessive buffer (Nat.le_of_not_lt fits)] at made
    cases made

theorem decode_image (frame : WireFrame) :
    decode (Wire.image frame.payload) = .ok (frame.header, frame.payload) := by
  have peeked : FrameHeader.peek (Wire.image frame.payload) = some frame.header := by
    simpa using Wire.peek_image frame []
  have whole : (Wire.image frame.payload).length = frame.header.frameLength :=
    Wire.length_image frame.payload
  have behind : (Wire.image frame.payload).drop FrameHeader.size = frame.payload :=
    List.drop_left' (Bytes.length_bigEndian _ _)
  simp only [decode, peeked, whole, if_true, behind]

theorem decode_eq_ok_iff {bytes payload : Bytes} {header : FrameHeader} :
    decode bytes = .ok (header, payload) ↔
      ∃ frame : WireFrame, frame.header = header ∧ frame.payload = payload ∧
        bytes = Wire.image payload := by
  constructor
  · intro decoded
    cases peeked : FrameHeader.peek bytes with
    | none =>
        simp only [decode, peeked] at decoded
        cases decoded
    | some declared =>
        by_cases whole : bytes.length = declared.frameLength
        · obtain ⟨frame, same, image⟩ := Wire.exists_frame peeked whole
          rw [image, decode_image] at decoded
          cases decoded
          exact ⟨frame, rfl, rfl, image⟩
        · simp only [decode, peeked, whole, if_false] at decoded
          cases decoded
  · rintro ⟨frame, rfl, rfl, rfl⟩
    exact decode_image frame

theorem decode_eq_error {bytes : Bytes} {reason : TransportError}
    (refused : decode bytes = .error reason) :
    (bytes.length < FrameHeader.size ∧ reason = .malformedFrame "shorter than header") ∨
      (FrameHeader.size ≤ bytes.length ∧
        reason = .malformedFrame "length field does not match frame size") := by
  cases peeked : FrameHeader.peek bytes with
  | none =>
      simp only [decode, peeked, Except.error.injEq] at refused
      refine Or.inl ⟨Nat.lt_of_not_le fun enough => ?_, refused.symm⟩
      simp only [FrameHeader.peek, enough, dite_true, reduceCtorEq] at peeked
  | some declared =>
      simp only [decode, peeked] at refused
      split at refused
      · cases refused
      · cases refused
        exact Or.inr ⟨(Wire.peek_eq_some.1 peeked).1, rfl⟩

/-- Decoding and encoding are each other's inverses, on all byte strings, all payloads and all
destinations: what encoding makes of an empty buffer is decoded to the payload and the header that
it was made of, every other byte string is malformed, encoding changes nothing that stands in its
buffer already, and no frame is a proper beginning of another. -/
theorem codec_exact :
    (∀ buffer payload, encodeOnto buffer payload =
      (appendTo buffer payload).1.map fun header => (header, (appendTo buffer payload).2)) ∧
    (∀ bytes header payload, decode bytes = .ok (header, payload) ↔
      payload.length ≤ 2 ^ 32 - 1 ∧ ∀ empty : Buffer, empty.bytes = [] →
        ∃ encoded, appendTo empty payload = (.ok header, encoded) ∧ encoded.bytes = bytes) ∧
    (∀ bytes header payload, decode bytes = .ok (header, payload) →
      header.frameLength = bytes.length) ∧
    (∀ bytes reason, decode bytes = .error reason →
      ∃ detail, reason = .malformedFrame detail ∧
        (detail = "shorter than header" ↔ bytes.length < 4)) ∧
    (∀ destination payload, payload.length ≤ 2 ^ 32 - 1 →
      ∃ header encoded, appendTo destination payload = (.ok header, encoded) ∧
        header.payloadLength = payload.length ∧
        encoded.bytes = destination.bytes ++ (Bytes.bigEndian 4 payload.length ++ payload)) ∧
    (∀ destination payload, 2 ^ 32 - 1 < payload.length →
      appendTo destination payload =
        (.error (.frameTooLarge payload.length (2 ^ 32 - 1)), destination)) ∧
    (∀ first second header other (made more : Buffer),
      appendTo {} first = (.ok header, made) → appendTo {} second = (.ok other, more) →
        made.bytes <+: more.bytes → first = second) := by
  have widest : UInt32.size = 2 ^ 32 := rfl
  refine ⟨encodeOnto_eq_appendTo, ?_, ?_, ?_, ?_, ?_, ?_⟩
  · intro bytes header payload
    rw [decode_eq_ok_iff]
    constructor
    · rintro ⟨frame, rfl, rfl, rfl⟩
      refine ⟨by have fits := frame.payload_lt; omega, ?_⟩
      intro empty nothing
      obtain ⟨encoded, made, image⟩ := appendTo_fits empty frame.payload_lt
      exact ⟨encoded, made, by simpa [nothing] using image⟩
    · rintro ⟨-, encodes⟩
      obtain ⟨encoded, made, rfl⟩ := encodes {} rfl
      obtain ⟨fits, rfl, image⟩ := appendTo_eq_ok made
      exact ⟨⟨payload, fits⟩, rfl, rfl, by simpa using image⟩
  · intro bytes header payload decoded
    obtain ⟨frame, rfl, rfl, rfl⟩ := decode_eq_ok_iff.1 decoded
    exact (Wire.length_image frame.payload).symm
  · intro bytes reason refused
    rcases decode_eq_error refused with ⟨short, rfl⟩ | ⟨enough, rfl⟩
    · exact ⟨_, rfl, iff_of_true rfl short⟩
    · exact ⟨_, rfl, iff_of_false (by decide) (Nat.not_lt.2 enough)⟩
  · intro destination payload fits
    obtain ⟨encoded, made, image⟩ := appendTo_fits destination
      (show payload.length < UInt32.size by omega)
    exact ⟨_, encoded, made, rfl, image⟩
  · intro destination payload excess
    exact appendTo_excessive destination (by omega)
  · intro first second header other made more one two begins
    obtain ⟨fits, -, image⟩ := appendTo_eq_ok one
    obtain ⟨suits, -, picture⟩ := appendTo_eq_ok two
    obtain ⟨rest, longer⟩ := begins
    rw [image, picture, List.nil_append, List.nil_append, ← List.append_nil (Wire.image second)]
      at longer
    exact congrArg WireFrame.payload
      (@Wire.image_append_inj ⟨first, fits⟩ ⟨second, suits⟩ rest [] longer)

end Frame

end FramedTransport
