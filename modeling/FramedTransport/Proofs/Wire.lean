import FramedTransport.Proofs.Buffers
import FramedTransport.Frame

/-!
The reference for everything that reads or writes frames.
A byte string is a sequence of frames and what follows the last of them: nothing,
the beginning of a frame, or a header that declares more than the limit. No
state, no buffer and no order of arrival enters here.
-/

namespace FramedTransport

/-- A payload that four bytes can announce. -/
structure WireFrame where
  payload : Bytes
  payload_lt : payload.length < UInt32.size
deriving DecidableEq, Repr

namespace WireFrame

def header (frame : WireFrame) : FrameHeader := ⟨frame.payload.length, frame.payload_lt⟩

end WireFrame

namespace Wire

/-- The bytes of a payload on the wire: its length in four bytes, then itself. -/
def image (payload : Bytes) : Bytes :=
  Bytes.bigEndian FrameHeader.size payload.length ++ payload

inductive Ending where
  | unfinished (held : Bytes)
  | oversize (length : Nat)
deriving DecidableEq, Repr

/-- What a reader that has come to this ending at the end of its stream reports. -/
def Ending.reason (limit : Nat) : Ending → TransportError
  | .unfinished [] => .connectionClosed
  | .unfinished (_ :: _) => .malformedFrame "connection closed mid-frame"
  | .oversize length => .frameTooLarge length limit

theorem Ending.unrecoverable (ending : Ending) (limit : Nat) :
    (ending.reason limit).isRecoverable = false := by
  cases ending with
  | unfinished held => cases held <;> rfl
  | oversize length => rfl

structure Parsed where
  frames : List WireFrame
  ending : Ending
deriving DecidableEq, Repr

def Parsed.after (frame : WireFrame) (parsed : Parsed) : Parsed :=
  { parsed with frames := frame :: parsed.frames }

theorem declared_lt (wire : Bytes) : Bytes.number (wire.take FrameHeader.size) < UInt32.size := by
  have spelled := Bytes.number_lt (wire.take FrameHeader.size)
  have widest : Bytes.range FrameHeader.size = UInt32.size := rfl
  have grows : ∀ more less : Nat, less ≤ more → Bytes.range less ≤ Bytes.range more := by
    intro more less order
    induction order with
    | refl => exact Nat.le_refl _
    | step _ ih =>
        simp only [Bytes.range]
        omega
  have narrower := grows FrameHeader.size (wire.take FrameHeader.size).length
    (List.length_take_le _ _)
  omega

/-- The frames at the front of a byte string, none longer than `limit`. -/
def parse (limit : Nat) (wire : Bytes) : Parsed :=
  if wire.length < FrameHeader.size then { frames := [], ending := .unfinished wire }
  else
    let declared := Bytes.number (wire.take FrameHeader.size)
    if limit < declared then { frames := [], ending := .oversize declared }
    else if wire.length < FrameHeader.size + declared then
      { frames := [], ending := .unfinished wire }
    else
      let frame : WireFrame :=
        { payload := (wire.drop FrameHeader.size).take declared
          payload_lt := Nat.lt_of_le_of_lt (List.length_take_le _ _) (declared_lt wire) }
      (parse limit (wire.drop (FrameHeader.size + declared))).after frame
termination_by wire.length
decreasing_by
  have size : FrameHeader.size = 4 := rfl
  simp only [List.length_drop]
  omega

theorem length_image (payload : Bytes) :
    (image payload).length = FrameHeader.size + payload.length := by
  simp [image, Bytes.length_bigEndian]

theorem peek_eq_some {wire : Bytes} {header : FrameHeader} :
    FrameHeader.peek wire = some header ↔
      FrameHeader.size ≤ wire.length ∧
        header.payloadLength = Bytes.number (wire.take FrameHeader.size) := by
  unfold FrameHeader.peek
  split
  · rename_i enough
    constructor
    · intro same
      cases same
      exact ⟨enough, rfl⟩
    · rintro ⟨-, declared⟩
      cases header
      cases declared
      rfl
  · rename_i short
    simp [short]

theorem peek_append {held : Bytes} {header : FrameHeader}
    (peeked : FrameHeader.peek held = some header) (more : Bytes) :
    FrameHeader.peek (held ++ more) = some header := by
  rw [peek_eq_some] at *
  obtain ⟨enough, declared⟩ := peeked
  refine ⟨?_, ?_⟩
  · rw [List.length_append]
    omega
  · rw [declared, List.take_append_of_le_length enough]

theorem peek_image (frame : WireFrame) (rest : Bytes) :
    FrameHeader.peek (image frame.payload ++ rest) = some frame.header := by
  have width := Bytes.length_bigEndian FrameHeader.size frame.payload.length
  have widest : Bytes.range FrameHeader.size = UInt32.size := rfl
  refine peek_eq_some.2 ⟨?_, ?_⟩
  · rw [List.length_append, length_image]
    omega
  · rw [image, List.append_assoc, List.take_left' width, Bytes.number_bigEndian, widest,
      Nat.mod_eq_of_lt frame.payload_lt]
    rfl

theorem exists_frame {held : Bytes} {header : FrameHeader}
    (peeked : FrameHeader.peek held = some header) (whole : held.length = header.frameLength) :
    ∃ frame : WireFrame, frame.header = header ∧ held = image frame.payload := by
  obtain ⟨enough, declared⟩ := peek_eq_some.1 peeked
  have width : (held.take FrameHeader.size).length = FrameHeader.size :=
    List.length_take_of_le enough
  have rest : (held.drop FrameHeader.size).length = header.payloadLength := by
    rw [List.length_drop, whole, FrameHeader.frameLength]
    omega
  have front : Bytes.bigEndian FrameHeader.size header.payloadLength =
      held.take FrameHeader.size := by
    have spelled := Bytes.bigEndian_number (held.take FrameHeader.size)
    rwa [width, ← declared] at spelled
  refine ⟨⟨held.drop FrameHeader.size, rest ▸ header.payloadLength_lt⟩, ?_, ?_⟩
  · cases header
    simpa [WireFrame.header] using rest
  · simp only [image, rest, front, List.take_append_drop]

theorem parse_short {wire : Bytes} (limit : Nat) (short : wire.length < FrameHeader.size) :
    parse limit wire = { frames := [], ending := .unfinished wire } := by
  rw [parse]
  simp [short]

theorem parse_oversize {limit : Nat} {wire : Bytes} {header : FrameHeader}
    (peeked : FrameHeader.peek wire = some header) (excess : limit < header.payloadLength) :
    parse limit wire = { frames := [], ending := .oversize header.payloadLength } := by
  obtain ⟨enough, declared⟩ := peek_eq_some.1 peeked
  rw [parse]
  simp only [Nat.not_lt.2 enough, if_false, ← declared, excess, if_true]

theorem parse_cut {limit : Nat} {wire : Bytes} {header : FrameHeader}
    (peeked : FrameHeader.peek wire = some header) (fits : header.payloadLength ≤ limit)
    (cut : wire.length < header.frameLength) :
    parse limit wire = { frames := [], ending := .unfinished wire } := by
  obtain ⟨enough, declared⟩ := peek_eq_some.1 peeked
  rw [FrameHeader.frameLength] at cut
  rw [parse]
  simp only [Nat.not_lt.2 enough, if_false, ← declared, Nat.not_lt.2 fits, cut, if_true]

/-- A whole frame at the front is the first one read; reading goes on behind it. -/
theorem parse_image {limit : Nat} (frame : WireFrame) (fits : frame.payload.length ≤ limit)
    (rest : Bytes) :
    parse limit (image frame.payload ++ rest) = (parse limit rest).after frame := by
  have width := Bytes.length_bigEndian FrameHeader.size frame.payload.length
  obtain ⟨enough, declared⟩ := peek_eq_some.1 (peek_image frame rest)
  rw [show frame.header.payloadLength = frame.payload.length from rfl] at declared
  have uncut : ¬ (image frame.payload ++ rest).length <
      FrameHeader.size + frame.payload.length := by
    rw [List.length_append, length_image]
    omega
  have payload : ((image frame.payload ++ rest).drop FrameHeader.size).take
      frame.payload.length = frame.payload := by
    rw [image, List.append_assoc, List.drop_left' width, List.take_left' rfl]
  have behind : (image frame.payload ++ rest).drop
      (FrameHeader.size + frame.payload.length) = rest :=
    List.drop_left' (length_image frame.payload)
  rw [parse]
  simp only [Nat.not_lt.2 enough, if_false, ← declared, Nat.not_lt.2 fits, uncut, payload, behind]

/-- No frame is the beginning of another. -/
theorem image_append_inj {first second : WireFrame} {behind other : Bytes}
    (same : image first.payload ++ behind = image second.payload ++ other) : first = second := by
  -- Reading finds one first frame, and each side is an image with something behind it.
  have one := parse_image first (Nat.le_of_lt first.payload_lt) behind
  have two := parse_image second (Nat.le_of_lt second.payload_lt) other
  rw [same, two] at one
  exact (List.cons.inj (congrArg Parsed.frames one)).1.symm

end Wire

namespace Frame

theorem encodeOnto_ok (buffer : Buffer) {payload : Bytes} (fits : payload.length < UInt32.size) :
    ∃ encoded, encodeOnto buffer payload = .ok (⟨payload.length, fits⟩, encoded) ∧
      encoded.bytes = buffer.bytes ++ Wire.image payload := by
  refine ⟨_, by simp [encodeOnto, FrameHeader.forPayload, fits, bind, Except.bind]; rfl, ?_⟩
  simp [FrameHeader.wire, Wire.image]

theorem encodeOnto_eq_ok {buffer encoded : Buffer} {payload : Bytes} {header : FrameHeader}
    (made : encodeOnto buffer payload = .ok (header, encoded)) :
    header.payloadLength = payload.length ∧
      encoded.bytes = buffer.bytes ++ Wire.image payload := by
  by_cases fits : payload.length < UInt32.size
  · obtain ⟨other, same, image⟩ := encodeOnto_ok buffer fits
    rw [same] at made
    cases made
    exact ⟨rfl, image⟩
  · simp [encodeOnto, FrameHeader.forPayload, fits, bind, Except.bind] at made

end Frame

end FramedTransport
