import FramedTransport.Frame.Feed
import FramedTransport.Proofs.Reading

/-!
A byte string brought to a frame reader in pieces.
Each piece is as long as the caller picks, within the window and what is left;
whenever a frame is ready it is looked at and the reader is rearmed. Whatever is
picked, the reader shows the frames of the reference and ends as it does.
-/

namespace FramedTransport

namespace Incoming

/-- The frames that a reader has shown, and where it stands when no byte is left for it. -/
structure Seen where
  frames : List (FrameHeader × Bytes) := []
  failed : Option TransportError := none
  reader : Incoming

def Seen.after (frame : FrameHeader × Bytes) (seen : Seen) : Seen :=
  { seen with frames := frame :: seen.frames }

/-- How many bytes the next piece has, if `pick` is wished for. -/
def pieceLength (pick : Nat) (wire : Bytes) (reader : Incoming) : Nat :=
  max 1 (min pick (min reader.windowLength wire.length))

def bring (count : Nat) (wire : Bytes) (reader : Incoming) : Incoming × Except TransportError Unit :=
  (reader.write (wire.take count)).advance count

theorem frame?_of_rearm {reader next : Incoming} {result : Except TransportError Unit}
    {frame : FrameHeader × Bytes} (ready : reader.frame? = some frame)
    (rearmed : reader.rearm = (next, result)) : next.frame? = none := by
  unfold frame? at ready
  split at ready
  · rename_i phase
    simp only [rearm, phase, Prod.mk.injEq] at rearmed
    rw [← rearmed.1]
    rfl
  · cases ready

/-- Brings all of `wire` to a reader; `picks` is the caller's choice, piece by piece. -/
def deliver (picks : Nat → Nat) (wire : Bytes) (reader : Incoming) : Seen :=
  match _ready : reader.frame? with
  | some frame =>
      match _rearmed : reader.rearm with
      | (next, .error reason) => { frames := [frame], failed := some reason, reader := next }
      | (next, .ok ()) => (deliver picks wire next).after frame
  | none =>
      if _done : min reader.windowLength wire.length = 0 then { reader := reader.expose }
      else
        match reader.bring (reader.pieceLength (picks 0) wire) wire with
        | (next, .error reason) => { failed := some reason, reader := next }
        | (next, .ok ()) =>
            deliver (fun turn => picks (turn + 1))
              (wire.drop (reader.pieceLength (picks 0) wire)) next
termination_by 2 * wire.length + (if reader.frame?.isSome then 1 else 0)
decreasing_by
  · have idle := frame?_of_rearm _ready _rearmed
    simp [_ready, idle]
  · simp only [_ready, List.length_drop, pieceLength, Option.isSome_none, Bool.false_eq_true,
      if_false]
    split <;> omega

theorem pieceLength_bounds {wire : Bytes} {reader : Incoming}
    (left : min reader.windowLength wire.length ≠ 0) (pick : Nat) :
    0 < reader.pieceLength pick wire ∧ reader.pieceLength pick wire ≤ reader.windowLength ∧
      reader.pieceLength pick wire ≤ wire.length := by
  unfold pieceLength
  omega

theorem idle_of_frame? {reader : Incoming} {frame : FrameHeader × Bytes}
    (ready : reader.frame? = some frame) : reader.wantsBytes = false := by
  unfold frame? at ready
  unfold wantsBytes
  split at ready <;> simp_all

theorem Holds.wants_of_frame? {reader : Incoming} {held : Bytes} (holds : reader.Holds held)
    (ready : reader.frame? = none) : reader.wantsBytes = true := by
  cases wants : reader.wantsBytes with
  | true => rfl
  | false =>
      obtain ⟨whole, phase, contents, -⟩ := holds.ready wants
      simp [frame?_of_dispatch phase contents] at ready

theorem Holds.bring {reader : Incoming} {held wire : Bytes} (holds : reader.Holds held)
    (left : min reader.windowLength wire.length ≠ 0) (pick : Nat) :
    Took reader.maxPayload (held ++ wire.take (reader.pieceLength pick wire))
      (reader.bring (reader.pieceLength pick wire) wire) := by
  obtain ⟨positive, fits, present⟩ := pieceLength_bounds left pick
  have size : (wire.take (reader.pieceLength pick wire)).length = reader.pieceLength pick wire :=
    List.length_take_of_le present
  have took := holds.took (wire.take (reader.pieceLength pick wire)) (by omega) (by omega)
  rwa [size] at took

def Seen.Agrees (limit : Nat) (seen : Seen) (parsed : Wire.Parsed) : Prop :=
  seen.frames = parsed.frames.map (fun frame => (frame.header, frame.payload)) ∧
    match parsed.ending with
    | .unfinished held =>
        seen.failed = none ∧ seen.reader.wantsBytes = true ∧ seen.reader.buffered = held.length
    | .oversize length =>
        seen.failed = some (.frameTooLarge length limit) ∧ seen.reader.phase = .closed

theorem deliver_agrees {reader : Incoming} {held : Bytes} (holds : reader.Holds held)
    (picks : Nat → Nat) (wire : Bytes) :
    (deliver picks wire reader).Agrees reader.maxPayload
      (Wire.parse reader.maxPayload (held ++ wire)) := by
  -- One piece moves bytes from `wire` to `held`, so what the reference reads never changes.
  fun_induction deliver picks wire reader generalizing held with
  | case1 picks wire reader frame ready next reason rearmed =>
      obtain ⟨whole, phase, -⟩ := holds.ready (idle_of_frame? ready)
      obtain ⟨other, fine, -⟩ := rearm_of_dispatch holds.1 phase
      simp [fine] at rearmed
  | case2 picks wire reader frame ready next rearmed ih =>
      obtain ⟨whole, phase, contents, rfl, fits⟩ := holds.ready (idle_of_frame? ready)
      obtain ⟨other, fine, empty, -, limit⟩ := rearm_of_dispatch holds.1 phase
      obtain rfl : other = next := by simpa [fine] using rearmed
      obtain rfl : (whole.header, whole.payload) = frame := by
        simpa [frame?_of_dispatch phase contents] using ready
      have later := ih empty
      rw [limit, List.nil_append] at later
      rw [Wire.parse_image whole fits]
      exact ⟨congrArg (List.cons _) later.1, later.2⟩
  | case3 picks wire reader ready done =>
      have wants := holds.wants_of_frame? ready
      have nothing : wire = [] := by
        have room := holds.windowLength_pos wants
        exact List.length_eq_zero_iff.1 (by omega)
      rw [nothing, List.append_nil, holds.waiting wants]
      refine ⟨rfl, rfl, ?_, ?_⟩
      · simpa [wantsBytes] using wants
      · rw [buffered_expose, holds.buffered]
  | case4 picks wire reader ready left next reason refused =>
      have took := holds.bring left (picks 0)
      rw [refused] at took
      obtain ⟨closed, header, peeked, excess, rfl⟩ := took
      have later := Wire.peek_append peeked (wire.drop (reader.pieceLength (picks 0) wire))
      rw [List.append_assoc, List.take_append_drop] at later
      rw [Wire.parse_oversize later excess]
      exact ⟨rfl, rfl, closed⟩
  | case5 picks wire reader ready left next accepted ih =>
      have took := holds.bring left (picks 0)
      rw [accepted] at took
      have later := ih took.1
      rwa [took.2, List.append_assoc, List.take_append_drop] at later

/-- However a byte string is cut into pieces, and whatever the buffer had room for or was used
for before, a reader shows exactly the frames that the byte string begins with, refuses the
first one that is too long, and otherwise waits for the rest of the frame that has begun. -/
theorem pieces_read_as_wire (buffer : Buffer) (maxPayload : Nat) (wire : Bytes)
    (picks : Nat → Nat) :
    let seen := deliver picks wire (start buffer maxPayload)
    let parsed := Wire.parse maxPayload wire
    seen.frames = parsed.frames.map (fun frame => (frame.header, frame.payload)) ∧
      match parsed.ending with
      | .unfinished held =>
          seen.failed = none ∧ seen.reader.wantsBytes = true ∧
            seen.reader.buffered = held.length
      | .oversize length =>
          seen.failed = some (.frameTooLarge length maxPayload) ∧ seen.reader.phase = .closed :=
  deliver_agrees (holds_start buffer maxPayload) picks wire

end Incoming

end FramedTransport
