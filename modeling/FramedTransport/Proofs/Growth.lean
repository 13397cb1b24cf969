import FramedTransport.Proofs.Usage

/-!
What a frame reader's buffer costs.
The window is never wider than one chunk, so the buffer is at most one chunk ahead of the
bytes that have been counted, whatever the header has declared. Its capacity doubles when
it must and is kept from frame to frame, so twice the largest such extent bounds it for
good.
-/

namespace FramedTransport

namespace Buffer

@[simp] theorem capacity_truncate (buffer : Buffer) (count : Nat) :
    (buffer.truncate count).capacity = buffer.capacity := rfl

@[simp] theorem capacity_overwrite (buffer : Buffer) (start : Nat) (more : Bytes) :
    (buffer.overwrite start more).capacity = buffer.capacity := rfl

/-- Doubling overshoots by no more than the bytes that are asked for. -/
theorem capacity_reserve_le (buffer : Buffer) (additional : Nat) :
    (buffer.reserve additional).capacity ≤
      max buffer.capacity (max leastCapacity (2 * (buffer.length + additional))) := by
  simp only [reserve]
  by_cases enough : buffer.length + additional ≤ buffer.capacity
  · rw [if_pos enough]
    omega
  · rw [if_neg enough]
    dsimp only
    omega

theorem capacity_resize_le (buffer : Buffer) (count : Nat) :
    (buffer.resize count).capacity ≤
      max buffer.capacity (max leastCapacity (2 * count)) := by
  unfold resize
  by_cases shrinks : count ≤ buffer.length
  · rw [if_pos shrinks, capacity_truncate]
    exact Nat.le_max_left _ _
  · have grown := buffer.capacity_reserve_le (count - buffer.length)
    have total : buffer.length + (count - buffer.length) = count := by omega
    rw [total] at grown
    rw [if_neg shrinks]
    simpa only [append, Bytes.zeros, List.length_replicate] using grown

end Buffer

namespace Incoming

theorem length_window (frame : Incoming) : frame.window.length = frame.windowLength := by
  have room := frame.length_expose
  simp only [Buffer.length] at room
  simp only [window, windowLength, Buffer.slice, List.length_take, List.length_drop, room]
  omega

theorem bounds_le (frame : Incoming) :
    frame.bounds.2 ≤ max FrameHeader.size (frame.buffered + frame.chunk) := by
  unfold bounds buffered
  cases frame.phase <;> dsimp only <;> omega

theorem capacity_write_le (frame : Incoming) (received : Bytes) :
    (frame.write received).buffer.capacity ≤
      max frame.buffer.capacity
        (max Buffer.leastCapacity (2 * (frame.buffered + frame.chunk))) := by
  have grown := frame.buffer.capacity_resize_le frame.bounds.2
  have stop := frame.bounds_le
  have four : FrameHeader.size = 4 := rfl
  have eight : Buffer.leastCapacity = 8 := rfl
  simp only [write, Buffer.capacity_overwrite, expose]
  split
  · dsimp only
    omega
  · exact Nat.le_max_left _ _

theorem length_emptied (stale : Buffer) : (emptied stale).length = FrameHeader.size :=
  Buffer.length_resize _ _

theorem capacity_emptied_le (stale : Buffer) :
    (emptied stale).capacity ≤ max stale.capacity Buffer.leastCapacity := by
  have grown := stale.clear.capacity_resize_le FrameHeader.size
  have small : 2 * FrameHeader.size = Buffer.leastCapacity := rfl
  rwa [small, Nat.max_self] at grown

section Uses

variable {frame next : Incoming} {use : Use} {outcome : Except TransportError Unit}

theorem Counts.cut {progress : Progress} {count : Nat}
    (counts : Counts frame progress count next outcome) (regular : frame.Regular)
    (awake : next.phase ≠ .closed) :
    (next.buffer = frame.buffer ∧ frame.buffer.length = FrameHeader.size) ∨
      (next.buffer = frame.buffer.truncate next.buffered ∧
        ∀ progress, next.phase ≠ .header progress) := by
  cases counts with
  | nothing | overrun | oversize => exact absurd rfl awake
  | underway phase | announced phase | empty phase =>
      simp only [Regular, phase] at regular
      exact .inl ⟨rfl, regular.2.2⟩
  | more phase => exact .inr ⟨rfl, by simp⟩
  | whole phase =>
      simp only [Regular, phase] at regular
      refine .inr ⟨?_, by simp⟩
      rw [regular.1]
      rfl

theorem Counts.extent {progress : Progress} {count : Nat}
    (counts : Counts frame progress count next outcome) (regular : frame.Regular)
    (awake : next.phase ≠ .closed) :
    next.buffer.length ≤ max FrameHeader.size next.buffered := by
  rcases counts.cut regular awake with ⟨same, size⟩ | ⟨cut, -⟩
  · rw [same, size]
    exact Nat.le_max_left _ _
  · rw [cut]
    exact Nat.le_trans (List.length_take_le _ _) (Nat.le_max_right _ _)

/-- The buffer of an open reader is at most one chunk ahead of what has been counted. -/
theorem Uses.extent (uses : Uses frame use next outcome) (regular : frame.Regular)
    (before : frame.phase ≠ .closed →
      frame.buffer.length ≤ max FrameHeader.size (frame.buffered + frame.chunk))
    (awake : next.phase ≠ .closed) :
    next.buffer.length ≤ max FrameHeader.size (next.buffered + next.chunk) := by
  cases uses with
  | filled received =>
      rw [phase_write] at awake
      have stop := frame.bounds_le
      have held := before awake
      rw [length_write, buffered_write, chunk_write]
      omega
  | counted awaits counts =>
      have after := counts.extent regular awake
      omega
  | idle | busy => exact before awake
  | rearmed phase =>
      rw [length_emptied]
      exact Nat.le_max_left _ _
  | closed => exact absurd rfl awake

theorem Uses.capacity_le (uses : Uses frame use next outcome) :
    next.buffer.capacity ≤
      max frame.buffer.capacity
        (max Buffer.leastCapacity (2 * (next.buffered + next.chunk))) := by
  cases uses with
  | filled received =>
      rw [buffered_write, chunk_write]
      exact frame.capacity_write_le received
  | counted awaits counts =>
      have kept : next.buffer.capacity = frame.buffer.capacity := by cases counts <;> rfl
      exact Nat.le_trans (Nat.le_of_eq kept) (Nat.le_max_left _ _)
  | idle | busy | closed => exact Nat.le_max_left _ _
  | rearmed phase =>
      have room := capacity_emptied_le frame.buffer
      dsimp only
      omega

end Uses

theorem Regular.length_of_frameTooLarge {frame : Incoming} (regular : frame.Regular)
    {count length limit : Nat}
    (refused : (frame.advance count).2 = .error (.frameTooLarge length limit)) :
    (frame.advance count).1.buffer.length = FrameHeader.size := by
  cases awaits : frame.phase.progress? with
  | none => simp [advance_idle awaits] at refused
  | some progress =>
      have counts := counts_of_awaiting regular awaits count
      rw [refused] at counts
      generalize (frame.advance count).1 = next at counts
      cases counts with
      | oversize phase =>
          simp only [Regular, phase] at regular
          exact regular.2.2

theorem Regular.windowLength_pos_iff {frame : Incoming} (regular : frame.Regular)
    (chunky : 0 < frame.chunk) :
    0 < frame.windowLength ↔ frame.wantsBytes = true := by
  refine ⟨wantsBytes_of_window, ?_⟩
  intro wants
  unfold Regular at regular
  unfold wantsBytes at wants
  unfold windowLength bounds
  cases phase : frame.phase <;> simp only [phase, reduceCtorEq] at wants regular ⊢
  case header progress => omega
  case payload header progress =>
    rw [Progress.remaining]
    omega

/-- The most bytes of one frame that a reader has had so far. -/
def greatest (_ : Use) (done : Incoming × Except TransportError Unit) (most : Nat) : Nat :=
  max most done.1.buffered

/-- A reader whose buffer had this capacity in the beginning, and which has never had more than
`most` bytes of a frame. -/
structure Grown (capacity : Nat) (frame : Incoming) (most : Nat) : Prop where
  chunk : frame.chunk = max capacity leastChunk
  reached : frame.buffered ≤ most
  extent : frame.phase ≠ .closed →
    frame.buffer.length ≤ max FrameHeader.size (frame.buffered + frame.chunk)
  bound : frame.buffer.capacity ≤
    max capacity (max Buffer.leastCapacity (2 * (most + frame.chunk)))

theorem grown_start (buffer : Buffer) (maxPayload : Nat) :
    Grown buffer.capacity (start buffer maxPayload) 0 where
  chunk := rfl
  reached := Nat.le_refl 0
  extent _ := Nat.le_trans (Nat.le_of_eq (length_emptied buffer)) (Nat.le_max_left _ _)
  bound := by
    have room := capacity_emptied_le buffer
    simp only [start]
    omega

theorem Grown.use {capacity most : Nat} {frame next : Incoming} {use : Use}
    {outcome : Except TransportError Unit} (regular : frame.Regular)
    (uses : Uses frame use next outcome) (grown : Grown capacity frame most) :
    Grown capacity next (greatest use (next, outcome) most) where
  chunk := uses.same.2.trans grown.chunk
  reached := Nat.le_max_right _ _
  extent := uses.extent regular grown.extent
  bound := by
    have before := grown.bound
    have after := uses.capacity_le
    have same := uses.same.2
    simp only [greatest]
    omega

/-- Whatever is done to a reader, and whatever lengths the headers declare: its window is there as
long as it wants bytes, never wider than a chunk or a header and never beyond the frame; its
buffer is at most one chunk longer than what has been counted, and its capacity at most twice the
longest such extent, if the reader did not begin with more. A header that declares too much has
cost four bytes. -/
theorem memory_follows_the_bytes (buffer : Buffer) (maxPayload : Nat) (uses : List Use) :
    let chunk := max buffer.capacity 512
    let used := follow greatest (start buffer maxPayload) 0 uses
    let frame := used.1
    (frame.window ≠ [] ↔ frame.wantsBytes = true) ∧
    frame.window.length ≤ max chunk 4 ∧
    (match frame.phase with
      | .header _ => frame.buffered + frame.window.length = 4
      | .payload header _ => frame.buffered + frame.window.length ≤ header.frameLength
      | .dispatch _ | .closed => frame.window = []) ∧
    (frame.phase ≠ .closed → frame.buffer.length ≤ max 4 (frame.buffered + chunk)) ∧
    frame.buffer.capacity ≤ max buffer.capacity (max 8 (2 * (used.2 + chunk))) ∧
    ∀ count length limit, (frame.advance count).2 = .error (.frameTooLarge length limit) →
      (frame.advance count).1.buffer.length = 4 := by
  intro chunk used frame
  obtain ⟨regular, grown⟩ : frame.Regular ∧ Grown buffer.capacity frame used.2 :=
    follow_kept (Grown buffer.capacity) Grown.use uses (regular_start buffer maxPayload)
      (grown_start buffer maxPayload)
  have width : frame.chunk = chunk := grown.chunk
  have wide : 512 ≤ chunk := Nat.le_max_right _ _
  have chunky : 0 < frame.chunk := by omega
  refine ⟨?_, ?_, ?_, width ▸ grown.extent, width ▸ grown.bound, ?_⟩
  · rw [← regular.windowLength_pos_iff chunky, ← length_window]
    exact List.length_pos_iff.symm
  · rw [length_window, windowLength, bounds]
    cases frame.phase <;> dsimp only [FrameHeader.size] <;> omega
  · have size := frame.length_window
    unfold Regular at regular
    simp only [windowLength, bounds] at size
    cases phase : frame.phase <;> simp only [phase] at regular size ⊢
    case header progress =>
      have four : FrameHeader.size = 4 := rfl
      simp only [buffered, phase]
      omega
    case payload header progress =>
      simp only [buffered, phase, FrameHeader.frameLength, Progress.remaining] at size ⊢
      omega
    case dispatch header => exact List.length_eq_zero_iff.1 size
    case closed => exact List.length_eq_zero_iff.1 size
  · intro count length limit refused
    exact regular.length_of_frameTooLarge refused

end Incoming

end FramedTransport
