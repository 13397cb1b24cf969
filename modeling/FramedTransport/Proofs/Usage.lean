import FramedTransport.Proofs.Reading

/-!
A frame reader in the hands of any caller.
The caller takes windows and leaves bytes in them, reports counts that may have nothing to
do with these bytes, rearms and closes, in whatever order. The phases of the reader follow
from the counts alone: each count that an awaiting reader is told either moves it on or
closes it, and one that is told to a reader which awaits nothing changes nothing.
-/

namespace FramedTransport

namespace Progress

theorem advance_cases (progress : Progress) (count : Nat) :
    (count = 0 ∧ progress.advance count = .error .connectionClosed) ∨
      (progress.remaining < count ∧ progress.advance count = .error (.protocolViolation
        s!"transfer of {count} bytes overruns the {progress.remaining} remaining")) ∨
      (0 < count ∧ ∃ next, progress.advance count = .ok next ∧ next.expected = progress.expected ∧
        next.transferred = progress.transferred + count) := by
  rcases Nat.eq_zero_or_pos count with rfl | positive
  · exact .inl ⟨rfl, progress.advance_zero⟩
  · by_cases room : count ≤ progress.remaining
    · exact .inr (.inr ⟨positive, progress.advance_of_le positive room⟩)
    · refine .inr (.inl ⟨Nat.lt_of_not_le room, ?_⟩)
      unfold advance
      rw [if_neg (Nat.ne_of_gt positive), dif_neg room]

end Progress

namespace Incoming

/-- What a caller can do with a reader: leave bytes in its window, report a count, go on to the
next frame, close it. -/
inductive Use where
  | fill (received : Bytes)
  | advance (count : Nat)
  | rearm
  | close
deriving DecidableEq, Repr

def use (frame : Incoming) : Use → Incoming × Except TransportError Unit
  | .fill received => (frame.write received, .ok ())
  | .advance count => frame.advance count
  | .rearm => frame.rearm
  | .close => (frame.close, .ok ())

/-- A reader in use, and an account of it that is kept on the side: `note` learns of every use and
what came of it. -/
def follow {γ : Type} (note : Use → Incoming × Except TransportError Unit → γ → γ)
    (frame : Incoming) (account : γ) : List Use → Incoming × γ
  | [] => (frame, account)
  | use :: uses => follow note (frame.use use).1 (note use (frame.use use) account) uses

def Phase.progress? : Phase → Option Progress
  | .header progress | .payload _ progress => some progress
  | .dispatch _ | .closed => none

theorem awaits_cases {frame : Incoming} {progress : Progress}
    (awaits : frame.phase.progress? = some progress) :
    frame.phase = .header progress ∨ ∃ header, frame.phase = .payload header progress := by
  cases phase : frame.phase <;>
    simp only [phase, Phase.progress?, Option.some.injEq, reduceCtorEq] at awaits
  case header held => exact .inl (awaits ▸ rfl)
  case payload header held => exact .inr ⟨header, awaits ▸ rfl⟩

theorem open_of_awaits {frame : Incoming} {progress : Progress}
    (awaits : frame.phase.progress? = some progress) : frame.phase ≠ .closed := by
  rcases awaits_cases awaits with phase | ⟨header, phase⟩ <;> simp [phase]

/-- How far the frame has come fits its phase, and there is room for the header. -/
def Regular (frame : Incoming) : Prop :=
  match frame.phase with
  | .header progress =>
      progress.expected = FrameHeader.size ∧ progress.transferred < progress.expected ∧
        frame.buffer.length = FrameHeader.size
  | .payload header progress =>
      progress.expected = header.payloadLength ∧ progress.transferred < progress.expected ∧
        header.payloadLength ≤ frame.maxPayload ∧ FrameHeader.size ≤ frame.buffer.length
  | .dispatch header =>
      header.payloadLength ≤ frame.maxPayload ∧ FrameHeader.size ≤ frame.buffer.length
  | .closed => True

/-- How a reader takes a count while it has so much progress: it closes for one of three reasons, or
it goes on in one of five ways. -/
inductive Counts (frame : Incoming) (progress : Progress) (count : Nat) :
    Incoming → Except TransportError Unit → Prop
  | nothing (zero : count = 0) : Counts frame progress count frame.close (.error .connectionClosed)
  | overrun (beyond : progress.remaining < count) :
      Counts frame progress count frame.close (.error (.protocolViolation
        s!"transfer of {count} bytes overruns the {progress.remaining} remaining"))
  | oversize {header : FrameHeader} (phase : frame.phase = .header progress)
      (complete : count = progress.remaining)
      (peeked : FrameHeader.peek frame.buffer.bytes = some header)
      (excess : frame.maxPayload < header.payloadLength) :
      Counts frame progress count frame.close
        (.error (.frameTooLarge header.payloadLength frame.maxPayload))
  | underway {next : Progress} (phase : frame.phase = .header progress) (positive : 0 < count)
      (expected : next.expected = progress.expected)
      (transferred : next.transferred = progress.transferred + count)
      (below : next.transferred < next.expected) :
      Counts frame progress count { frame with phase := .header next } (.ok ())
  | announced {header : FrameHeader} (phase : frame.phase = .header progress)
      (complete : count = progress.remaining)
      (peeked : FrameHeader.peek frame.buffer.bytes = some header)
      (fits : header.payloadLength ≤ frame.maxPayload) (present : header.payloadLength ≠ 0) :
      Counts frame progress count
        { frame with phase := .payload header (Progress.start header.payloadLength) } (.ok ())
  | empty {header : FrameHeader} (phase : frame.phase = .header progress)
      (complete : count = progress.remaining)
      (peeked : FrameHeader.peek frame.buffer.bytes = some header)
      (fits : header.payloadLength ≤ frame.maxPayload) (absent : header.payloadLength = 0) :
      Counts frame progress count { frame with phase := .dispatch header } (.ok ())
  | more {header : FrameHeader} {next : Progress} (phase : frame.phase = .payload header progress)
      (positive : 0 < count) (expected : next.expected = progress.expected)
      (transferred : next.transferred = progress.transferred + count)
      (below : next.transferred < next.expected) :
      Counts frame progress count
        { frame with
          phase := .payload header next
          buffer := frame.buffer.truncate (FrameHeader.size + next.transferred) } (.ok ())
  | whole {header : FrameHeader} (phase : frame.phase = .payload header progress)
      (positive : 0 < count) (complete : count = progress.remaining) :
      Counts frame progress count
        { frame with
          phase := .dispatch header
          buffer := frame.buffer.truncate (FrameHeader.size + progress.expected) } (.ok ())

theorem counts_header {frame : Incoming} {progress : Progress} (regular : frame.Regular)
    (phase : frame.phase = .header progress) (count : Nat) :
    Counts frame progress count (frame.advance count).1 (frame.advance count).2 := by
  simp only [Regular, phase] at regular
  obtain ⟨four, begun, size⟩ := regular
  obtain ⟨header, peeked⟩ : ∃ header, FrameHeader.peek frame.buffer.bytes = some header := by
    unfold Buffer.length at size
    simp [FrameHeader.peek, size]
  simp only [advance, phase]
  rcases progress.advance_cases count with
    ⟨zero, refused⟩ | ⟨beyond, refused⟩ | ⟨positive, next, accepted, expected, transferred⟩
  · simp only [refused]
    exact .nothing zero
  · simp only [refused]
    exact .overrun beyond
  · have bound := next.transferred_le
    simp only [accepted, Progress.isComplete, beq_iff_eq]
    by_cases done : next.transferred = next.expected
    · have complete : count = progress.remaining := by
        rw [Progress.remaining]
        omega
      simp only [done, if_true, onHeader, peeked]
      by_cases excess : frame.maxPayload < header.payloadLength
      · rw [if_pos excess]
        exact .oversize phase complete peeked excess
      · have fits := Nat.le_of_not_lt excess
        rw [if_neg excess]
        by_cases absent : header.payloadLength = 0
        · rw [if_pos absent]
          exact .empty phase complete peeked fits absent
        · rw [if_neg absent]
          exact .announced phase complete peeked fits absent
    · simp only [done, if_false]
      exact .underway phase positive expected transferred (by omega)

theorem counts_payload {frame : Incoming} {header : FrameHeader} {progress : Progress}
    (phase : frame.phase = .payload header progress) (count : Nat) :
    Counts frame progress count (frame.advance count).1 (frame.advance count).2 := by
  simp only [advance, phase]
  rcases progress.advance_cases count with
    ⟨zero, refused⟩ | ⟨beyond, refused⟩ | ⟨positive, next, accepted, expected, transferred⟩
  · simp only [refused]
    exact .nothing zero
  · simp only [refused]
    exact .overrun beyond
  · have bound := next.transferred_le
    simp only [accepted, Progress.isComplete, beq_iff_eq]
    by_cases done : next.transferred = next.expected
    · have complete : count = progress.remaining := by
        rw [Progress.remaining]
        omega
      simp only [done, if_true, expected]
      exact .whole phase positive complete
    · simp only [done, if_false]
      exact .more phase positive expected transferred (by omega)

theorem counts_of_awaiting {frame : Incoming} {progress : Progress} (regular : frame.Regular)
    (awaits : frame.phase.progress? = some progress) (count : Nat) :
    Counts frame progress count (frame.advance count).1 (frame.advance count).2 := by
  rcases awaits_cases awaits with phase | ⟨header, phase⟩
  · exact counts_header regular phase count
  · exact counts_payload phase count

theorem advance_idle {frame : Incoming} (idle : frame.phase.progress? = none) (count : Nat) :
    frame.advance count =
      (frame, .error (.protocolViolation ("receive completed while " ++ frame.phase.name))) := by
  cases phase : frame.phase <;> simp only [phase, Phase.progress?, reduceCtorEq] at idle
  case dispatch header => simp only [advance, phase]
  case closed => simp only [advance, phase]

theorem rearm_refused {frame : Incoming} (busy : ∀ header, frame.phase ≠ .dispatch header) :
    frame.rearm = (frame, .error (.protocolViolation ("rearm while " ++ frame.phase.name))) := by
  cases phase : frame.phase with
  | dispatch header => exact absurd phase (busy header)
  | header progress => simp only [rearm, phase]
  | payload header progress => simp only [rearm, phase]
  | closed => simp only [rearm, phase]

theorem length_write (frame : Incoming) (received : Bytes) :
    (frame.write received).buffer.length = max frame.buffer.length frame.bounds.2 := by
  simp only [write, Buffer.length_overwrite, length_expose]

@[simp] theorem buffered_write (frame : Incoming) (received : Bytes) :
    (frame.write received).buffered = frame.buffered := by
  simp only [buffered, phase_write]

inductive Uses (frame : Incoming) : Use → Incoming → Except TransportError Unit → Prop
  | filled (received : Bytes) : Uses frame (.fill received) (frame.write received) (.ok ())
  | counted {progress : Progress} {count : Nat} {next : Incoming}
      {outcome : Except TransportError Unit} (awaits : frame.phase.progress? = some progress)
      (counts : Counts frame progress count next outcome) :
      Uses frame (.advance count) next outcome
  | idle {count : Nat} {reason : TransportError} (idle : frame.phase.progress? = none) :
      Uses frame (.advance count) frame (.error reason)
  | rearmed {header : FrameHeader} (phase : frame.phase = .dispatch header) :
      Uses frame .rearm { frame with phase := .fresh, buffer := emptied frame.buffer } (.ok ())
  | busy {reason : TransportError} (busy : ∀ header, frame.phase ≠ .dispatch header) :
      Uses frame .rearm frame (.error reason)
  | closed : Uses frame .close frame.close (.ok ())

theorem uses_of_regular {frame : Incoming} (regular : frame.Regular) (use : Use) :
    Uses frame use (frame.use use).1 (frame.use use).2 := by
  cases use with
  | fill received => exact .filled received
  | advance count =>
      cases awaits : frame.phase.progress? with
      | none =>
          rw [Incoming.use, advance_idle awaits]
          exact .idle awaits
      | some progress => exact .counted awaits (counts_of_awaiting regular awaits count)
  | rearm =>
      by_cases ready : ∃ header, frame.phase = .dispatch header
      · obtain ⟨header, phase⟩ := ready
        simp only [Incoming.use, rearm, phase]
        exact .rearmed phase
      · have busy : ∀ header, frame.phase ≠ .dispatch header :=
          fun header phase => ready ⟨header, phase⟩
        rw [Incoming.use, rearm_refused busy]
        exact .busy busy
  | close => exact .closed

/-! ### What every use preserves -/

theorem Regular.write {frame : Incoming} (regular : frame.Regular) (received : Bytes) :
    (frame.write received).Regular := by
  have size := frame.length_write received
  unfold Regular at *
  rw [phase_write, maxPayload_write]
  cases phase : frame.phase <;> simp only [phase] at regular
  case header progress =>
    have stop : frame.bounds.2 = FrameHeader.size := by simp only [Incoming.bounds, phase]
    exact ⟨regular.1, regular.2.1, by omega⟩
  case payload header progress =>
    exact ⟨regular.1, regular.2.1, regular.2.2.1, by omega⟩
  case dispatch header => exact ⟨regular.1, by omega⟩
  case closed => trivial

theorem regular_emptied {frame : Incoming} (stale : Buffer) (fresh : frame.phase = .fresh)
    (empty : frame.buffer = emptied stale) : frame.Regular := by
  have size : frame.buffer.length = FrameHeader.size := by
    rw [empty, emptied, Buffer.length_resize]
  simp [Regular, fresh, Phase.fresh, Progress.start, size, FrameHeader.size]

theorem regular_start (buffer : Buffer) (maxPayload : Nat) : (start buffer maxPayload).Regular :=
  regular_emptied buffer rfl rfl

section Counts

variable {frame next : Incoming} {progress : Progress} {count : Nat}
  {outcome : Except TransportError Unit}

theorem Counts.regular (counts : Counts frame progress count next outcome)
    (regular : frame.Regular) : next.Regular := by
  cases counts with
  | nothing | overrun | oversize => trivial
  | underway phase positive expected transferred below =>
      simp only [Regular, phase] at regular
      exact ⟨expected.trans regular.1, below, regular.2.2⟩
  | announced phase complete peeked fits present =>
      simp only [Regular, phase] at regular
      exact ⟨rfl, Nat.pos_of_ne_zero present, fits, Nat.le_of_eq regular.2.2.symm⟩
  | empty phase complete peeked fits absent =>
      simp only [Regular, phase] at regular
      exact ⟨fits, Nat.le_of_eq regular.2.2.symm⟩
  | more phase positive expected transferred below =>
      simp only [Regular, phase] at regular
      obtain ⟨declared, -, fits, room⟩ := regular
      refine ⟨expected.trans declared, below, fits, ?_⟩
      simp only [Buffer.length, Buffer.bytes_truncate, List.length_take] at room ⊢
      omega
  | whole phase positive complete =>
      simp only [Regular, phase] at regular
      obtain ⟨-, -, fits, room⟩ := regular
      refine ⟨fits, ?_⟩
      simp only [Buffer.length, Buffer.bytes_truncate, List.length_take] at room ⊢
      omega

theorem Counts.same (counts : Counts frame progress count next outcome) :
    next.maxPayload = frame.maxPayload ∧ next.chunk = frame.chunk := by
  cases counts <;> exact ⟨rfl, rfl⟩

theorem Counts.buffered (counts : Counts frame progress count next outcome)
    (regular : frame.Regular) :
    (outcome = .ok () ∧ next.phase ≠ .closed ∧ next.buffered = frame.buffered + count) ∨
      (next = frame.close ∧ ∃ reason, outcome = .error reason) := by
  cases counts with
  | nothing | overrun | oversize => exact .inr ⟨rfl, _, rfl⟩
  | underway phase positive expected transferred below =>
      refine .inl ⟨rfl, by simp, ?_⟩
      simp only [Incoming.buffered, phase]
      exact transferred
  | announced phase complete peeked fits present =>
      simp only [Regular, phase] at regular
      refine .inl ⟨rfl, by simp, ?_⟩
      simp only [Incoming.buffered, phase, Progress.start, Progress.remaining] at complete ⊢
      omega
  | empty phase complete peeked fits absent =>
      simp only [Regular, phase] at regular
      refine .inl ⟨rfl, by simp, ?_⟩
      simp only [Incoming.buffered, phase, FrameHeader.frameLength, Progress.remaining]
        at complete ⊢
      omega
  | more phase positive expected transferred below =>
      refine .inl ⟨rfl, by simp, ?_⟩
      simp only [Incoming.buffered, phase]
      omega
  | whole phase positive complete =>
      simp only [Regular, phase] at regular
      refine .inl ⟨rfl, by simp, ?_⟩
      simp only [Incoming.buffered, phase, FrameHeader.frameLength, Progress.remaining]
        at complete ⊢
      omega

end Counts

section Uses

variable {frame next : Incoming} {use : Use} {outcome : Except TransportError Unit}

theorem Uses.regular (uses : Uses frame use next outcome) (regular : frame.Regular) :
    next.Regular := by
  cases uses with
  | filled received => exact regular.write received
  | counted awaits counts => exact counts.regular regular
  | idle | busy => exact regular
  | rearmed phase => exact regular_emptied frame.buffer rfl rfl
  | closed => trivial

theorem Uses.same (uses : Uses frame use next outcome) :
    next.maxPayload = frame.maxPayload ∧ next.chunk = frame.chunk := by
  cases uses with
  | filled received => exact ⟨frame.maxPayload_write received, frame.chunk_write received⟩
  | counted awaits counts => exact counts.same
  | idle | busy | rearmed | closed => exact ⟨rfl, rfl⟩

theorem Uses.stays_closed (uses : Uses frame use next outcome) (closed : frame.phase = .closed) :
    next.phase = .closed := by
  cases uses with
  | filled received => rw [phase_write, closed]
  | counted awaits => exact absurd closed (open_of_awaits awaits)
  | idle | busy => exact closed
  | rearmed phase => simp [closed] at phase
  | closed => rfl

end Uses

/-- What every use of a regular reader preserves holds after all of them. -/
theorem follow_kept {γ : Type} {note : Use → Incoming × Except TransportError Unit → γ → γ}
    (Kept : Incoming → γ → Prop)
    (step : ∀ {frame next : Incoming} {account : γ} {use : Use}
      {outcome : Except TransportError Unit}, frame.Regular → Uses frame use next outcome →
        Kept frame account → Kept next (note use (next, outcome) account))
    (uses : List Use) {frame : Incoming} {account : γ} (regular : frame.Regular)
    (begun : Kept frame account) :
    let used := follow note frame account uses
    used.1.Regular ∧ Kept used.1 used.2 := by
  induction uses generalizing frame account with
  | nil => exact ⟨regular, begun⟩
  | cons use uses ih =>
      have used := uses_of_regular regular use
      exact ih (used.regular regular) (step regular used begun)

/-! ### What the counts say -/

/-- The sum of the counts that a reader has accepted for its frame. -/
def tally : Use → Incoming × Except TransportError Unit → Nat → Nat
  | .advance count, (_, .ok ()), counted => counted + count
  | .rearm, (_, .ok ()), _ => 0
  | _, _, counted => counted

/-- A reader that began with this limit, and the sum of what it has accepted for its frame. -/
structure Told (maxPayload : Nat) (frame : Incoming) (counted : Nat) : Prop where
  limit : frame.maxPayload = maxPayload
  counted : frame.phase ≠ .closed → frame.buffered = counted

theorem Told.use {maxPayload counted : Nat} {frame next : Incoming} {use : Use}
    {outcome : Except TransportError Unit} (regular : frame.Regular)
    (uses : Uses frame use next outcome) (told : Told maxPayload frame counted) :
    Told maxPayload next (tally use (next, outcome) counted) where
  limit := uses.same.1.trans told.limit
  counted awake := by
    cases uses with
    | filled received =>
        rw [phase_write] at awake
        rw [buffered_write]
        exact told.counted awake
    | counted awaits counts =>
        rcases counts.buffered regular with ⟨rfl, -, grown⟩ | ⟨rfl, -⟩
        · rw [grown, told.counted (open_of_awaits awaits)]
          rfl
        · exact absurd rfl awake
    | idle | busy => exact told.counted awake
    | rearmed phase => rfl
    | closed => exact absurd rfl awake

/-- With this count the header is complete, and it is this one. -/
def Completes (frame : Incoming) (count : Nat) (header : FrameHeader) : Prop :=
  FrameHeader.peek frame.buffer.bytes = some header ∧
    ∃ progress, frame.phase = .header progress ∧ count = progress.remaining

theorem Completes.count_eq {frame : Incoming} {progress : Progress} {count : Nat}
    {header : FrameHeader} (completes : frame.Completes count header)
    (awaits : frame.phase.progress? = some progress) : count = progress.remaining := by
  obtain ⟨-, held, phase, complete⟩ := completes
  rw [phase, Phase.progress?, Option.some.injEq] at awaits
  rwa [awaits] at complete

theorem Regular.remaining_pos {frame : Incoming} {progress : Progress} (regular : frame.Regular)
    (awaits : frame.phase.progress? = some progress) : 0 < progress.remaining := by
  unfold Regular at regular
  rcases awaits_cases awaits with phase | ⟨header, phase⟩
  · rw [phase] at regular
    exact Nat.sub_pos_of_lt regular.2.1
  · rw [phase] at regular
    exact Nat.sub_pos_of_lt regular.2.1

theorem Counts.acceptable {frame next : Incoming} {progress : Progress} {count : Nat}
    (counts : Counts frame progress count next (.ok ())) (regular : frame.Regular) :
    1 ≤ count ∧ count ≤ progress.remaining ∧
      ∀ header, frame.Completes count header → header.payloadLength ≤ frame.maxPayload := by
  cases counts with
  | underway phase positive expected transferred below =>
      have missing : count < progress.remaining := by
        rw [Progress.remaining]
        omega
      refine ⟨positive, Nat.le_of_lt missing, ?_⟩
      rintro header ⟨-, held, same, complete⟩
      cases phase.symm.trans same
      exact absurd complete (Nat.ne_of_lt missing)
  | announced phase complete peeked fits present | empty phase complete peeked fits absent =>
      have awaits : frame.phase.progress? = some progress := by rw [phase]; rfl
      have positive := regular.remaining_pos awaits
      refine ⟨complete ▸ positive, Nat.le_of_eq complete, ?_⟩
      rintro other ⟨shown, -⟩
      cases peeked.symm.trans shown
      exact fits
  | more phase positive expected transferred below =>
      refine ⟨positive, ?_, ?_⟩
      · rw [Progress.remaining]
        omega
      · rintro other ⟨-, held, same, -⟩
        cases phase.symm.trans same
  | whole phase positive complete =>
      refine ⟨positive, Nat.le_of_eq complete, ?_⟩
      rintro other ⟨-, held, same, -⟩
      cases phase.symm.trans same

theorem Counts.judged {frame next : Incoming} {progress : Progress} {count : Nat}
    {outcome : Except TransportError Unit} (counts : Counts frame progress count next outcome)
    (regular : frame.Regular) :
    (count = 0 ∧ next = frame.close ∧ outcome = .error .connectionClosed) ∨
      (progress.remaining < count ∧ next = frame.close ∧
        outcome = .error (.protocolViolation
          s!"transfer of {count} bytes overruns the {progress.remaining} remaining")) ∨
      (∃ header, frame.Completes count header ∧ frame.maxPayload < header.payloadLength ∧
        next = frame.close ∧
        outcome = .error (.frameTooLarge header.payloadLength frame.maxPayload)) ∨
      (1 ≤ count ∧ count ≤ progress.remaining ∧
        (∀ header, frame.Completes count header → header.payloadLength ≤ frame.maxPayload) ∧
        outcome = .ok () ∧ next.phase ≠ .closed ∧ next.buffered = frame.buffered + count) := by
  rcases counts.buffered regular with ⟨rfl, awake, grown⟩ | ⟨rfl, reason, rfl⟩
  · obtain ⟨positive, fits, limited⟩ := counts.acceptable regular
    exact .inr (.inr (.inr ⟨positive, fits, limited, rfl, awake, grown⟩))
  · generalize closed : frame.close = next at counts
    cases counts with
    | nothing zero => exact .inl ⟨zero, closed, rfl⟩
    | overrun beyond => exact .inr (.inl ⟨beyond, closed, rfl⟩)
    | oversize phase complete peeked excess =>
        exact .inr (.inr (.inl ⟨_, ⟨peeked, progress, phase, complete⟩, excess, closed, rfl⟩))

/-- A reader is closed for the length of a frame exactly when its header, complete with this count,
declares too much. -/
theorem Counts.frameTooLarge_iff {frame next : Incoming} {progress : Progress} {count : Nat}
    {outcome : Except TransportError Unit} (counts : Counts frame progress count next outcome)
    (regular : frame.Regular) (awaits : frame.phase.progress? = some progress) :
    (∃ length limit, outcome = .error (.frameTooLarge length limit)) ↔
      ∃ header, frame.Completes count header ∧ frame.maxPayload < header.payloadLength := by
  have missing := regular.remaining_pos awaits
  rcases counts.judged regular with
    ⟨rfl, -, rfl⟩ | ⟨beyond, -, rfl⟩ | ⟨header, completes, excess, -, rfl⟩ | ⟨-, -, fits, rfl, -⟩
  · simp only [Except.error.injEq, reduceCtorEq, exists_false, false_iff]
    rintro ⟨header, completes, -⟩
    have complete := completes.count_eq awaits
    omega
  · simp only [Except.error.injEq, reduceCtorEq, exists_false, false_iff]
    rintro ⟨header, completes, -⟩
    have complete := completes.count_eq awaits
    omega
  · exact ⟨fun _ => ⟨header, completes, excess⟩, fun _ => ⟨_, _, rfl⟩⟩
  · simp only [reduceCtorEq, exists_false, false_iff]
    rintro ⟨header, completes, excess⟩
    exact absurd excess (Nat.not_lt.2 (fits header completes))

/-- Whatever a caller does with a reader, the phase agrees with the counts. An awaiting reader knows
how much is missing, never nothing, and has what has been counted since the frame began; it takes
every count that brings no more than this, unless a header is then complete that declares too much,
and closes at any other. A reader that awaits nothing is not moved by counts, one that has no frame
ready is not rearmed, and a closed one is never opened. -/
theorem phases_agree_with_the_counts (buffer : Buffer) (maxPayload : Nat) (uses : List Use) :
    let used := follow tally (start buffer maxPayload) 0 uses
    let frame := used.1
    (match frame.phase with
      | .header progress =>
          progress.expected = 4 ∧ progress.transferred < 4 ∧ frame.buffered < 4
      | .payload header progress =>
          progress.expected = header.payloadLength ∧
            progress.transferred < header.payloadLength ∧ header.payloadLength ≤ maxPayload ∧
            frame.buffered < header.frameLength
      | .dispatch header =>
          header.payloadLength ≤ maxPayload ∧ frame.buffered = header.frameLength
      | .closed => True) ∧
    (frame.phase ≠ .closed → frame.buffered = used.2) ∧
    (∀ progress, frame.phase.progress? = some progress → ∀ count,
      ((count = 0 ∧ frame.advance count = (frame.close, .error .connectionClosed)) ∨
        (progress.remaining < count ∧ frame.advance count =
          (frame.close, .error (.protocolViolation
            s!"transfer of {count} bytes overruns the {progress.remaining} remaining"))) ∨
        (∃ header, frame.Completes count header ∧ maxPayload < header.payloadLength ∧
          frame.advance count =
            (frame.close, .error (.frameTooLarge header.payloadLength maxPayload))) ∨
        (1 ≤ count ∧ count ≤ progress.remaining ∧ (frame.advance count).2 = .ok () ∧
          (frame.advance count).1.phase ≠ .closed ∧
          (frame.advance count).1.buffered = frame.buffered + count)) ∧
      ((∃ length limit, (frame.advance count).2 = .error (.frameTooLarge length limit)) ↔
        ∃ header, frame.Completes count header ∧ maxPayload < header.payloadLength)) ∧
    (frame.phase.progress? = none → ∀ count, frame.advance count =
      (frame, .error (.protocolViolation ("receive completed while " ++ frame.phase.name)))) ∧
    ((∀ header, frame.phase ≠ .dispatch header) → frame.rearm =
      (frame, .error (.protocolViolation ("rearm while " ++ frame.phase.name)))) ∧
    (frame.phase = .closed → ∀ more,
      (follow tally frame used.2 more).1.phase = .closed) := by
  intro used frame
  have begun : Told maxPayload (start buffer maxPayload) 0 := ⟨rfl, fun _ => rfl⟩
  obtain ⟨regular, told⟩ : frame.Regular ∧ Told maxPayload frame used.2 :=
    follow_kept (Told maxPayload) Told.use uses (regular_start buffer maxPayload) begun
  have limit : frame.maxPayload = maxPayload := told.limit
  refine ⟨?_, told.counted, ?_, advance_idle, rearm_refused, ?_⟩
  · unfold Regular at regular
    cases phase : frame.phase <;> simp only [phase] at regular
    case header progress =>
      have four : FrameHeader.size = 4 := rfl
      have begun : progress.transferred < 4 := by omega
      simpa only [buffered, phase, and_true, begun] using regular.1.trans four
    case payload header progress =>
      obtain ⟨declared, below, fits, -⟩ := regular
      refine ⟨declared, declared ▸ below, limit ▸ fits, ?_⟩
      simp only [buffered, phase, FrameHeader.frameLength]
      omega
    case dispatch header =>
      refine ⟨limit ▸ regular.1, ?_⟩
      simp only [buffered, phase]
    case closed => trivial
  · intro progress awaits count
    have counts := counts_of_awaiting regular awaits count
    have large := counts.frameTooLarge_iff regular awaits
    have judged := counts.judged regular
    rw [limit] at large judged
    refine ⟨?_, large⟩
    rcases judged with zero | beyond | ⟨header, completes, excess, closed, told⟩ |
      ⟨positive, fits, -, accepted, awake, grown⟩
    · exact .inl ⟨zero.1, Prod.ext zero.2.1 zero.2.2⟩
    · exact .inr (.inl ⟨beyond.1, Prod.ext beyond.2.1 beyond.2.2⟩)
    · exact .inr (.inr (.inl ⟨header, completes, excess, Prod.ext closed told⟩))
    · exact .inr (.inr (.inr ⟨positive, fits, accepted, awake, grown⟩))
  · intro closed more
    exact (follow_kept (fun frame (_ : Nat) => frame.phase = .closed)
      (fun _ uses closed => uses.stays_closed closed) more regular closed).2

end Incoming

end FramedTransport
