import FramedTransport.Proofs.Growth

/-!
Which bytes of a dispatched frame have been in a window.
A count is compared with what is missing of the header or the payload, and not with the
window, which ends earlier when a payload is longer than one chunk. So a caller may have
bytes counted that it has never been shown. A frame that is counted within its windows is
whole and consists of the bytes that stood there; of any other frame as many bytes are
missing or made up as have been counted unseen.
-/

namespace FramedTransport

namespace Incoming

/-! ### Windows -/

theorem Regular.bounds_of_awaiting {frame : Incoming} {progress : Progress}
    (regular : frame.Regular) (awaits : frame.phase.progress? = some progress) :
    frame.bounds.1 = frame.buffered ∧ frame.bounds.1 ≤ frame.bounds.2 := by
  unfold Regular at regular
  unfold bounds buffered
  rcases awaits_cases awaits with phase | ⟨header, phase⟩
  · simp only [phase] at regular ⊢
    exact ⟨trivial, by omega⟩
  · simp only [phase]
    exact ⟨trivial, Nat.le_add_right _ _⟩

theorem Regular.window_of_awaiting {frame : Incoming} {progress : Progress}
    (regular : frame.Regular) (awaits : frame.phase.progress? = some progress)
    (chunky : FrameHeader.size ≤ frame.chunk) :
    frame.window.length = min progress.remaining frame.chunk := by
  rw [length_window]
  unfold Regular at regular
  unfold windowLength bounds
  rcases awaits_cases awaits with phase | ⟨header, phase⟩
  · simp only [phase] at regular ⊢
    rw [Progress.remaining]
    omega
  · simp only [phase]
    omega

@[simp] theorem bounds_write (frame : Incoming) (received : Bytes) :
    (frame.write received).bounds = frame.bounds := by
  simp only [bounds, phase_write, chunk_write]

theorem expose_write (frame : Incoming) (received : Bytes) :
    (frame.write received).expose = frame.write received := by
  have wide : ¬ (frame.write received).buffer.length < frame.bounds.2 := by
    rw [length_write]
    omega
  unfold expose
  dsimp only
  rw [bounds_write, if_neg wide]

theorem write_idle {frame : Incoming} (idle : frame.phase.progress? = none) (received : Bytes) :
    (frame.write received).buffer.bytes = frame.buffer.bytes ∧
      (frame.write received).window = [] := by
  have nowhere : frame.bounds = (0, 0) := by
    unfold bounds
    cases phase : frame.phase <;> simp only [phase, Phase.progress?, reduceCtorEq] at idle ⊢
  constructor
  · simp [write, expose, nowhere, windowLength, Buffer.overwrite]
  · simp [window, Buffer.slice, nowhere]

theorem front_write {frame : Incoming} {held : Bytes} (front : held <+: frame.buffer.bytes)
    (place : frame.bounds.1 = held.length) (ahead : frame.bounds.1 ≤ frame.bounds.2)
    (received : Bytes) :
    held ++ (frame.write received).window <+: (frame.write received).buffer.bytes := by
  have exposed : held <+: frame.expose.buffer.bytes := by
    unfold expose
    dsimp only
    split
    · exact Buffer.front_resize front (place ▸ ahead)
    · exact front
  have room : held.length + (received.take frame.windowLength).length ≤
      frame.expose.buffer.length := by
    rw [length_expose, List.length_take, windowLength]
    omega
  obtain ⟨rest, written⟩ : held <+: (frame.write received).buffer.bytes := by
    simp only [write, place]
    exact (List.prefix_append _ _).trans (Buffer.front_overwrite exposed room)
  have behind : (frame.write received).window = rest.take (frame.bounds.2 - frame.bounds.1) := by
    rw [window, expose_write, bounds_write, Buffer.slice, ← written, place, List.drop_left]
  rw [behind, ← written]
  exact (List.prefix_append_right_inj held).2 (List.take_prefix _ rest)

/-! ### What a caller has been shown -/

/-- What a caller has been shown of a frame: the window that it has, as it has left it, the bytes
that stood in a window when they were counted, and how many have been counted besides. -/
structure Sighting where
  window : Bytes := []
  shown : Bytes := []
  unseen : Nat := 0
deriving DecidableEq, Repr

/-- A count leaves the rest of a header's window where it is and cuts off that of a payload's. -/
def sight : Use → Incoming × Except TransportError Unit → Sighting → Sighting
  | .fill _, (next, _), seen => { seen with window := next.window }
  | .advance count, (next, .ok ()), seen =>
      { window := match next.phase with
          | .header _ => seen.window.drop count
          | _ => []
        shown := seen.shown ++ seen.window.take count
        unseen := seen.unseen + (count - seen.window.length) }
  | .rearm, (_, .ok ()), _ => {}
  | _, _, seen => seen

/-- What has been counted of a frame has been shown or not; if all of it has, it stands at the front
of the buffer, with the window behind it, and a frame that is ready consists of it. -/
structure Sighted (frame : Incoming) (seen : Sighting) : Prop where
  counted : frame.buffered = seen.shown.length + seen.unseen
  front : seen.unseen = 0 → seen.shown ++ seen.window <+: frame.buffer.bytes
  whole : ∀ header, frame.phase = .dispatch header → seen.unseen = 0 →
    frame.buffer.bytes = seen.shown

section Sighted

variable {frame next : Incoming} {seen : Sighting}

theorem Sighted.fill (sighted : Sighted frame seen) (regular : frame.Regular) (received : Bytes) :
    Sighted (frame.write received)
      { seen with window := (frame.write received).window } where
  counted := (frame.buffered_write received).trans sighted.counted
  front all := by
    have shown : seen.shown <+: frame.buffer.bytes :=
      (List.prefix_append _ _).trans (sighted.front all)
    cases awaits : frame.phase.progress? with
    | some progress =>
        obtain ⟨place, ahead⟩ := regular.bounds_of_awaiting awaits
        have counted := sighted.counted
        have here : frame.bounds.1 = seen.shown.length := by
          dsimp only at all
          omega
        exact front_write shown here ahead received
    | none =>
        obtain ⟨same, none⟩ := write_idle awaits received
        simpa only [same, none, List.append_nil] using shown
  whole header ready all := by
    rw [phase_write] at ready
    have idle : frame.phase.progress? = none := by rw [ready, Phase.progress?]
    exact (write_idle idle received).1.trans (sighted.whole header ready all)

theorem Counts.front {progress : Progress} {count : Nat} {outcome : Except TransportError Unit}
    {held : Bytes} (counts : Counts frame progress count next outcome) (regular : frame.Regular)
    (awake : next.phase ≠ .closed) (front : held <+: frame.buffer.bytes)
    (counted : held.length ≤ next.buffered) : held <+: next.buffer.bytes := by
  rcases counts.cut regular awake with ⟨same, -⟩ | ⟨cut, -⟩
  · rwa [same]
  · rw [cut]
    exact List.prefix_take_iff.2 ⟨front, counted⟩

theorem Sighted.advance {progress : Progress} {count : Nat} (sighted : Sighted frame seen)
    (regular : frame.Regular) (counts : Counts frame progress count next (.ok ()))
    (awake : next.phase ≠ .closed) (grown : next.buffered = frame.buffered + count) :
    Sighted next (sight (.advance count) (next, .ok ()) seen) := by
  have counted := sighted.counted
  have total : next.buffered = (seen.shown ++ seen.window.take count).length +
      (seen.unseen + (count - seen.window.length)) := by
    rw [List.length_append, List.length_take]
    omega
  have front : seen.unseen + (count - seen.window.length) = 0 →
      seen.shown ++ seen.window.take count <+: next.buffer.bytes := by
    intro all
    have before := sighted.front (Nat.eq_zero_of_add_eq_zero_right all)
    have part := (List.prefix_append_right_inj seen.shown).2 (List.take_prefix count seen.window)
    exact counts.front regular awake (part.trans before) (by omega)
  refine ⟨total, ?_, ?_⟩
  · intro all
    cases phase : next.phase with
    | header later =>
        have before := sighted.front (Nat.eq_zero_of_add_eq_zero_right all)
        rcases counts.cut regular awake with ⟨same, -⟩ | ⟨-, beyond⟩
        · simpa only [sight, phase, List.append_assoc, List.take_append_drop, same] using before
        · exact absurd phase (beyond later)
    | payload | dispatch | closed =>
        simpa only [sight, phase, List.append_nil] using front all
  · intro header ready all
    -- What is ready is no longer than what has been counted, and all of that has been shown.
    have extent := counts.extent regular awake
    have size : next.buffered = header.frameLength := by simp only [buffered, ready]
    have short : next.buffer.length ≤ (seen.shown ++ seen.window.take count).length := by
      simp only [FrameHeader.frameLength] at size
      dsimp only [sight] at all
      omega
    exact ((front all).eq_of_length_le short).symm

/-- Whatever is done to a reader, the caller's account of it stays right until it is closed. -/
theorem Sighted.use {use : Use} {outcome : Except TransportError Unit} (regular : frame.Regular)
    (uses : Uses frame use next outcome) (sighted : frame.phase ≠ .closed → Sighted frame seen)
    (awake : next.phase ≠ .closed) : Sighted next (sight use (next, outcome) seen) := by
  have before := sighted (fun closed => awake (uses.stays_closed closed))
  cases uses with
  | filled received => exact before.fill regular received
  | counted awaits counts =>
      rcases counts.buffered regular with ⟨rfl, -, grown⟩ | ⟨rfl, -⟩
      · exact before.advance regular counts awake grown
      · exact absurd rfl awake
  | idle | busy => exact before
  | rearmed phase =>
      refine ⟨rfl, fun _ => List.nil_prefix, ?_⟩
      rintro header ready -
      simp [Phase.fresh] at ready
  | closed => exact absurd rfl awake

theorem Sighted.counted_of_ready (sighted : Sighted frame seen) {header : FrameHeader}
    (ready : frame.phase = .dispatch header) :
    seen.shown.length + seen.unseen = header.frameLength := by
  rw [← sighted.counted]
  simp only [buffered, ready]

theorem Sighted.whole_iff (sighted : Sighted frame seen) {header : FrameHeader}
    (ready : frame.phase = .dispatch header) :
    seen.unseen = 0 ↔
      frame.buffer.bytes = seen.shown ∧ frame.buffer.length = header.frameLength := by
  have counted := sighted.counted_of_ready ready
  constructor
  · intro all
    have contents := sighted.whole header ready all
    refine ⟨contents, ?_⟩
    rw [Buffer.length, contents]
    omega
  · rintro ⟨contents, size⟩
    rw [Buffer.length, contents] at size
    omega

end Sighted

theorem sighted_start (buffer : Buffer) (maxPayload : Nat) :
    Sighted (start buffer maxPayload) {} :=
  ⟨rfl, fun _ => List.nil_prefix, fun _ ready => by simp [start, Phase.fresh] at ready⟩

theorem follow_reader {γ δ : Type} (note : Use → Incoming × Except TransportError Unit → γ → γ)
    (other : Use → Incoming × Except TransportError Unit → δ → δ) (frame : Incoming)
    (account : γ) (elsewhere : δ) (uses : List Use) :
    (follow note frame account uses).1 = (follow other frame elsewhere uses).1 := by
  induction uses generalizing frame account elsewhere with
  | nil => rfl
  | cons use uses ih => exact ih _ _ _

/-- A count beyond the window is an overrun, or the payload goes on behind the window: then it is
accepted, and the buffer ends where the window did. -/
theorem Regular.overreach {frame : Incoming} {progress : Progress} {count : Nat}
    (regular : frame.Regular) (awaits : frame.phase.progress? = some progress)
    (chunky : FrameHeader.size ≤ frame.chunk)
    (extent : frame.buffer.length ≤ max FrameHeader.size (frame.buffered + frame.chunk))
    (exposed : frame.bounds.2 ≤ frame.buffer.length) (beyond : frame.window.length < count) :
    (progress.remaining < count ∧ frame.advance count =
      (frame.close, .error (.protocolViolation
        s!"transfer of {count} bytes overruns the {progress.remaining} remaining"))) ∨
    (count ≤ progress.remaining ∧ (frame.advance count).2 = .ok () ∧
      (frame.advance count).1.buffered = frame.buffered + count ∧
      (frame.advance count).1.buffer.length = frame.buffered + frame.window.length) := by
  have width := regular.window_of_awaiting awaits chunky
  have counts := counts_of_awaiting regular awaits count
  rcases counts.judged regular with
    ⟨rfl, -⟩ | ⟨excess, closed, told⟩ | ⟨header, completes, -⟩ | ⟨-, fits, -, accepted, awake, grown⟩
  · exact absurd beyond (Nat.not_lt_zero _)
  · exact .inl ⟨excess, Prod.ext closed told⟩
  · have complete := completes.count_eq awaits
    -- No header is longer than its window.
    obtain ⟨-, held, phase, -⟩ := completes
    simp only [Regular, phase] at regular
    simp only [phase, Phase.progress?, Option.some.injEq] at awaits
    subst awaits
    rw [Progress.remaining] at complete width
    omega
  · obtain ⟨place, ahead⟩ := regular.bounds_of_awaiting awaits
    have size := frame.length_window
    rw [windowLength] at size
    have full : frame.buffer.length = frame.buffered + frame.window.length := by omega
    refine .inr ⟨fits, accepted, grown, ?_⟩
    have short : frame.buffer.length ≤ frame.buffered + count := by omega
    rw [← full]
    rcases counts.cut regular awake with ⟨same, -⟩ | ⟨cut, -⟩
    · rw [same]
    · rw [cut, grown]
      exact (List.length_take ..).trans (Nat.min_eq_right short)

/-- Whatever a caller does with a reader, a frame that is ready has been counted in full. If all of
it was counted in a window, it is whole and consists of the bytes that were left there, and in no
other case. For the window has what is missing of the header or the payload, up to one chunk, and
a count that is larger is refused only if it is also larger than what is missing; otherwise it is
accepted, with no more in the buffer than the window had. -/
theorem whole_unless_counted_unseen (buffer : Buffer) (maxPayload : Nat) (uses : List Use) :
    let used := follow sight (start buffer maxPayload) {} uses
    let frame := used.1
    let seen := used.2
    (∀ header, frame.phase = .dispatch header →
      seen.shown.length + seen.unseen = header.frameLength ∧
      (seen.unseen = 0 ↔
        frame.buffer.bytes = seen.shown ∧ frame.buffer.length = header.frameLength) ∧
      (seen.unseen = 0 →
        frame.frame? = some (header, seen.shown.drop 4) ∧
          (seen.shown.drop 4).length = header.payloadLength ∧
          frame.release = .ok (header, frame.buffer))) ∧
    (∀ progress, frame.phase.progress? = some progress → ∀ received count,
      let exposed := frame.write received
      exposed.window.length = min progress.remaining (max buffer.capacity 512) ∧
      (exposed.window.length < count →
        (progress.remaining < count ∧ exposed.advance count =
          (exposed.close, .error (.protocolViolation
            s!"transfer of {count} bytes overruns the {progress.remaining} remaining"))) ∨
        (count ≤ progress.remaining ∧ (exposed.advance count).2 = .ok () ∧
          (exposed.advance count).1.buffered = exposed.buffered + count ∧
          (exposed.advance count).1.buffer.length =
            exposed.buffered + exposed.window.length))) := by
  intro used frame seen
  obtain ⟨regular, sighted⟩ : frame.Regular ∧ (frame.phase ≠ .closed → Sighted frame seen) :=
    follow_kept (fun frame seen => frame.phase ≠ .closed → Sighted frame seen) Sighted.use uses
      (regular_start buffer maxPayload) (fun _ => sighted_start buffer maxPayload)
  have grown : Grown buffer.capacity frame
      (follow greatest (start buffer maxPayload) 0 uses).2 := by
    have kept := (follow_kept (Grown buffer.capacity) Grown.use uses
      (regular_start buffer maxPayload) (grown_start buffer maxPayload)).2
    rwa [follow_reader greatest sight _ 0 {} uses] at kept
  refine ⟨?_, ?_⟩
  · intro header ready
    have sighted := sighted (by simp [ready])
    have counted := sighted.counted_of_ready ready
    refine ⟨counted, sighted.whole_iff ready, ?_⟩
    intro all
    refine ⟨?_, ?_, ?_⟩
    · simp only [frame?, ready, sighted.whole header ready all, FrameHeader.size]
    · rw [List.length_drop]
      simp only [FrameHeader.frameLength, FrameHeader.size] at counted
      omega
    · simp only [release, ready]
  · intro progress awaits received count exposed
    have uses : Uses frame (.fill received) exposed (.ok ()) := .filled received
    have grown := grown.use regular uses
    have regular := uses.regular regular
    have width : exposed.chunk = max buffer.capacity 512 := grown.chunk
    have chunky : FrameHeader.size ≤ exposed.chunk := by
      rw [width, FrameHeader.size]
      omega
    have awaits : exposed.phase.progress? = some progress := by rwa [phase_write]
    have room : exposed.bounds.2 ≤ exposed.buffer.length := by
      rw [bounds_write, length_write]
      exact Nat.le_max_right _ _
    refine ⟨width ▸ regular.window_of_awaiting awaits chunky, ?_⟩
    exact regular.overreach awaits chunky (grown.extent (open_of_awaits awaits)) room

/-- A payload of 513 bytes is ready with the 512 of its window: the last one has been counted and
never seen. -/
theorem unseen_byte_is_ready :
    let used := follow sight (start (Buffer.ofCapacity 64) 1024) {}
      [.fill [0, 0, 2, 1], .advance 4, .fill []]
    let exposed := used.1
    let ready := (exposed.advance 513).1
    exposed.window.length = 512 ∧ (exposed.advance 513).2 = .ok () ∧
      (ready.frame?.map fun (header, payload) => (header.payloadLength, payload.length)) =
        some (513, 512) ∧
      ready.buffer.length = 516 :=
  ⟨by decide +kernel, rfl, by decide +kernel, by decide +kernel⟩

end Incoming

end FramedTransport
