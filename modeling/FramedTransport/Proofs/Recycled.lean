import FramedTransport.Proofs.Streams

/-!
Recycled buffers and what an operation shows.
Two engines with the same settings may have used their buffers in quite different ways:
their idle buffers differ in number and capacity, and so do the windows through which
frames are read. What one large read gets, several small ones get at the same moment, so
the narrowest of all windows, one byte wide, is what every other one is compared with. As
long as nobody is cancelled, outcomes, handler calls and links are the same.
-/

namespace FramedTransport

namespace Incoming

variable {frame other next : Incoming} {held : Bytes} {header : FrameHeader}

theorem same_onHeader (frame : Incoming) :
    frame.onHeader.1.maxPayload = frame.maxPayload ∧ frame.onHeader.1.chunk = frame.chunk := by
  unfold onHeader
  split
  · exact ⟨rfl, rfl⟩
  · split
    · exact ⟨rfl, rfl⟩
    · split <;> exact ⟨rfl, rfl⟩

theorem same_advance (frame : Incoming) (count : Nat) :
    (frame.advance count).1.maxPayload = frame.maxPayload ∧
      (frame.advance count).1.chunk = frame.chunk := by
  unfold advance
  split
  · split
    · exact ⟨rfl, rfl⟩
    · split
      · exact same_onHeader frame
      · exact ⟨rfl, rfl⟩
  · split <;> exact ⟨rfl, rfl⟩
  · exact ⟨rfl, rfl⟩
  · exact ⟨rfl, rfl⟩

theorem same_taken {received : Bytes} {result : Except TransportError Unit}
    (taken : (frame.write received).advance received.length = (next, result)) :
    next.maxPayload = frame.maxPayload ∧ next.chunk = frame.chunk := by
  have same := same_advance (frame.write received) received.length
  rw [taken, maxPayload_write, chunk_write] at same
  exact same

theorem Holds.header_of_peek (holds : frame.Holds held) (short : FrameHeader.peek held = none) :
    ∃ fits, frame.phase = .header ⟨FrameHeader.size, held.length, fits⟩ := by
  obtain ⟨-, -, known⟩ := holds
  cases phase : frame.phase <;> simp only [phase, short, reduceCtorEq, false_and] at known
  case header progress =>
    obtain ⟨expected, transferred, fits⟩ := progress
    obtain ⟨rfl, rfl, -⟩ := known
    exact ⟨fits, rfl⟩

theorem Holds.payload_of_peek (holds : frame.Holds held)
    (peeked : FrameHeader.peek held = some header) (unfinished : held.length < header.frameLength) :
    ∃ fits, frame.phase =
      .payload header ⟨header.payloadLength, held.length - FrameHeader.size, fits⟩ := by
  obtain ⟨-, -, known⟩ := holds
  have enough := (Wire.peek_eq_some.1 peeked).1
  cases phase : frame.phase <;>
    simp only [phase, peeked, Option.some.injEq] at known
  case header progress => omega
  case payload declared progress =>
    obtain ⟨expected, transferred, fits⟩ := progress
    obtain ⟨rfl, -, rfl, place, -⟩ := known
    obtain rfl : transferred = held.length - FrameHeader.size := by
      dsimp only at place
      omega
    exact ⟨fits, rfl⟩
  case dispatch declared =>
    obtain ⟨rfl, -, whole, -⟩ := known
    omega

theorem Holds.dispatch_of_peek (holds : frame.Holds held)
    (peeked : FrameHeader.peek held = some header) (whole : header.frameLength ≤ held.length) :
    frame.phase = .dispatch header := by
  obtain ⟨-, -, known⟩ := holds
  have enough := (Wire.peek_eq_some.1 peeked).1
  cases phase : frame.phase <;>
    simp only [phase, peeked, Option.some.injEq] at known
  case header progress => omega
  case payload declared progress =>
    obtain ⟨rfl, -, expected, place, below⟩ := known
    rw [FrameHeader.frameLength] at whole
    omega
  case dispatch declared => rw [known.1]

theorem Holds.phase_eq (one : frame.Holds held) (two : other.Holds held) :
    frame.phase = other.phase := by
  cases peeked : FrameHeader.peek held with
  | none =>
      obtain ⟨_, first⟩ := one.header_of_peek peeked
      obtain ⟨_, second⟩ := two.header_of_peek peeked
      exact first.trans second.symm
  | some header =>
      by_cases unfinished : held.length < header.frameLength
      · obtain ⟨_, first⟩ := one.payload_of_peek peeked unfinished
        obtain ⟨_, second⟩ := two.payload_of_peek peeked unfinished
        exact first.trans second.symm
      · have whole := Nat.le_of_not_lt unfinished
        exact (one.dispatch_of_peek peeked whole).trans (two.dispatch_of_peek peeked whole).symm

theorem Holds.fits_limit (holds : frame.Holds held)
    (peeked : FrameHeader.peek held = some header) : header.payloadLength ≤ frame.maxPayload := by
  obtain ⟨-, -, known⟩ := holds
  have enough := (Wire.peek_eq_some.1 peeked).1
  cases phase : frame.phase <;>
    simp only [phase, peeked, Option.some.injEq] at known
  case header progress => omega
  case payload declared progress => exact known.1 ▸ known.2.1
  case dispatch declared => exact known.1 ▸ known.2.1

theorem Holds.accepts (holds : frame.Holds held) (peeked : FrameHeader.peek held = some header)
    {received : Bytes} (positive : 0 < received.length)
    (fits : received.length ≤ frame.windowLength) :
    ∃ next, (frame.write received).advance received.length = (next, .ok ()) ∧
      next.Holds (held ++ received) := by
  have took := holds.took received positive fits
  cases advanced : (frame.write received).advance received.length with
  | mk next outcome =>
      rw [advanced] at took
      cases outcome with
      | ok value => exact ⟨next, rfl, took.1⟩
      | error reason =>
          obtain ⟨-, declared, shown, excess, -⟩ := took
          cases (Wire.peek_append peeked received).symm.trans shown
          exact absurd (holds.fits_limit peeked) (Nat.not_le.2 excess)

theorem Holds.held_eq {also : Bytes} (one : frame.Holds held) (two : frame.Holds also) :
    held = also := by
  have same : held.length = also.length := one.buffered.symm.trans two.buffered
  exact (List.prefix_of_prefix_length_le one.2.1 two.2.1 (Nat.le_of_eq same)).eq_of_length same

theorem Holds.window_of_short (holds : frame.Holds held) (short : FrameHeader.peek held = none) :
    frame.windowLength = FrameHeader.size - held.length := by
  obtain ⟨_, phase⟩ := holds.header_of_peek short
  simp only [windowLength, Incoming.bounds, phase]

theorem Holds.window_of_peek (holds : frame.Holds held)
    (peeked : FrameHeader.peek held = some header) (unfinished : held.length < header.frameLength) :
    frame.wantsBytes = true ∧
      frame.windowLength = min (header.frameLength - held.length) frame.chunk := by
  obtain ⟨_, phase⟩ := holds.payload_of_peek peeked unfinished
  have enough := (Wire.peek_eq_some.1 peeked).1
  simp only [wantsBytes, windowLength, Incoming.bounds, phase, Progress.remaining,
    FrameHeader.frameLength, true_and]
  omega

theorem Holds.unfinished_of_wants (holds : frame.Holds held) (wants : frame.wantsBytes = true)
    (peeked : FrameHeader.peek held = some header) : held.length < header.frameLength := by
  refine Nat.lt_of_not_le fun whole => ?_
  have ready := holds.dispatch_of_peek peeked whole
  simp [wantsBytes, ready] at wants

/-- Two readers that have the same bytes and refuse the same frames; the capacities of their
buffers, the sizes of their windows and what stands behind the bytes may differ. -/
structure Alike (held : Bytes) (one other : Incoming) : Prop where
  first : one.Holds held
  second : other.Holds held
  limit : one.maxPayload = other.maxPayload

theorem Alike.symm (alike : Alike held frame other) : Alike held other frame where
  first := alike.second
  second := alike.first
  limit := alike.limit.symm

theorem Alike.phase_eq (alike : Alike held frame other) : frame.phase = other.phase :=
  alike.first.phase_eq alike.second

theorem Alike.wants (alike : Alike held frame other) (wants : frame.wantsBytes = true) :
    other.wantsBytes = true := by
  unfold wantsBytes at wants ⊢
  rwa [← alike.phase_eq]

theorem Alike.window (alike : Alike held frame other) (wants : frame.wantsBytes = true)
    (single : other.chunk = 1) :
    other.windowLength = frame.windowLength ∨
      other.windowLength = 1 ∧ ∃ header, FrameHeader.peek held = some header ∧
        held.length + frame.windowLength ≤ header.frameLength := by
  cases peeked : FrameHeader.peek held with
  | none =>
      exact .inl ((alike.second.window_of_short peeked).trans
        (alike.first.window_of_short peeked).symm)
  | some header =>
      have unfinished := alike.first.unfinished_of_wants wants peeked
      obtain ⟨-, wide⟩ := alike.first.window_of_peek peeked unfinished
      obtain ⟨-, narrow⟩ := alike.second.window_of_peek peeked unfinished
      exact .inr ⟨by omega, header, rfl, by omega⟩

theorem Alike.narrower (alike : Alike held frame other) (wants : frame.wantsBytes = true)
    (single : other.chunk = 1) : other.windowLength ≤ frame.windowLength := by
  have positive := alike.first.windowLength_pos wants
  rcases alike.window wants single with equal | ⟨narrow, -⟩ <;> omega

theorem Alike.take (alike : Alike held frame other) (wants : frame.wantsBytes = true)
    {received : Bytes} (fits : received.length ≤ frame.windowLength)
    (also : received.length ≤ other.windowLength) :
    ∃ one two outcome, (frame.write received).advance received.length = (one, outcome) ∧
      (other.write received).advance received.length = (two, outcome) ∧ one.phase = two.phase ∧
      (outcome = .ok () → Alike (held ++ received) one two) := by
  rcases Nat.eq_zero_or_pos received.length with none | positive
  · rw [none, advance_nothing (wantsBytes_write wants _),
      advance_nothing (wantsBytes_write (alike.wants wants) _)]
    exact ⟨_, _, _, rfl, rfl, rfl, nofun⟩
  · have first := alike.first.took received positive fits
    have second := alike.second.took received positive also
    rw [← alike.limit] at second
    generalize (frame.write received).advance received.length = one at first
    generalize (other.write received).advance received.length = two at second
    obtain ⟨one, _ | _⟩ := one <;> obtain ⟨two, _ | _⟩ := two
    · obtain ⟨closed, declared, peeked, -, rfl⟩ := first
      obtain ⟨shut, also, shown, -, rfl⟩ := second
      cases peeked.symm.trans shown
      exact ⟨_, _, _, rfl, rfl, closed.trans shut.symm, nofun⟩
    · obtain ⟨-, declared, peeked, excess, -⟩ := first
      exact absurd (second.1.fits_limit peeked) (by rw [second.2]; exact Nat.not_le.2 excess)
    · obtain ⟨-, declared, peeked, excess, -⟩ := second
      exact absurd (first.1.fits_limit peeked) (by rw [first.2]; exact Nat.not_le.2 excess)
    · have after : Alike (held ++ received) one two :=
        ⟨first.1, second.1, first.2.trans second.2.symm⟩
      exact ⟨_, _, _, rfl, rfl, after.phase_eq, fun _ => after⟩

end Incoming

theorem Link.running_before {before after : Link}
    (kept : before.time.cancelled = true → after.time.cancelled = true)
    (running : after.time.cancelled = false) : before.time.cancelled = false := by
  refine Bool.eq_false_iff.2 fun cancelled => ?_
  rw [kept cancelled] at running
  cases running

namespace Reader

open Incoming

variable {reader : Reader} {watch : Watch} {frame narrow one other : Incoming} {held : Bytes}
  {header : FrameHeader} {link after : Link}

/-- What two readers have in common that were filled from the same link. -/
structure SameFill (one other : Outcome Unit × Incoming) : Prop where
  outcome : one.1 = other.1
  phase : one.2.phase = other.2.phase
  filled : one.1 = .ok () → ∃ held, Alike held one.2 other.2

theorem cancelled_fill (reader : Reader) (watch : Watch) (frame : Incoming) (link : Link)
    (cancelled : link.time.cancelled = true) :
    (reader.fill watch frame link).2.time.cancelled = true := by
  have read (frame : Incoming) {link : Link} (cancelled : link.time.cancelled = true) :
      (reader.read watch frame.windowLength link).2.time.cancelled = true :=
    reader.cancelled cancelled
  fun_induction fill reader watch frame link with
  | case1 frame link wants halt after stopped => simpa only [stopped] using read frame cancelled
  | case2 frame link wants received after arrived next reason refused =>
      simpa only [arrived] using read frame cancelled
  | case3 frame link wants received after arrived next accepted ih =>
      exact ih (by simpa only [arrived] using read frame cancelled)
  | case4 frame link idle header ready => exact cancelled
  | case5 frame link idle undispatched => exact cancelled

theorem running_of_fill (running : (reader.fill watch frame link).2.time.cancelled = false) :
    link.time.cancelled = false :=
  Link.running_before (reader.cancelled_fill watch frame link) running

/-- What a large window gets at once, a window of one byte gets byte by byte. -/
theorem catch_up {received : Bytes} {room : Nat} (holds : narrow.Holds held)
    (single : narrow.chunk = 1) (peeked : FrameHeader.peek held = some header)
    (within : held.length + room ≤ header.frameLength) (present : received ≠ [])
    (arrived : reader.read watch room link = (.ok received, after))
    (running : after.time.cancelled = false ∨
      (reader.fill watch narrow link).2.time.cancelled = false) :
    ∃ caught : Incoming, caught.Holds (held ++ received) ∧ caught.chunk = 1 ∧
      caught.maxPayload = narrow.maxPayload ∧
      reader.fill watch narrow link = reader.fill watch caught after := by
  induction received generalizing narrow held room link with
  | nil => exact absurd rfl present
  | cons byte rest ih =>
      have fits := reader.fits arrived
      rw [List.length_cons] at fits
      obtain ⟨wants, window⟩ := holds.window_of_peek peeked (by omega)
      have window : narrow.windowLength = 1 := by omega
      obtain ⟨next, taken, holdsNext⟩ :=
        holds.accepts peeked (show 0 < [byte].length from Nat.one_pos) (Nat.le_of_eq window.symm)
      have kept := same_taken taken
      rcases Nat.eq_zero_or_pos rest.length with last | more
      · obtain rfl := List.eq_nil_of_length_eq_zero last
        refine ⟨next, holdsNext, kept.2.trans single, kept.1, fill_accepted wants ?_ taken⟩
        rw [window]
        exact reader.whole arrived Nat.one_pos (by omega) (Nat.le_refl 1)
      · obtain ⟨middle, first, moment, others⟩ :=
          reader.parted arrived Nat.one_pos (by rw [List.length_cons]; omega)
        have step : reader.fill watch narrow link = reader.fill watch next middle :=
          fill_accepted wants (by rw [window]; exact first) taken
        -- The one byte came at the moment at which the large read ended.
        have running : after.time.cancelled = false := by
          rcases running with done | done
          · exact done
          · rw [← moment]
            exact running_of_fill (step ▸ done)
        obtain ⟨caught, holdsAll, chunk, limit, same⟩ :=
          ih holdsNext (kept.2.trans single) (Wire.peek_append peeked [byte])
            (by rw [List.length_append, List.length_singleton]; omega)
            (List.ne_nil_of_length_pos more) (others running) (.inl running)
        rw [List.append_assoc] at holdsAll
        exact ⟨caught, holdsAll, chunk, limit.trans kept.1, step.trans same⟩

theorem read_narrow {received : Bytes} (alike : Alike held frame narrow)
    (wants : frame.wantsBytes = true) (single : narrow.chunk = 1)
    (arrived : reader.read watch frame.windowLength link = (.ok received, after)) :
    received.length ≤ narrow.windowLength ∧
        reader.read watch narrow.windowLength link = (.ok received, after) ∨
      received ≠ [] ∧ ∃ header, FrameHeader.peek held = some header ∧
        held.length + frame.windowLength ≤ header.frameLength := by
  have positive := alike.second.windowLength_pos (alike.wants wants)
  by_cases short : received.length ≤ narrow.windowLength
  · exact .inl ⟨short, reader.whole arrived positive (alike.narrower wants single) short⟩
  · have fits := reader.fits arrived
    rcases alike.window wants single with equal | ⟨-, inside⟩
    · omega
    · exact .inr ⟨List.ne_nil_of_length_pos (by omega), inside⟩

namespace SameFill

variable {one two three : Outcome Unit × Incoming}

theorem of_error {halt : Halt} {frame frameToo : Incoming} (phase : frame.phase = frameToo.phase) :
    SameFill (.error halt, frame) (.error halt, frameToo) where
  outcome := rfl
  phase
  filled complete := by cases complete

theorem symm (same : SameFill one two) : SameFill two one where
  outcome := same.outcome.symm
  phase := same.phase.symm
  filled complete := by
    obtain ⟨held, alike⟩ := same.filled (same.outcome.trans complete)
    exact ⟨held, alike.symm⟩

theorem trans (near : SameFill one two) (far : SameFill two three) : SameFill one three where
  outcome := near.outcome.trans far.outcome
  phase := near.phase.trans far.phase
  filled complete := by
    obtain ⟨held, left⟩ := near.filled complete
    obtain ⟨same, right⟩ := far.filled (near.outcome ▸ complete)
    obtain rfl : held = same := left.second.held_eq right.first
    exact ⟨held, left.first, right.second, left.limit.trans right.limit⟩

end SameFill

/-- However wide its window is, a reader ends as one with a window of one byte does. -/
theorem fill_narrow (alike : Alike held frame narrow) (single : narrow.chunk = 1)
    (running : (reader.fill watch frame link).2.time.cancelled = false ∨
      (reader.fill watch narrow link).2.time.cancelled = false) :
    SameFill (reader.fill watch frame link).1 (reader.fill watch narrow link).1 ∧
      (reader.fill watch frame link).2 = (reader.fill watch narrow link).2 := by
  -- The induction follows the wider reader. Behind one of its reads the narrow one has made as many
  -- as there were bytes, and the two hold the same again.
  fun_induction fill reader watch frame link generalizing held narrow with
  | case1 frame link wants halt after stopped =>
      have also := alike.wants wants
      have ended := fill_stopped also
        (reader.stopped stopped (alike.second.windowLength_pos also) (alike.narrower wants single))
      rw [ended]
      refine ⟨.of_error ?_, rfl⟩
      simpa only [phase_expose] using alike.phase_eq
  | case2 frame link wants received after arrived next reason refused =>
      have also := alike.wants wants
      have fits := reader.fits arrived
      rcases read_narrow alike wants single arrived with
        ⟨short, same⟩ | ⟨present, header, peeked, -⟩
      · obtain ⟨one, two, outcome, first, second, phase, -⟩ := alike.take wants fits short
        cases refused.symm.trans first
        rw [fill_refused also same second, alike.second.buffered, alike.first.buffered]
        exact ⟨.of_error phase, rfl⟩
      · obtain ⟨taken, accepted, -⟩ :=
          alike.first.accepts peeked (List.length_pos_iff.2 present) fits
        cases refused.symm.trans accepted
  | case3 frame link wants received after arrived next accepted ih =>
      have also := alike.wants wants
      have fits := reader.fits arrived
      rcases read_narrow alike wants single arrived with
        ⟨short, same⟩ | ⟨present, header, peeked, within⟩
      · obtain ⟨one, two, outcome, first, second, -, both⟩ := alike.take wants fits short
        cases accepted.symm.trans first
        have step := fill_accepted also same second
        rw [step] at running ⊢
        exact ih (both rfl) ((same_taken second).2.trans single) running
      · obtain ⟨taken, first, holds⟩ :=
          alike.first.accepts peeked (List.length_pos_iff.2 present) fits
        cases accepted.symm.trans first
        obtain ⟨caught, holdsAll, chunk, limit, step⟩ :=
          catch_up alike.second single peeked within present arrived
            (running.imp_left running_of_fill)
        rw [step] at running ⊢
        refine ih ⟨holds, holdsAll, ?_⟩ chunk running
        exact (same_taken first).1.trans (alike.limit.trans limit.symm)
  | case4 frame link idle header ready =>
      rw [fill_ready (alike.phase_eq.symm.trans ready)]
      exact ⟨⟨rfl, alike.phase_eq, fun _ => ⟨held, alike⟩⟩, rfl⟩
  | case5 frame link idle undispatched =>
      obtain ⟨whole, ready, -⟩ := alike.first.ready (Bool.eq_false_iff.2 idle)
      exact absurd ready (undispatched whole.header)

theorem fill_alike (alike : Alike held one other)
    (running : (reader.fill watch one link).2.time.cancelled = false) :
    SameFill (reader.fill watch one link).1 (reader.fill watch other link).1 ∧
      (reader.fill watch one link).2 = (reader.fill watch other link).2 := by
  -- Neither window needs to be the wider one: both are compared with one of a byte.
  have narrow : Holds { one with chunk := 1 } held := ⟨Nat.one_pos, alike.first.2⟩
  obtain ⟨near, link⟩ := fill_narrow ⟨alike.first, narrow, rfl⟩ rfl (.inl running)
  rw [link] at running
  obtain ⟨far, also⟩ := fill_narrow ⟨alike.second, narrow, alike.limit.symm⟩ rfl (.inr running)
  exact ⟨near.trans far.symm, link.trans also.symm⟩

end Reader

end FramedTransport
