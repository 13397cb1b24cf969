import FramedTransport.Frame.Desk
import FramedTransport.Proofs.Accounts
import FramedTransport.Proofs.Codec
import FramedTransport.Proofs.Transfers

/-!
A frame writer in the hands of any caller.
The caller reports counts that may have nothing to do with what is pending. What has
been taken and what is pending make up the frame at any time, so the bytes that leave
are a prefix of it, and all of it exactly when the writer is complete. A buffer that is
lent to a writer has a holder until the writer or its result is given up.
-/

namespace FramedTransport

namespace Outgoing

structure Emission where
  frame : Outgoing
  emitted : Bytes := []
deriving DecidableEq, Repr

namespace Emission

/-- The caller takes so many of the pending bytes; a refused count takes none. -/
def offer (used : Emission) (count : Nat) : Emission :=
  match used.frame.advance count with
  | .ok next => { frame := next, emitted := used.emitted ++ used.frame.pending.take count }
  | .error _ => used

def offerAll (counts : List Nat) (used : Emission) : Emission := counts.foldl offer used

/-- The buffer has the image of the payload, and what has been taken is the front of it. -/
structure Upto (payload : Bytes) (used : Emission) : Prop where
  whole : used.frame.Whole
  image : used.frame.buffer.bytes = Wire.image payload
  emitted : used.emitted = (Wire.image payload).take used.frame.sent

variable {payload : Bytes} {used : Emission}

theorem upto_encode {buffer : Buffer} {maxPayload : Nat} {frame : Outgoing}
    (encoded : encode buffer payload maxPayload = .ok frame) : Upto payload { frame } := by
  obtain ⟨whole, sent, pending, -⟩ := encode_eq_ok encoded
  constructor
  · exact whole
  · simpa [Outgoing.pending, sent] using pending
  · rw [sent]
    rfl

theorem Upto.offer (upto : Upto payload used) (count : Nat) : Upto payload (used.offer count) := by
  unfold Emission.offer
  rcases upto.whole.advance count with
    ⟨next, accepted, -, fits, whole, buffer, sent, -⟩ | ⟨⟨reason, refused⟩, -⟩
  · rw [accepted]
    constructor
    · exact whole
    · exact (congrArg Buffer.bytes buffer).trans upto.image
    · simp only [sent, upto.emitted, pending, upto.image, List.take_add]
  · rw [refused]
    exact upto

theorem Upto.offerAll (upto : Upto payload used) (counts : List Nat) :
    Upto payload (used.offerAll counts) := by
  induction counts generalizing used with
  | nil => exact upto
  | cons count rest ih => exact ih (upto.offer count)

theorem Upto.split (upto : Upto payload used) :
    used.emitted ++ used.frame.pending = Wire.image payload := by
  rw [upto.emitted, pending, upto.image]
  exact List.take_append_drop _ _

theorem Upto.complete_iff (upto : Upto payload used) :
    used.frame.isComplete = true ↔ used.frame.pending = [] := by
  constructor
  · exact pending_of_isComplete upto.whole
  · intro nothing
    by_cases complete : used.frame.isComplete = true
    · exact complete
    · exact absurd nothing (pending_ne_nil upto.whole complete)

/-- How a writer of the payload stands to the image that it has to emit. -/
structure Exact (payload image : Bytes) (used : Emission) : Prop where
  halves : used.frame.buffer.bytes.take used.frame.sent ++ used.frame.pending = image
  front : used.emitted = image.take used.frame.sent
  ends : used.emitted = image ↔ used.frame.isComplete = true
  accepts : ∀ count, (∃ next, used.frame.advance count = .ok next) ↔
    0 < count ∧ count ≤ used.frame.pending.length
  refuses : ∀ count reason, used.frame.advance count = .error reason →
    used.offer count = used ∧ (reason = .connectionClosed ↔ count = 0)
  releases : used.frame.isComplete = true → ∀ remote, ∃ delivery,
    used.frame.release remote = .ok delivery ∧ delivery.payload = payload ∧
      delivery.transferred = 4 + payload.length ∧ delivery.buffer = used.frame.buffer ∧
      delivery.remote = remote
  withholds : used.frame.isComplete = false → ∀ remote, ∃ detail,
    used.frame.release remote = .error (.protocolViolation detail)

theorem refuses_zero (frame : Outgoing) {count : Nat} {reason : TransportError}
    (refused : frame.advance count = .error reason) : reason = .connectionClosed ↔ count = 0 := by
  unfold Outgoing.advance Progress.advance at refused
  split at refused
  · rename_i nothing
    cases refused
    exact iff_of_true rfl nothing
  · rename_i something
    split at refused
    · cases refused
    · cases refused
      exact iff_of_false (by simp) something

theorem Upto.release (upto : Upto payload used) (complete : used.frame.isComplete = true)
    (remote : SocketAddress) :
    ∃ delivery, used.frame.release remote = .ok delivery ∧ delivery.payload = payload ∧
      delivery.transferred = 4 + payload.length ∧ delivery.buffer = used.frame.buffer ∧
      delivery.remote = remote := by
  have length : used.frame.buffer.length = 4 + payload.length := by
    rw [Buffer.length, upto.image, Wire.length_image, FrameHeader.size]
  refine ⟨_, if_pos complete, ?_, length, rfl, rfl⟩
  have behind : (Wire.image payload).drop FrameHeader.size = payload :=
    List.drop_left' (Bytes.length_bigEndian _ _)
  simp only [Delivery.payload, Buffer.slice, upto.image, behind]
  exact List.take_of_length_le (by rw [length, FrameHeader.size]; omega)

theorem Upto.exact (upto : Upto payload used) : Exact payload (Wire.image payload) used where
  halves := by
    rw [upto.image, ← upto.emitted]
    exact upto.split
  front := upto.emitted
  ends := by
    rw [upto.complete_iff, ← upto.split]
    simp
  accepts count := by
    rcases upto.whole.advance count with ⟨next, accepted, fits⟩ | ⟨⟨reason, refused⟩, unfit⟩
    · exact iff_of_true ⟨next, accepted⟩ ⟨fits.1, fits.2.1⟩
    · refine iff_of_false ?_ (by omega)
      rintro ⟨next, accepted⟩
      simp [refused] at accepted
  refuses count reason refused := by
    constructor
    · simp only [Emission.offer, refused]
    · exact refuses_zero used.frame refused
  releases := upto.release
  withholds incomplete remote := ⟨_, if_neg (by simp [incomplete])⟩

end Emission

theorem encode_eq_error_iff {buffer : Buffer} {payload : Bytes} {maxPayload : Nat}
    {reason : TransportError} :
    encode buffer payload maxPayload = .error reason ↔
      min maxPayload (2 ^ 32 - 1) < payload.length ∧
        reason = .frameTooLarge payload.length
          (if maxPayload < payload.length then maxPayload else 2 ^ 32 - 1) := by
  have widest : UInt32.size = 2 ^ 32 := rfl
  by_cases small : maxPayload < payload.length
  · simp only [encode, small, if_true, Except.error.injEq]
    constructor
    · rintro rfl
      exact ⟨by omega, rfl⟩
    · rintro ⟨-, rfl⟩
      rfl
  · by_cases fits : payload.length < UInt32.size
    · obtain ⟨frame, encoded⟩ := encode_ok buffer (Nat.le_of_not_lt small) fits
      rw [encoded]
      exact iff_of_false (by simp) (by omega)
    · simp only [encode, small, if_false, Frame.encodeOnto, FrameHeader.forPayload, fits,
        dite_false, bind, Except.bind, Except.error.injEq]
      constructor
      · rintro rfl
        exact ⟨by omega, rfl⟩
      · rintro ⟨-, rfl⟩
        rfl

end Outgoing

namespace FrameDesk

variable {desk : FrameDesk}

def holders (desk : FrameDesk) : Nat := desk.writer.toList.length + desk.result.toList.length

/-- Every buffer that has been lent and has not come back is with the writer, with its result or is
one of so many that are elsewhere. -/
def Accounts (desk : FrameDesk) (elsewhere : Nat) : Prop :=
  desk.buffers.pool.rented = desk.buffers.pool.returned + desk.holders + elsewhere

def writeAll (actions : List WriterAction) (desk : FrameDesk) : FrameDesk :=
  actions.foldl (fun desk action => (desk.write action).2) desk

variable {elsewhere : Nat}

theorem Accounts.outstanding (accounts : desk.Accounts elsewhere) :
    desk.buffers.stats.outstanding = desk.holders + elsewhere := by
  unfold Accounts at accounts
  rw [BufferPool.stats, Pool.outstanding_stats]
  omega

theorem Accounts.rent (accounts : desk.Accounts elsewhere) (room : Nat) :
    Accounts { desk with buffers := (desk.buffers.rent room).2 } (elsewhere + 1) := by
  obtain ⟨rented, returned⟩ := Pool.rented_rent desk.buffers.policy desk.buffers.pool ()
  unfold Accounts at accounts ⊢
  change (desk.buffers.pool.rent desk.buffers.policy ()).2.1.rented =
    (desk.buffers.pool.rent desk.buffers.policy ()).2.1.returned + desk.holders + _
  omega

theorem Accounts.giveBack (accounts : desk.Accounts (elsewhere + 1)) (buffer : Buffer) :
    (desk.giveBack buffer).Accounts elsewhere := by
  obtain ⟨rented, returned⟩ :=
    Pool.rented_giveBack desk.buffers.policy buffer desk.buffers.pool ()
  unfold Accounts at accounts ⊢
  change (desk.buffers.pool.giveBack desk.buffers.policy buffer ()).1.rented =
    (desk.buffers.pool.giveBack desk.buffers.policy buffer ()).1.returned + desk.holders + _
  omega

theorem Accounts.shrink (accounts : desk.Accounts elsewhere) :
    Accounts { desk with buffers := desk.buffers.shrink.2 } elsewhere := by
  obtain ⟨rented, returned, -⟩ := Pool.rented_discardAll desk.buffers.policy
    desk.buffers.pool.idle.reverse { desk.buffers.pool with idle := [] } ()
  unfold Accounts at accounts ⊢
  change (desk.buffers.pool.shrink desk.buffers.policy ()).2.1.rented =
    (desk.buffers.pool.shrink desk.buffers.policy ()).2.1.returned + desk.holders + _
  rw [Pool.shrink, rented, returned]
  exact accounts

@[simp] theorem writer_dropWriter (desk : FrameDesk) : desk.dropWriter.writer = none := by
  cases held : desk.writer with
  | none => simp only [dropWriter, held]
  | some writer => simp only [dropWriter, held, FrameDesk.giveBack]

@[simp] theorem result_dropWriter (desk : FrameDesk) : desk.dropWriter.result = desk.result := by
  unfold dropWriter
  split <;> rfl

@[simp] theorem result_dropResult (desk : FrameDesk) : desk.dropResult.result = none := by
  cases held : desk.result with
  | none => simp only [dropResult, held]
  | some result => simp only [dropResult, held, FrameDesk.giveBack]

@[simp] theorem writer_dropResult (desk : FrameDesk) : desk.dropResult.writer = desk.writer := by
  unfold dropResult
  split <;> rfl

theorem Accounts.moved (accounts : desk.Accounts elsewhere) {after : FrameDesk} {there : Nat}
    (same : after.buffers = desk.buffers)
    (moved : after.holders + there = desk.holders + elsewhere) : after.Accounts there := by
  unfold Accounts at accounts ⊢
  rw [same]
  omega

theorem Accounts.liftWriter (accounts : desk.Accounts elsewhere) {writer : Outgoing}
    (held : desk.writer = some writer) :
    Accounts { desk with writer := none } (elsewhere + 1) := by
  apply accounts.moved
  · rfl
  · simp only [holders, held, Option.toList_some, Option.toList_none, List.length_singleton,
      List.length_nil]
    omega

theorem Accounts.liftResult (accounts : desk.Accounts elsewhere) {result : Delivery}
    (held : desk.result = some result) :
    Accounts { desk with result := none } (elsewhere + 1) := by
  apply accounts.moved
  · rfl
  · simp only [holders, held, Option.toList_some, Option.toList_none, List.length_singleton,
      List.length_nil]
    omega

theorem Accounts.dropWriter (accounts : desk.Accounts elsewhere) :
    desk.dropWriter.Accounts elsewhere := by
  cases held : desk.writer with
  | none => simpa only [FrameDesk.dropWriter, held] using accounts
  | some writer =>
      simp only [FrameDesk.dropWriter, held]
      exact (accounts.liftWriter held).giveBack _

theorem Accounts.dropResult (accounts : desk.Accounts elsewhere) :
    desk.dropResult.Accounts elsewhere := by
  cases held : desk.result with
  | none => simpa only [FrameDesk.dropResult, held] using accounts
  | some result =>
      simp only [FrameDesk.dropResult, held]
      exact (accounts.liftResult held).giveBack _

theorem Accounts.putWriter (accounts : desk.Accounts (elsewhere + 1)) (free : desk.writer = none)
    (writer : Outgoing) : Accounts { desk with writer := some writer } elsewhere := by
  apply accounts.moved
  · rfl
  · simp only [holders, free, Option.toList_some, Option.toList_none, List.length_singleton,
      List.length_nil]
    omega

theorem Accounts.putResult (accounts : desk.Accounts (elsewhere + 1)) (free : desk.result = none)
    (result : Delivery) : Accounts { desk with result := some result } elsewhere := by
  apply accounts.moved
  · rfl
  · simp only [holders, free, Option.toList_some, Option.toList_none, List.length_singleton,
      List.length_nil]
    omega

/-- A buffer moves from the pool to the writer, on to the result and back; none is lost. -/
theorem Accounts.write (accounts : desk.Accounts elsewhere) (action : WriterAction) :
    (desk.write action).2.Accounts elsewhere := by
  cases action with
  | encode stale payload room maxPayload =>
      -- While it is encoded into, the rented buffer is with nobody at the desk.
      have lent := accounts.dropWriter.rent room
      simp only [FrameDesk.write]
      split
      · exact lent.putWriter (writer_dropWriter desk) _
      · exact lent.giveBack _
  | advance count =>
      cases held : desk.writer with
      | none => simpa only [FrameDesk.write, withWriter, held] using accounts
      | some writer =>
          simp only [FrameDesk.write, withWriter, held]
          split
          · exact (accounts.liftWriter held).putWriter rfl _
          · exact accounts
  | pending =>
      cases held : desk.writer with
      | none => simpa only [FrameDesk.write, withWriter, held] using accounts
      | some writer => simpa only [FrameDesk.write, withWriter, held] using accounts
  | release remote =>
      cases held : desk.writer with
      | none => simpa only [FrameDesk.write, withWriter, held] using accounts
      | some writer =>
          simp only [FrameDesk.write, withWriter, held]
          split
          · exact (accounts.liftWriter held).dropResult.putResult (result_dropResult _) _
          · exact accounts.dropWriter
  | takeBytes =>
      cases held : desk.result with
      | none => simpa only [FrameDesk.write, held] using accounts
      | some delivery =>
          simp only [FrameDesk.write, held]
          exact accounts.dropResult
  | shrink => exact accounts.shrink
  | drop => exact accounts.dropWriter.dropResult

theorem Accounts.writeAll (accounts : desk.Accounts elsewhere) (actions : List WriterAction) :
    (desk.writeAll actions).Accounts elsewhere := by
  induction actions generalizing desk with
  | nil => exact accounts
  | cons action rest ih => exact ih (accounts.write action)

theorem writer_writeAll_advance {used : Outgoing.Emission} (held : desk.writer = some used.frame)
    (counts : List Nat) :
    (desk.writeAll (counts.map .advance)).writer = some (used.offerAll counts).frame := by
  induction counts generalizing desk used with
  | nil => exact held
  | cons count rest ih =>
      apply ih
      simp only [FrameDesk.write, withWriter, held, Outgoing.Emission.offer]
      cases used.frame.advance count with
      | ok next => rfl
      | error reason => exact held

/-- Where the buffer of an encoding is afterwards: with the writer, or not at the desk. -/
def Encoded (desk : FrameDesk) (made : Except TransportError Outgoing)
    (step : Reply × FrameDesk) : Prop :=
  step.2.result = desk.result ∧
    match made with
    | .ok frame => step.1 = .done ∧ step.2.writer = some frame
    | .error reason => step.1 = .refused reason ∧ step.2.writer = none

def Released (desk : FrameDesk) (made : Except TransportError Delivery)
    (step : Reply × FrameDesk) : Prop :=
  step.2.writer = none ∧
    match made with
    | .ok delivery => step.1 = .delivered delivery ∧ step.2.result = some delivery
    | .error reason => step.1 = .refused reason ∧ step.2.result = desk.result

theorem encoded_write (desk : FrameDesk) (stale payload : Bytes) (room maxPayload : Nat) :
    let lease := (desk.dropWriter.buffers.rent room).1.append stale
    Encoded desk (Outgoing.encode lease payload maxPayload)
      (desk.write (.encode stale payload room maxPayload)) := by
  intro lease
  cases encoded : Outgoing.encode lease payload maxPayload with
  | ok frame =>
      simp only [FrameDesk.write, encoded, lease]
      exact ⟨result_dropWriter desk, rfl, rfl⟩
  | error reason =>
      simp only [FrameDesk.write, encoded, lease]
      exact ⟨result_dropWriter desk, rfl, writer_dropWriter desk⟩

theorem released_write {frame : Outgoing} (held : desk.writer = some frame)
    (remote : SocketAddress) :
    Released desk (frame.release remote) (desk.write (.release remote)) := by
  cases made : frame.release remote with
  | ok delivery =>
      simp only [FrameDesk.write, withWriter, held, made]
      exact ⟨writer_dropResult _, rfl, rfl⟩
  | error reason =>
      simp only [FrameDesk.write, withWriter, held, made]
      exact ⟨writer_dropWriter desk, rfl, result_dropWriter desk⟩

theorem result_takeBytes (desk : FrameDesk) : (desk.write .takeBytes).2.result = none := by
  cases held : desk.result with
  | none => simp only [FrameDesk.write, held]
  | some delivery =>
      simp only [FrameDesk.write, held]
      exact result_dropResult desk

/-- A writer emits its frame and nothing else, whatever the counts are that it is told, and however
long the buffer has been in use that it is given. A payload is refused exactly if it is above the
limit or above what four bytes announce. After every sequence of counts the bytes of the frame that
count as sent and the pending ones make up the frame, the bytes that were taken are its front, and
all of it exactly when the writer is complete; a refused count changes nothing; only a complete
writer is released, as the payload that it was made of. The buffer goes from the pool to the writer,
back at once if the payload is refused or the writer is released too early, else on to the result,
and back when the result is dropped or its bytes are taken: after every history the buffers that are
outstanding are those of the writer and its result and those that were elsewhere before. -/
theorem emits_exactly_its_frame :
    (∀ lease payload maxPayload reason, Outgoing.encode lease payload maxPayload = .error reason ↔
      min maxPayload (2 ^ 32 - 1) < payload.length ∧
        reason = .frameTooLarge payload.length
          (if maxPayload < payload.length then maxPayload else 2 ^ 32 - 1)) ∧
    (∀ lease payload maxPayload frame, Outgoing.encode lease payload maxPayload = .ok frame →
      ∃ header encoded, Frame.appendTo {} payload = (.ok header, encoded) ∧
        ∀ counts, Outgoing.Emission.Exact payload encoded.bytes
          (Outgoing.Emission.offerAll counts { frame })) ∧
    (∀ capacity maxRetained maxIdle,
      Accounts { buffers := { capacity, maxRetained, maxIdle } } 0) ∧
    (∀ (desk : FrameDesk) elsewhere actions, desk.Accounts elsewhere →
      (desk.writeAll actions).buffers.stats.outstanding =
        (desk.writeAll actions).holders + elsewhere) ∧
    (∀ (desk : FrameDesk) stale payload room maxPayload,
      let lease := (desk.dropWriter.buffers.rent room).1.append stale
      Encoded desk (Outgoing.encode lease payload maxPayload)
        (desk.write (.encode stale payload room maxPayload))) ∧
    (∀ (desk : FrameDesk) frame counts, desk.writer = some frame →
      (desk.writeAll (counts.map .advance)).writer =
        some (Outgoing.Emission.offerAll counts { frame }).frame) ∧
    (∀ (desk : FrameDesk) (frame : Outgoing) remote, desk.writer = some frame →
      Released desk (frame.release remote) (desk.write (.release remote))) ∧
    (∀ desk : FrameDesk, (desk.write .takeBytes).2.result = none ∧
      (desk.write .drop).2.writer = none ∧ (desk.write .drop).2.result = none) := by
  refine ⟨fun _ _ _ _ => Outgoing.encode_eq_error_iff, ?_, fun _ _ _ => rfl, ?_, encoded_write, ?_,
    ?_, ?_⟩
  · intro lease payload maxPayload frame made
    obtain ⟨-, -, -, fits⟩ := Outgoing.encode_eq_ok made
    obtain ⟨encoded, appended, image⟩ := Frame.appendTo_fits {} fits
    refine ⟨_, encoded, appended, fun counts => ?_⟩
    rw [image, List.nil_append]
    exact ((Outgoing.Emission.upto_encode made).offerAll counts).exact
  · intro desk elsewhere actions accounts
    exact (accounts.writeAll actions).outstanding
  · intro desk frame counts held
    exact writer_writeAll_advance held counts
  · intro desk frame remote held
    exact released_write held remote
  · intro desk
    refine ⟨result_takeBytes desk, ?_, result_dropResult _⟩
    exact (writer_dropResult _).trans (writer_dropWriter desk)

end FrameDesk

end FramedTransport
