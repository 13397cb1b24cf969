import FramedTransport.Frame.Outgoing
import FramedTransport.Proofs.Growth
import FramedTransport.Proofs.Tickets

/-!
What a pool keeps of the buffers that come back.
Nothing that is done to a buffer takes away any of the room that it was made with. A returned
one is cleared and asked how large it is by then. So what waits is empty, has the room that
every new buffer has and no more than the pool retains, and a rented buffer cannot tell who
had it before.
-/

namespace FramedTransport

namespace Buffer

inductive Edit where
  | reserve (additional : Nat)
  | extend (more : Bytes)
  | resize (count : Nat)
  | truncate (count : Nat)
  | overwrite (start : Nat) (more : Bytes)
  | clear
deriving DecidableEq, Repr

def edit (buffer : Buffer) : Edit → Buffer
  | .reserve additional => buffer.reserve additional
  | .extend more => buffer.append more
  | .resize count => buffer.resize count
  | .truncate count => buffer.truncate count
  | .overwrite start more => buffer.overwrite start more
  | .clear => buffer.clear

theorem le_capacity_reserve (buffer : Buffer) (additional : Nat) :
    max (buffer.length + additional) buffer.capacity ≤ (buffer.reserve additional).capacity := by
  simp only [reserve]
  by_cases enough : buffer.length + additional ≤ buffer.capacity
  · rw [if_pos enough]
    omega
  · rw [if_neg enough]
    dsimp only
    omega

theorem le_capacity_append (buffer : Buffer) (more : Bytes) :
    buffer.capacity ≤ (buffer.append more).capacity :=
  Nat.le_trans (Nat.le_max_right _ _) (buffer.le_capacity_reserve more.length)

theorem le_capacity_resize (buffer : Buffer) (count : Nat) :
    buffer.capacity ≤ (buffer.resize count).capacity := by
  unfold resize
  by_cases shrinks : count ≤ buffer.length
  · rw [if_pos shrinks]
    exact Nat.le_refl _
  · rw [if_neg shrinks]
    exact buffer.le_capacity_append _

theorem le_capacity_edit (buffer : Buffer) (change : Edit) :
    buffer.capacity ≤ (buffer.edit change).capacity := by
  cases change with
  | reserve additional =>
      exact Nat.le_trans (Nat.le_max_right _ _) (buffer.le_capacity_reserve additional)
  | extend more => exact buffer.le_capacity_append more
  | resize count => exact buffer.le_capacity_resize count
  | truncate count => exact Nat.le_refl _
  | overwrite start more => exact Nat.le_refl _
  | clear => exact Nat.le_refl _

end Buffer

namespace Incoming

theorem le_capacity_emptied (buffer : Buffer) : buffer.capacity ≤ (emptied buffer).capacity :=
  buffer.clear.le_capacity_resize FrameHeader.size

theorem le_capacity_write (frame : Incoming) (received : Bytes) :
    frame.buffer.capacity ≤ (frame.write received).buffer.capacity := by
  simp only [write, Buffer.capacity_overwrite, expose]
  split
  · exact frame.buffer.le_capacity_resize _
  · exact Nat.le_refl _

theorem capacity_onHeader (frame : Incoming) :
    frame.onHeader.1.buffer.capacity = frame.buffer.capacity := by
  unfold onHeader closeWith
  split
  · rfl
  · split
    · rfl
    · split <;> rfl

-- A payload is cut to what has been counted, which leaves the room as it is.
theorem capacity_advance (frame : Incoming) (count : Nat) :
    (frame.advance count).1.buffer.capacity = frame.buffer.capacity := by
  cases phase : frame.phase with
  | header progress =>
      simp only [advance, phase]
      split
      · rfl
      · split
        · exact frame.capacity_onHeader
        · rfl
  | payload header progress =>
      simp only [advance, phase]
      split <;> rfl
  | dispatch header => simp only [advance, phase]
  | closed => simp only [advance, phase]

theorem le_capacity_use (frame : Incoming) (use : Use) :
    frame.buffer.capacity ≤ (frame.use use).1.buffer.capacity := by
  cases use with
  | fill received => exact frame.le_capacity_write received
  | advance count => exact Nat.le_of_eq (frame.capacity_advance count).symm
  | rearm =>
      simp only [Incoming.use, rearm]
      split
      · exact le_capacity_emptied frame.buffer
      · exact Nat.le_refl _
  | close => exact Nat.le_refl _

end Incoming

namespace Outgoing

theorem le_capacity_encode {buffer : Buffer} {payload : Bytes} {maxPayload : Nat}
    {frame : Outgoing} (encoded : encode buffer payload maxPayload = .ok frame) :
    buffer.capacity ≤ frame.buffer.capacity := by
  unfold encode at encoded
  split at encoded
  · cases encoded
  · simp only [Frame.encodeOnto, bind, Except.bind] at encoded
    cases announced : FrameHeader.forPayload payload.length with
    | error reason => simp only [announced, reduceCtorEq] at encoded
    | ok header =>
        simp only [announced, pure, Except.pure, Except.ok.injEq] at encoded
        subst encoded
        exact Nat.le_trans (Nat.le_max_right _ _) (buffer.clear.le_capacity_reserve _)

theorem buffer_advance {frame next : Outgoing} {count : Nat}
    (advanced : frame.advance count = .ok next) : next.buffer = frame.buffer := by
  simp only [advance, bind, Except.bind] at advanced
  split at advanced
  · cases advanced
  · cases advanced
    rfl

theorem buffer_release {frame : Outgoing} {remote : SocketAddress} {delivery : Delivery}
    (released : frame.release remote = .ok delivery) : delivery.buffer = frame.buffer := by
  unfold release at released
  split at released
  · cases released
    rfl
  · cases released

end Outgoing

namespace BufferPool

def settle (carried : Option Buffer) (buffers : BufferPool) : BufferPool :=
  match carried with
  | some buffer => buffers.giveBack buffer
  | none => buffers

theorem giveBack_eq (buffers : BufferPool) (buffer : Buffer) :
    buffers.giveBack buffer =
      { buffers with
        pool :=
          if buffer.capacity ≤ buffers.maxRetained ∧ buffers.pool.idle.length < buffers.maxIdle then
            { buffers.pool with
              idle := buffer.clear :: buffers.pool.idle
              returned := buffers.pool.returned + 1 }
          else
            { buffers.pool with
              returned := buffers.pool.returned + 1
              destroyed := buffers.pool.destroyed + 1 } } := by
  simp only [giveBack, policy, Pool.giveBack, Pool.discard]
  by_cases small : buffer.capacity ≤ buffers.maxRetained
  · by_cases room : buffers.pool.idle.length < buffers.maxIdle
    · simp [small, room]
    · simp [small, room]
  · simp [small]

/-- A pool that an engine with these settings can come to have. -/
structure Stocked (settings : Settings) (buffers : BufferPool) : Prop where
  capacity : buffers.capacity = settings.bufferCapacity
  maxRetained : buffers.maxRetained = settings.maxRetainedBuffer
  maxIdle : buffers.maxIdle = settings.maxIdleBuffers
  empty : ∀ buffer ∈ buffers.pool.idle, buffer.bytes = []
  roomy : ∀ buffer ∈ buffers.pool.idle, settings.bufferCapacity ≤ buffer.capacity
  retained : ∀ buffer ∈ buffers.pool.idle, buffer.capacity ≤ settings.maxRetainedBuffer
  bounded : buffers.pool.idle.length ≤ settings.maxIdleBuffers

variable {settings : Settings} {buffers : BufferPool}

theorem Stocked.rent (stocked : buffers.Stocked settings) (count : Nat) :
    (buffers.rent count).2.Stocked settings := by
  have idle := Pool.idle_rent buffers.policy buffers.pool ()
  have fewer : (buffers.rent count).2.pool.idle.length ≤ buffers.pool.idle.length := by
    simp only [BufferPool.rent, Pool.rent]
    split
    · rename_i item rest waiting
      rw [waiting]
      exact Nat.le_succ _
    · exact Nat.le_refl _
  constructor
  · exact stocked.capacity
  · exact stocked.maxRetained
  · exact stocked.maxIdle
  · exact fun buffer waits => stocked.empty buffer (idle waits)
  · exact fun buffer waits => stocked.roomy buffer (idle waits)
  · exact fun buffer waits => stocked.retained buffer (idle waits)
  · exact Nat.le_trans fewer stocked.bounded

theorem Stocked.rented (stocked : buffers.Stocked settings) (count : Nat) :
    (buffers.rent count).1.bytes = [] ∧
      max count settings.bufferCapacity ≤ (buffers.rent count).1.capacity := by
  let taken := (buffers.pool.rent buffers.policy ()).1
  have clean : taken.bytes = [] ∧ settings.bufferCapacity ≤ taken.capacity := by
    rcases Pool.rent_cases buffers.policy buffers.pool () with waited | made
    · exact ⟨stocked.empty _ waited, stocked.roomy _ waited⟩
    · have new : taken = Buffer.ofCapacity buffers.capacity := made
      rw [new]
      exact ⟨rfl, Nat.le_of_eq stocked.capacity.symm⟩
  have room := taken.le_capacity_reserve count
  rw [Buffer.length, clean.1, List.length_nil] at room
  change (taken.reserve count).bytes = [] ∧ _ ≤ (taken.reserve count).capacity
  rw [Buffer.bytes_reserve]
  exact ⟨clean.1, by omega⟩

theorem Stocked.filled (stocked : buffers.Stocked settings) (count : Nat) :
    (buffers.rentFilled count).1.bytes = List.replicate count 0 := by
  change ((buffers.rent count).1.resize count).bytes = _
  simp only [Buffer.bytes_resize, Buffer.length, (stocked.rented count).1]
  simp [Bytes.zeros]

theorem Stocked.giveBack (stocked : buffers.Stocked settings) {buffer : Buffer}
    (room : settings.bufferCapacity ≤ buffer.capacity) :
    (buffers.giveBack buffer).Stocked settings := by
  rw [giveBack_eq]
  by_cases kept : buffer.capacity ≤ buffers.maxRetained ∧ buffers.pool.idle.length < buffers.maxIdle
  · rw [if_pos kept]
    obtain ⟨small, place⟩ := kept
    rw [stocked.maxRetained] at small
    rw [stocked.maxIdle] at place
    constructor
    · exact stocked.capacity
    · exact stocked.maxRetained
    · exact stocked.maxIdle
    · exact List.forall_mem_cons.2 ⟨rfl, stocked.empty⟩
    · exact List.forall_mem_cons.2 ⟨room, stocked.roomy⟩
    · exact List.forall_mem_cons.2 ⟨small, stocked.retained⟩
    · exact place
  · rw [if_neg kept]
    exact { stocked with }

theorem Stocked.settle (stocked : buffers.Stocked settings) {carried : Option Buffer}
    (room : ∀ buffer ∈ carried, settings.bufferCapacity ≤ buffer.capacity) :
    (buffers.settle carried).Stocked settings := by
  cases carried with
  | none => exact stocked
  | some buffer => exact stocked.giveBack (room buffer rfl)

theorem Stocked.shrink (stocked : buffers.Stocked settings) :
    buffers.shrink.2.Stocked settings := by
  have none : buffers.shrink.2.pool.idle = [] :=
    (Pool.rented_discardAll buffers.policy buffers.pool.idle.reverse
      { buffers.pool with idle := [] } ()).2.2
  constructor
  · exact stocked.capacity
  · exact stocked.maxRetained
  · exact stocked.maxIdle
  · simp [none]
  · simp [none]
  · simp [none]
  · simp [none]

end BufferPool

namespace Resources

/-- The pools of an engine with these settings, as they can come to be. -/
structure Stocked (settings : Settings) (resources : Resources) : Prop where
  configured : resources.settings = settings
  buffers : resources.buffers.Stocked settings
  tickets : ∀ ticket ∈ resources.tickets.idle, ticket = {}

variable {settings : Settings} {resources : Resources}

theorem stocked_ofSettings (settings : Settings) : (ofSettings settings).Stocked settings := by
  constructor
  · rfl
  · constructor <;> simp [ofSettings]
  · simp [ofSettings]

theorem Stocked.tidy (stocked : resources.Stocked settings) : resources.Tidy where
  buffers := stocked.buffers.empty
  tickets := stocked.tickets

theorem Stocked.shrinkTickets (stocked : resources.Stocked settings) :
    resources.shrinkTickets.Stocked settings := by
  have lends := (Lends.none stocked.tidy).shrinkTickets
  have same := outside_discardAll resources
    (fun ticket member => stocked.tickets ticket (List.mem_reverse.1 member))
    { resources.tickets with idle := [] } resources.buffers
  constructor
  · exact stocked.configured
  · change BufferPool.Stocked settings (Pool.discardAll resources.ticketPolicy
      resources.tickets.idle.reverse { resources.tickets with idle := [] } resources.buffers).2
    rw [same]
    exact stocked.buffers
  · exact lends.tidy.tickets

end Resources

end FramedTransport
