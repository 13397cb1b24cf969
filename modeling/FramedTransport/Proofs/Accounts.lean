import FramedTransport.Proofs.Recycling
import Mathlib.Algebra.GroupWithZero.Nat

/-!
What the pools of an engine have lent.
A rent lends one item and a return takes one back, whatever becomes of the item,
so the counts of a pool tell how many of its items are with their holders. A
ticket that comes back settles the buffer that it carries as well.
-/

namespace FramedTransport

theorem sum_map_eq_countP {α : Type} {weight : α → Nat} {heavy : α → Bool}
    (weighs : ∀ item, weight item = if heavy item then 1 else 0) (items : List α) :
    (items.map weight).sum = items.countP heavy := by
  induction items with
  | nil => rfl
  | cons item rest ih =>
      rw [List.map_cons, List.sum_cons, ih, List.countP_cons, weighs, Nat.add_comm]

namespace Pool

variable {σ α : Type}

def rented (pool : Pool α) : Nat := pool.created + pool.reused

theorem outstanding_stats (pool : Pool α) : pool.stats.outstanding = pool.rented - pool.returned :=
  rfl

theorem rented_rent (policy : Policy σ α) (pool : Pool α) (outside : σ) :
    (pool.rent policy outside).2.1.rented = pool.rented + 1 ∧
      (pool.rent policy outside).2.1.returned = pool.returned := by
  unfold rent rented
  cases waiting : pool.idle with
  | nil =>
      dsimp only
      exact ⟨by omega, rfl⟩
  | cons item rest =>
      dsimp only
      exact ⟨by omega, rfl⟩

-- Whether an item is kept or thrown away shows only in the counts that are not asked about here.
theorem rented_giveBack (policy : Policy σ α) (item : α) (pool : Pool α) (outside : σ) :
    (pool.giveBack policy item outside).1.rented = pool.rented ∧
      (pool.giveBack policy item outside).1.returned = pool.returned + 1 := by
  unfold giveBack discard
  dsimp only
  split
  · exact ⟨rfl, rfl⟩
  · split
    · exact ⟨rfl, rfl⟩
    · exact ⟨rfl, rfl⟩

theorem rented_discardAll (policy : Policy σ α) (items : List α) (pool : Pool α) (outside : σ) :
    (discardAll policy items pool outside).1.rented = pool.rented ∧
      (discardAll policy items pool outside).1.returned = pool.returned ∧
      (discardAll policy items pool outside).1.idle = pool.idle := by
  induction items generalizing pool outside with
  | nil => exact ⟨rfl, rfl, rfl⟩
  | cons item rest ih => exact ih (discard policy item pool outside).1 _

end Pool

def Ticket.load (ticket : Ticket) : Nat := ticket.lease.toList.length

@[simp] theorem Ticket.load_unladen (armed : Option Signals) :
    Ticket.load { armed, lease := none } = 0 := rfl

@[simp] theorem Ticket.load_laden (armed : Option Signals) (buffer : Buffer) :
    Ticket.load { armed, lease := some buffer } = 1 := rfl

@[simp] theorem Ticket.load_changeLease (ticket : Ticket) (change : Buffer → Buffer) :
    (ticket.changeLease change).load = ticket.load := by
  cases lease : ticket.lease <;> simp [changeLease, load, lease]

namespace Resources

/-- A state that the pools of an engine can be in: everything that waits has been cleaned, and no
pool has taken back more than it had lent. -/
structure Sound (resources : Resources) : Prop extends resources.Tidy where
  ticketsLent : resources.tickets.returned ≤ resources.tickets.rented
  buffersLent : resources.buffers.pool.returned ≤ resources.buffers.pool.rented

/-- So many more tickets and buffers are with their holders after than before. -/
structure Lends (before after : Resources) (tickets buffers : Nat) : Prop where
  tidy : after.Tidy
  settings : after.settings = before.settings
  tickets : after.tickets.rented + before.tickets.returned =
    before.tickets.rented + after.tickets.returned + tickets
  buffers : after.buffers.pool.rented + before.buffers.pool.returned =
    before.buffers.pool.rented + after.buffers.pool.returned + buffers

variable {before after : Resources} {tickets buffers : Nat}

theorem Lends.none (tidy : before.Tidy) : Lends before before 0 0 where
  tidy
  settings := rfl
  tickets := rfl
  buffers := rfl

theorem Lends.recount {ticketsToo buffersToo : Nat} (lends : Lends before after tickets buffers)
    (sameTickets : tickets = ticketsToo) (sameBuffers : buffers = buffersToo) :
    Lends before after ticketsToo buffersToo := by
  subst sameTickets sameBuffers
  exact lends

theorem Lends.outstanding (lends : Lends before after tickets buffers) (sound : before.Sound) :
    after.tickets.stats.outstanding = before.tickets.stats.outstanding + tickets ∧
      after.buffers.stats.outstanding = before.buffers.stats.outstanding + buffers := by
  have ticketsLent := sound.ticketsLent
  have buffersLent := sound.buffersLent
  have ticketsKept := lends.tickets
  have buffersKept := lends.buffers
  simp only [BufferPool.stats, Pool.outstanding_stats]
  constructor <;> omega

theorem Lends.sound (lends : Lends before after tickets buffers) (sound : before.Sound) :
    after.Sound where
  toTidy := lends.tidy
  ticketsLent := by
    have lent := sound.ticketsLent
    have kept := lends.tickets
    omega
  buffersLent := by
    have lent := sound.buffersLent
    have kept := lends.buffers
    omega

theorem sound_ofSettings (settings : Settings) : (ofSettings settings).Sound where
  toTidy := tidy_ofSettings settings
  ticketsLent := Nat.le_refl 0
  buffersLent := Nat.le_refl 0

theorem Lends.rentBuffer (lends : Lends before after tickets buffers) (count : Nat) :
    Lends before (after.rentBuffer count).2 tickets (buffers + 1) where
  tidy := lends.tidy.rentBuffer count
  settings := lends.settings
  tickets := lends.tickets
  buffers := by
    have kept := lends.buffers
    obtain ⟨rented, returned⟩ :=
      Pool.rented_rent after.buffers.policy after.buffers.pool ()
    change (after.buffers.pool.rent after.buffers.policy ()).2.1.rented + _ =
      _ + (after.buffers.pool.rent after.buffers.policy ()).2.1.returned + _
    rw [rented, returned]
    omega

theorem Lends.rentFilled (lends : Lends before after tickets buffers) (count : Nat) :
    Lends before (after.rentFilled count).2 tickets (buffers + 1) := lends.rentBuffer count

theorem Lends.giveBackBuffer (lends : Lends before after tickets (buffers + 1)) (buffer : Buffer) :
    Lends before (after.giveBackBuffer buffer) tickets buffers where
  tidy := lends.tidy.giveBackBuffer buffer
  settings := lends.settings
  tickets := lends.tickets
  buffers := by
    have kept := lends.buffers
    obtain ⟨rented, returned⟩ :=
      Pool.rented_giveBack after.buffers.policy buffer after.buffers.pool ()
    change (after.buffers.pool.giveBack after.buffers.policy buffer ()).1.rented + _ =
      _ + (after.buffers.pool.giveBack after.buffers.policy buffer ()).1.returned + _
    rw [rented, returned]
    omega

theorem Lends.shrink (lends : Lends before after tickets buffers) :
    Lends before { after with buffers := after.buffers.shrink.2 } tickets buffers := by
  obtain ⟨rented, returned, idle⟩ := Pool.rented_discardAll after.buffers.policy
    after.buffers.pool.idle.reverse { after.buffers.pool with idle := [] } ()
  have kept := lends.buffers
  constructor
  · constructor
    · intro buffer waits
      change buffer ∈ (Pool.discardAll _ _ _ _).1.idle at waits
      rw [idle] at waits
      cases waits
    · exact lends.tidy.tickets
  · exact lends.settings
  · exact lends.tickets
  · change (Pool.discardAll _ _ _ _).1.rented + _ = _ + (Pool.discardAll _ _ _ _).1.returned + _
    rw [rented, returned]
    exact kept

theorem Lends.rentTicket (lends : Lends before after tickets buffers) (signals : Signals) :
    ∃ next, after.rentTicket signals = (.ok { armed := some signals }, next) ∧
      Lends before next (tickets + 1) buffers := by
  obtain ⟨next, granted, tidy, settings⟩ := lends.tidy.rentTicket signals
  obtain ⟨rented, returned⟩ :=
    Pool.rented_rent after.ticketPolicy after.tickets after.buffers
  have kept := lends.tickets
  have taken : next =
      { after with tickets := (after.tickets.rent after.ticketPolicy after.buffers).2.1 } := by
    have same := granted.symm.trans (lends.tidy.rentTicket_eq signals)
    exact congrArg Prod.snd same
  refine ⟨next, granted, tidy, settings.trans lends.settings, ?_, ?_⟩
  · rw [taken]
    dsimp only
    omega
  · rw [taken]
    exact lends.buffers

theorem rented_unload (ticket : Ticket) (buffers : BufferPool) :
    (unload ticket buffers).pool.rented = buffers.pool.rented ∧
      (unload ticket buffers).pool.returned = buffers.pool.returned + ticket.load := by
  unfold unload Ticket.load
  cases ticket.lease with
  | none => exact ⟨rfl, rfl⟩
  | some buffer => exact Pool.rented_giveBack buffers.policy buffer buffers.pool ()

theorem Lends.giveBackTicket {ticket : Ticket}
    (lends : Lends before after (tickets + 1) (buffers + ticket.load)) :
    Lends before (after.giveBackTicket ticket) tickets buffers where
  tidy := lends.tidy.giveBackTicket ticket
  settings := lends.settings
  tickets := by
    have kept := lends.tickets
    obtain ⟨rented, returned⟩ :=
      Pool.rented_giveBack after.ticketPolicy ticket after.tickets after.buffers
    change (after.tickets.giveBack after.ticketPolicy ticket after.buffers).1.rented + _ =
      _ + (after.tickets.giveBack after.ticketPolicy ticket after.buffers).1.returned + _
    rw [rented, returned]
    omega
  buffers := by
    have kept := lends.buffers
    obtain ⟨rented, returned⟩ := rented_unload ticket after.buffers
    rw [giveBackTicket_eq]
    dsimp only
    omega

end Resources

end FramedTransport
