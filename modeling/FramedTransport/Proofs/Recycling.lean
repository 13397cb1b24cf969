import FramedTransport.Resources
import FramedTransport.Proofs.Buffers

/-!
What comes back out of the pools.
Whatever a holder left in an item, it is cleaned before it waits in its pool, so
a rented buffer is empty and a rented ticket can always be armed. This holds of
the resources of a new engine and no renting or giving back breaks it.
-/

namespace FramedTransport

namespace Pool

variable {σ α : Type}

theorem rent_cases (policy : Policy σ α) (pool : Pool α) (outside : σ) :
    (pool.rent policy outside).1 ∈ pool.idle ∨
      (pool.rent policy outside).1 = (policy.create outside).1 := by
  unfold rent
  split
  · rename_i item rest waiting
    exact Or.inl (waiting ▸ List.mem_cons_self)
  · exact Or.inr rfl

theorem idle_rent (policy : Policy σ α) (pool : Pool α) (outside : σ) :
    (pool.rent policy outside).2.1.idle ⊆ pool.idle := by
  unfold rent
  split
  · rename_i item rest waiting
    exact waiting ▸ List.subset_cons_self item rest
  · exact List.Subset.refl _

theorem outside_rent (policy : Policy σ α) (pool : Pool α) (outside : σ)
    (kept : (policy.create outside).2 = outside) :
    (pool.rent policy outside).2.2 = outside := by
  unfold rent
  split
  · rfl
  · exact kept

theorem idle_giveBack (policy : Policy σ α) (returned : α) (pool : Pool α) (outside : σ) (item : α)
    (waits : item ∈ (pool.giveBack policy returned outside).1.idle) :
    item ∈ pool.idle ∨ ∃ state, item = (policy.reset returned state).1 := by
  unfold giveBack discard at waits
  dsimp only at waits
  split at waits
  · exact Or.inl waits
  · rename_i state accepted
    split at waits
    · rcases List.mem_cons.1 waits with rfl | before
      · exact Or.inr ⟨state, rfl⟩
      · exact Or.inl before
    · exact Or.inl waits

end Pool

namespace Resources

/-- Every waiting buffer is empty and every waiting ticket is as good as new. -/
structure Tidy (resources : Resources) : Prop where
  buffers : ∀ buffer ∈ resources.buffers.pool.idle, buffer.bytes = []
  tickets : ∀ ticket ∈ resources.tickets.idle, ticket = {}

theorem tidy_ofSettings (settings : Settings) : (ofSettings settings).Tidy where
  buffers := by simp [ofSettings]
  tickets := by simp [ofSettings]

variable {resources : Resources}

theorem Tidy.rentBuffer (tidy : resources.Tidy) (count : Nat) :
    (resources.rentBuffer count).2.Tidy where
  buffers buffer waits :=
    tidy.buffers buffer (Pool.idle_rent resources.buffers.policy _ () waits)
  tickets := tidy.tickets

theorem Tidy.bytes_rentBuffer (tidy : resources.Tidy) (count : Nat) :
    (resources.rentBuffer count).1.bytes = [] := by
  rw [show (resources.rentBuffer count).1 =
    (resources.buffers.pool.rent resources.buffers.policy ()).1.reserve count from rfl,
    Buffer.bytes_reserve]
  rcases Pool.rent_cases resources.buffers.policy resources.buffers.pool () with waited | made
  · exact tidy.buffers _ waited
  · rw [made]
    rfl

theorem length_rentFilled (resources : Resources) (count : Nat) :
    (resources.rentFilled count).1.length = count := Buffer.length_resize _ _

theorem Tidy.buffers_giveBack {buffers : BufferPool} {returned : Buffer}
    (clean : ∀ buffer ∈ buffers.pool.idle, buffer.bytes = []) :
    ∀ buffer ∈ (buffers.giveBack returned).pool.idle, buffer.bytes = [] := by
  intro buffer waits
  rcases Pool.idle_giveBack buffers.policy returned buffers.pool () buffer waits
    with before | ⟨-, rfl⟩
  · exact clean buffer before
  · rfl

theorem Tidy.giveBackBuffer (tidy : resources.Tidy) (buffer : Buffer) :
    (resources.giveBackBuffer buffer).Tidy where
  buffers := Tidy.buffers_giveBack tidy.buffers
  tickets := tidy.tickets

theorem giveBackTicket_eq (resources : Resources) (ticket : Ticket) :
    resources.giveBackTicket ticket =
      { resources with
        buffers := unload ticket resources.buffers
        tickets :=
          if resources.tickets.idle.length < resources.settings.maxIdleTickets then
            { resources.tickets with
              idle := {} :: resources.tickets.idle
              returned := resources.tickets.returned + 1 }
          else
            { resources.tickets with
              returned := resources.tickets.returned + 1
              destroyed := resources.tickets.destroyed + 1 } } := by
  unfold giveBackTicket Pool.giveBack Pool.discard ticketPolicy
  dsimp only
  split
  · rfl
  · rfl

theorem Tidy.giveBackTicket (tidy : resources.Tidy) (ticket : Ticket) :
    (resources.giveBackTicket ticket).Tidy where
  buffers := by
    rw [giveBackTicket_eq]
    unfold unload
    split
    · exact Tidy.buffers_giveBack tidy.buffers
    · exact tidy.buffers
  -- Only a cleaned ticket is put into the pool, whatever its holder left on it.
  tickets := by
    intro other waits
    rcases Pool.idle_giveBack resources.ticketPolicy ticket resources.tickets resources.buffers
      other waits with before | ⟨-, rfl⟩
    · exact tidy.tickets other before
    · rfl

theorem Tidy.rentTicket_eq (tidy : resources.Tidy) (signals : Signals) :
    resources.rentTicket signals =
      (.ok { armed := some signals },
        { resources with
          tickets := (resources.tickets.rent resources.ticketPolicy resources.buffers).2.1 }) := by
  have outside := Pool.outside_rent resources.ticketPolicy resources.tickets resources.buffers rfl
  have clean : (resources.tickets.rent resources.ticketPolicy resources.buffers).1 = {} := by
    rcases Pool.rent_cases resources.ticketPolicy resources.tickets resources.buffers
      with waited | made
    · exact tidy.tickets _ waited
    · exact made
  simp only [Resources.rentTicket, clean, outside]
  rfl

theorem Tidy.rentTicket (tidy : resources.Tidy) (signals : Signals) :
    ∃ next, resources.rentTicket signals = (.ok { armed := some signals }, next) ∧ next.Tidy ∧
      next.settings = resources.settings := by
  have idle := Pool.idle_rent resources.ticketPolicy resources.tickets resources.buffers
  refine ⟨_, tidy.rentTicket_eq signals, ?_, rfl⟩
  exact { buffers := tidy.buffers, tickets := fun ticket waits => tidy.tickets ticket (idle waits) }

end Resources

end FramedTransport
