import FramedTransport.Proofs.Accounts
import FramedTransport.Resources.Custody

/-!
Who holds what the pools have lent.
Between a rent and a return an item is with exactly one holder: a buffer under a
name or on a ticket, a ticket under a name. So the pools of an engine have lent
what its holders have, after any history, and are in a sound state.
-/

namespace FramedTransport

namespace Table

variable {α : Type}

def Distinct (table : Table α) : Prop := (table.entries.map Prod.fst).Nodup

def total (weight : α → Nat) (table : Table α) : Nat :=
  (table.entries.map fun entry => weight entry.2).sum

/-- The weight of the object under a name, none if there is none. -/
def weightAt (weight : α → Nat) (table : Table α) (name : String) : Nat :=
  match table.find? name with
  | some object => weight object
  | none => 0

theorem distinct_erase {table : Table α} (distinct : table.Distinct) (name : String) :
    (table.erase name).Distinct :=
  List.Nodup.sublist (List.Sublist.map _ List.filter_sublist) distinct

theorem distinct_insert {table : Table α} (distinct : table.Distinct) (name : String)
    (object : α) : (table.insert name object).Distinct := by
  refine List.nodup_cons.2 ⟨?_, distinct_erase distinct name⟩
  simp [erase]

theorem perm_erase {table : Table α} (distinct : table.Distinct) {name : String} {object : α}
    (found : table.find? name = some object) :
    table.entries.Perm ((name, object) :: (table.erase name).entries) := by
  obtain ⟨entries⟩ := table
  induction entries with
  | nil => cases found
  | cons entry rest ih =>
      obtain ⟨fresh, distinct⟩ := List.nodup_cons.1 distinct
      by_cases same : entry.1 = name
      · have others : ∀ other ∈ rest, other.1 ≠ name := by
          intro other member equal
          exact fresh (List.mem_map.2 ⟨other, member, equal.trans same.symm⟩)
        have kept : rest.filter (fun entry => decide (entry.1 ≠ name)) = rest :=
          List.filter_eq_self.2 (by simpa using others)
        obtain rfl : entry.2 = object := by simpa [find?, same] using found
        obtain ⟨first, second⟩ := entry
        obtain rfl : first = name := same
        simp only [erase, List.filter_cons, ne_eq, not_true, decide_false] at kept ⊢
        rw [if_neg Bool.false_ne_true, kept]
      · have tail := ih distinct (by simpa [find?, List.find?_cons, same] using found)
        simp only [erase, List.filter_cons, ne_eq, same, not_false_eq_true, decide_true, if_true]
          at tail ⊢
        exact (tail.cons entry).trans (List.Perm.swap _ _ _)

theorem erase_of_none {table : Table α} {name : String} (free : table.find? name = none) :
    table.erase name = table := by
  have others : ∀ entry ∈ table.entries, entry.1 ≠ name := by
    simpa [find?] using free
  unfold erase
  rw [List.filter_eq_self.2 (by simpa using others)]

theorem total_erase (weight : α → Nat) {table : Table α} (distinct : table.Distinct)
    (name : String) :
    (table.erase name).total weight + table.weightAt weight name = table.total weight := by
  unfold weightAt
  cases found : table.find? name with
  | none => rw [erase_of_none found, Nat.add_zero]
  | some object =>
      have apart := (perm_erase distinct found).map fun entry => weight entry.2
      rw [total, total, apart.sum_nat, List.map_cons, List.sum_cons, Nat.add_comm]

theorem total_insert (weight : α → Nat) {table : Table α} (distinct : table.Distinct)
    {name : String} (free : table.find? name = none) (object : α) :
    (table.insert name object).total weight = table.total weight + weight object := by
  have kept := total_erase weight distinct name
  simp only [weightAt, free, Nat.add_zero] at kept
  rw [← kept]
  simp [insert, total, Nat.add_comm]

theorem total_change (weight : α → Nat) {table : Table α} (distinct : table.Distinct)
    {name : String} {object : α} (found : table.find? name = some object) (edit : α → α) :
    (table.change name edit).total weight + weight object =
      table.total weight + weight (edit object) := by
  have kept := total_erase weight distinct name
  simp only [weightAt, found] at kept
  rw [← kept]
  simp only [change, found, insert, total, List.map_cons, List.sum_cons]
  omega

theorem distinct_change {table : Table α} (distinct : table.Distinct) (name : String)
    (edit : α → α) : (table.change name edit).Distinct := by
  unfold change
  split
  · exact distinct_insert distinct name _
  · exact distinct

theorem size_eq_total (table : Table α) : table.size = table.total fun _ => 1 := by
  unfold size total
  induction table.entries with
  | nil => rfl
  | cons entry rest ih => rw [List.length_cons, List.map_cons, List.sum_cons, ih, Nat.add_comm]

end Table

namespace Custody

def pooledWeight (held : HeldTicket) : Nat := if held.pooled then 1 else 0

/-- All that an engine has lent is with its holders, but for what is in hand at the moment. -/
structure Accounted (settings : Settings) (tickets buffers : Nat) (custody : Custody) : Prop where
  lends : (Resources.ofSettings settings).Lends custody.resources
    (custody.tickets.total pooledWeight + tickets)
    (custody.buffers.size + custody.tickets.total (·.ticket.load) + buffers)
  distinctTickets : custody.tickets.Distinct
  distinctBuffers : custody.buffers.Distinct

variable {settings : Settings} {tickets buffers : Nat} {custody : Custody}

theorem accounted_new (settings : Settings) :
    Accounted settings 0 0 { resources := Resources.ofSettings settings } where
  lends := Resources.Lends.none (Resources.tidy_ofSettings settings)
  distinctTickets := List.nodup_nil
  distinctBuffers := List.nodup_nil

theorem Accounted.giveBack (accounted : Accounted settings tickets (buffers + 1) custody)
    (buffer : Buffer) : Accounted settings tickets buffers (custody.giveBack buffer) where
  lends := accounted.lends.giveBackBuffer buffer
  distinctTickets := accounted.distinctTickets
  distinctBuffers := accounted.distinctBuffers

theorem Accounted.unload {ticket : Ticket}
    (accounted : Accounted settings tickets (buffers + ticket.load) custody) :
    Accounted settings tickets buffers (custody.unload ticket) := by
  obtain ⟨armed, lease⟩ := ticket
  cases lease with
  | none => exact accounted
  | some buffer => exact Accounted.giveBack accounted buffer

theorem Accounted.eraseBuffer (accounted : Accounted settings tickets buffers custody)
    {name : String} {buffer : Buffer} (found : custody.buffers.find? name = some buffer) :
    Accounted settings tickets (buffers + 1)
      { custody with buffers := custody.buffers.erase name } where
  lends := by
    have shorter := Table.total_erase (fun _ => 1) accounted.distinctBuffers name
    simp only [Table.weightAt, found, ← Table.size_eq_total] at shorter
    refine accounted.lends.recount rfl ?_
    dsimp only
    omega
  distinctTickets := accounted.distinctTickets
  distinctBuffers := Table.distinct_erase accounted.distinctBuffers name

theorem Accounted.dropBuffer (accounted : Accounted settings tickets buffers custody)
    (name : String) : Accounted settings tickets buffers (custody.dropBuffer name).2 := by
  unfold Custody.dropBuffer
  split
  · exact accounted
  · rename_i buffer found
    exact (accounted.eraseBuffer found).giveBack buffer

theorem find?_dropBuffer (name : String) (custody : Custody) :
    (custody.dropBuffer name).2.buffers.find? name = none := by
  unfold Custody.dropBuffer
  split
  · assumption
  · exact Table.find?_erase custody.buffers name

theorem Accounted.putBuffer (accounted : Accounted settings tickets (buffers + 1) custody)
    (name : String) (buffer : Buffer) :
    Accounted settings tickets buffers (custody.putBuffer name buffer) := by
  have dropped := accounted.dropBuffer name
  constructor
  · have longer := Table.total_insert (fun _ => 1) dropped.distinctBuffers
      (find?_dropBuffer name custody) buffer
    rw [← Table.size_eq_total, ← Table.size_eq_total] at longer
    refine dropped.lends.recount rfl ?_
    simp only [Custody.putBuffer, longer]
    omega
  · exact dropped.distinctTickets
  · exact Table.distinct_insert dropped.distinctBuffers name buffer

theorem Accounted.eraseTicket (accounted : Accounted settings tickets buffers custody)
    {name : String} {held : HeldTicket} (found : custody.tickets.find? name = some held) :
    Accounted settings (tickets + pooledWeight held) (buffers + held.ticket.load)
      { custody with tickets := custody.tickets.erase name } where
  lends := by
    have fewer := Table.total_erase pooledWeight accounted.distinctTickets name
    have lighter := Table.total_erase (·.ticket.load) accounted.distinctTickets name
    simp only [Table.weightAt, found] at fewer lighter
    refine accounted.lends.recount ?_ ?_
    · dsimp only
      omega
    · dsimp only
      omega
  distinctTickets := Table.distinct_erase accounted.distinctTickets name
  distinctBuffers := accounted.distinctBuffers

theorem Accounted.dropTicket (accounted : Accounted settings tickets buffers custody)
    (name : String) : Accounted settings tickets buffers (custody.dropTicket name).2 := by
  unfold Custody.dropTicket
  split
  · exact accounted
  · rename_i held found
    have erased := accounted.eraseTicket found
    dsimp only
    split <;> rename_i pooled
    · simp only [pooledWeight, pooled, if_true] at erased
      exact
        { lends := (erased.lends.recount rfl (Nat.add_assoc _ _ _).symm).giveBackTicket
          distinctTickets := erased.distinctTickets
          distinctBuffers := erased.distinctBuffers }
    · simp only [pooledWeight, pooled] at erased
      exact erased.unload

theorem find?_dropTicket (name : String) (custody : Custody) :
    (custody.dropTicket name).2.tickets.find? name = none := by
  unfold Custody.dropTicket
  split
  · assumption
  · dsimp only
    split
    · exact Table.find?_erase custody.tickets name
    · unfold Custody.unload
      exact Table.find?_erase custody.tickets name

theorem Accounted.putTicket {held : HeldTicket}
    (accounted : Accounted settings (tickets + pooledWeight held) (buffers + held.ticket.load)
      custody) (name : String) :
    Accounted settings tickets buffers (custody.putTicket name held) := by
  have dropped := accounted.dropTicket name
  constructor
  · have more := Table.total_insert pooledWeight dropped.distinctTickets
      (find?_dropTicket name custody) held
    have heavier := Table.total_insert (·.ticket.load) dropped.distinctTickets
      (find?_dropTicket name custody) held
    refine dropped.lends.recount ?_ ?_
    · simp only [Custody.putTicket, more]
      omega
    · simp only [Custody.putTicket, heavier]
      omega
  · exact Table.distinct_insert dropped.distinctTickets name held
  · exact dropped.distinctBuffers

theorem Accounted.changeTicket {ticket : Ticket} {name : String} {held : HeldTicket} {freed : Nat}
    (accounted : Accounted settings tickets buffers custody)
    (found : custody.tickets.find? name = some held)
    (moved : buffers + held.ticket.load = freed + ticket.load) :
    Accounted settings tickets freed (custody.changeTicket name ticket) where
  lends := by
    have more := Table.total_change pooledWeight accounted.distinctTickets found
      fun held => { held with ticket }
    have heavier := Table.total_change (·.ticket.load) accounted.distinctTickets found
      fun held => { held with ticket }
    refine accounted.lends.recount ?_ ?_
    · simp only [Custody.changeTicket, pooledWeight] at more ⊢
      omega
    · simp only [Custody.changeTicket] at heavier ⊢
      omega
  distinctTickets := Table.distinct_change accounted.distinctTickets name _
  distinctBuffers := accounted.distinctBuffers

theorem Accounted.token (accounted : Accounted settings tickets buffers custody) (name : String) :
    Accounted settings tickets buffers (custody.token name).2 := by
  unfold Custody.token
  split
  · exact accounted
  · exact { accounted with }

theorem Accounted.signalsOf (accounted : Accounted settings tickets buffers custody)
    (arming : Arming) : Accounted settings tickets buffers (custody.signalsOf arming).2 := by
  unfold Custody.signalsOf
  dsimp only
  split
  · exact accounted
  · exact accounted.token _

theorem tickets_signalsOf (arming : Arming) (custody : Custody) :
    (custody.signalsOf arming).2.tickets = custody.tickets := by
  unfold Custody.signalsOf Custody.token
  dsimp only
  split
  · rfl
  · dsimp only
    split <;> rfl

theorem Accounted.replaceBuffer (accounted : Accounted settings tickets buffers custody)
    {name : String} {buffer : Buffer} (found : custody.buffers.find? name = some buffer)
    (next : Buffer) :
    Accounted settings tickets buffers
      { custody with buffers := custody.buffers.insert name next } where
  lends := by
    have same := Table.total_change (fun _ => 1) accounted.distinctBuffers found fun _ => next
    simp only [Table.change, found, ← Table.size_eq_total] at same
    refine accounted.lends.recount rfl ?_
    dsimp only
    omega
  distinctTickets := accounted.distinctTickets
  distinctBuffers := Table.distinct_insert accounted.distinctBuffers name next

theorem Accounted.arm (accounted : Accounted settings tickets buffers custody) (name : String)
    (arming : Arming) :
    Accounted settings tickets buffers (custody.perform (.arm name arming)).2 := by
  have named := accounted.signalsOf arming
  unfold Custody.perform Custody.withTicket
  dsimp only
  split
  · exact accounted
  · rename_i held found
    rw [← tickets_signalsOf arming custody] at found
    split
    · rename_i ticket armed
      refine named.changeTicket found ?_
      unfold Ticket.arm at armed
      split at armed
      · cases armed
        rfl
      · cases armed
    · exact named

theorem Accounted.attach (accounted : Accounted settings tickets buffers custody)
    (ticket buffer : String) :
    Accounted settings tickets buffers (custody.attach ticket buffer).2 := by
  unfold Custody.attach Custody.withTicket
  split
  · exact accounted
  · rename_i held found
    dsimp only
    split
    · exact accounted
    · rename_i moved present
      have inHand := accounted.eraseBuffer present
      cases lease : held.ticket.lease with
      | none =>
          simp only [Ticket.attach, lease]
          refine inHand.changeTicket found ?_
          simp [Ticket.load, lease]
      | some carried =>
          -- A ticket that carries a buffer takes no other, which then goes back.
          simp only [Ticket.attach, lease]
          exact inHand.giveBack moved

theorem Accounted.perform (accounted : Accounted settings 0 0 custody) (action : Action) :
    Accounted settings 0 0 (custody.perform action).2 := by
  cases action with
  | rentTicket name arming =>
      have named := accounted.signalsOf arming
      obtain ⟨next, granted, lends⟩ := named.lends.rentTicket (custody.signalsOf arming).1
      simp only [Custody.perform, granted]
      refine Accounted.putTicket ?_ name
      exact
        { lends
          distinctTickets := named.distinctTickets
          distinctBuffers := named.distinctBuffers }
  | makeTicket name => exact Accounted.putTicket accounted name
  | dropTicket name => exact accounted.dropTicket name
  | rentBuffer name count =>
      refine Accounted.putBuffer ?_ name _
      exact
        { lends := accounted.lends.rentBuffer count
          distinctTickets := accounted.distinctTickets
          distinctBuffers := accounted.distinctBuffers }
  | rentFilled name count =>
      refine Accounted.putBuffer ?_ name _
      exact
        { lends := accounted.lends.rentFilled count
          distinctTickets := accounted.distinctTickets
          distinctBuffers := accounted.distinctBuffers }
  | dropBuffer name => exact accounted.dropBuffer name
  | extend name bytes =>
      unfold Custody.perform
      dsimp only
      split
      · exact accounted
      · rename_i buffer found
        exact accounted.replaceBuffer found (buffer.append bytes)
  | shrink =>
      exact
        { lends := accounted.lends.shrink
          distinctTickets := accounted.distinctTickets
          distinctBuffers := accounted.distinctBuffers }
  | cancel name => exact { accounted.token name with }
  | child name parent => exact { accounted.token parent with }
  | arm name arming => exact accounted.arm name arming
  | operation name | signals name | isCancelled name | carried name =>
      unfold Custody.perform Custody.withTicket
      dsimp only
      split
      · exact accounted
      · exact accounted
  | attach ticket buffer => exact accounted.attach ticket buffer
  | detach name buffer =>
      unfold Custody.perform Custody.withTicket
      dsimp only
      split
      · exact accounted
      · rename_i held found
        cases lease : held.ticket.lease with
        | none =>
            simp only [Ticket.detach, lease]
            exact accounted
        | some moved =>
            simp only [Ticket.detach, lease]
            refine Accounted.putBuffer (accounted.changeTicket found ?_) buffer moved
            simp [Ticket.load, lease]
  | extendCarried name bytes =>
      unfold Custody.perform Custody.withTicket
      dsimp only
      split
      · exact accounted
      · rename_i held found
        exact accounted.changeTicket found (by rw [Ticket.load_changeLease])
  | clear name =>
      unfold Custody.perform Custody.withTicket
      dsimp only
      split
      · exact accounted
      · rename_i held found
        exact Accounted.unload (accounted.changeTicket found rfl)

/-- Whatever the holders of an engine's tickets and buffers have done, its pools are sound. -/
theorem sound_history (settings : Settings) (actions : List Action) :
    (actions.foldl (fun custody action => (custody.perform action).2)
      { resources := Resources.ofSettings settings : Custody }).resources.Sound := by
  have every : ∀ custody, Accounted settings 0 0 custody →
      Accounted settings 0 0
        (actions.foldl (fun custody action => (custody.perform action).2) custody) := by
    induction actions with
    | nil => exact fun custody accounted => accounted
    | cons action rest ih => exact fun custody accounted => ih _ (accounted.perform action)
  exact (every _ (accounted_new settings)).lends.sound (Resources.sound_ofSettings settings)

end Custody

end FramedTransport
