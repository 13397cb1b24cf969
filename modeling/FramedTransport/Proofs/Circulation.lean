import FramedTransport.Proofs.Retention
import FramedTransport.Resources.Custody

/-!
Buffers on their way around.
A buffer leaves the pool as a lease and may pass through readers, writers, results and
tickets before it comes back. Whoever has it either keeps it, with no less room than before,
or gives it back as it is, and there is no third way. So the pool is in order after any
history.
-/

namespace FramedTransport

/-- What can have a buffer: a lease, a reader, a writer, a result, or a ticket that carries one. -/
inductive Holder where
  | lease (buffer : Buffer)
  | reader (frame : Incoming)
  | writer (frame : Outgoing)
  | result (delivery : Delivery)
  | ticket (held : HeldTicket)
deriving DecidableEq, Repr

namespace Holder

def buffer? : Holder → Option Buffer
  | .lease buffer => some buffer
  | .reader frame => some frame.buffer
  | .writer frame => some frame.buffer
  | .result delivery => some delivery.buffer
  | .ticket held => held.ticket.lease

def drop (holder : Holder) (resources : Resources) : Resources :=
  match holder with
  | .lease buffer => resources.giveBackBuffer buffer
  | .reader frame => resources.giveBackBuffer frame.close.buffer
  | .writer frame => resources.giveBackBuffer frame.buffer
  | .result delivery => resources.giveBackBuffer delivery.buffer
  | .ticket held =>
      if held.pooled then resources.giveBackTicket held.ticket
      else { resources with buffers := Resources.unload held.ticket resources.buffers }

inductive Deed where
  | edit (change : Buffer.Edit)
  | read (maxPayload : Nat)
  | use (use : Incoming.Use)
  | take
  | encode (payload : Bytes) (maxPayload : Nat)
  | advance (count : Nat)
  | finish (remote : SocketAddress)
  | arm (signals : Signals)
  | clear
  | drop
deriving DecidableEq, Repr

/-- What becomes of a holder, and the pools after it. A deed that it is not for leaves it alone. -/
def undergo (deed : Deed) (holder : Holder) (resources : Resources) : Option Holder × Resources :=
  match deed, holder with
  | .edit change, .lease buffer => (some (.lease (buffer.edit change)), resources)
  | .edit change, .ticket held =>
      (some (.ticket { held with ticket := held.ticket.changeLease (·.edit change) }), resources)
  | .read maxPayload, .lease buffer =>
      (some (.reader (Incoming.start buffer maxPayload)), resources)
  | .use use, .reader frame => (some (.reader (frame.use use).1), resources)
  | .take, .reader frame =>
      match frame.release with
      | .ok (_, buffer) => (some (.lease buffer), resources)
      | .error _ => (none, resources.giveBackBuffer frame.buffer)
  | .encode payload maxPayload, .lease buffer =>
      match Outgoing.encode buffer payload maxPayload with
      | .ok frame => (some (.writer frame), resources)
      | .error _ => (none, resources.giveBackBuffer buffer)
  | .advance count, .writer frame =>
      match frame.advance count with
      | .ok next => (some (.writer next), resources)
      | .error _ => (some (.writer frame), resources)
  | .finish remote, .writer frame =>
      match frame.release remote with
      | .ok delivery => (some (.result delivery), resources)
      | .error _ => (none, resources.giveBackBuffer frame.buffer)
  | .arm signals, .ticket held =>
      match held.ticket.arm signals with
      | .ok armed => (some (.ticket { held with ticket := armed }), resources)
      | .error _ => (some (.ticket held), resources)
  | .clear, .ticket held =>
      (some (.ticket { held with ticket := {} }),
        { resources with buffers := Resources.unload held.ticket resources.buffers })
  | .drop, holder => (none, holder.drop resources)
  | _, holder => (some holder, resources)

/-- Everything that can become of a buffer: it stays with what its holder becomes, with no less room
than it had, or it goes back to the pool as it is. -/
inductive Undergone (holder : Holder) (resources : Resources) : Option Holder × Resources → Prop
  | keeps {next : Holder} (kept : next.buffer?.isSome = holder.buffer?.isSome)
      (room : ∀ before ∈ holder.buffer?, ∀ after ∈ next.buffer?, before.capacity ≤ after.capacity) :
      Undergone holder resources (some next, resources)
  | returns {next : Option Holder} {after : Resources} (bare : next.bind buffer? = none)
      (buffers : after.buffers = resources.buffers.settle holder.buffer?)
      (settings : after.settings = resources.settings)
      (tickets : ∀ ticket ∈ after.tickets.idle, ticket = {} ∨ ticket ∈ resources.tickets.idle) :
      Undergone holder resources (next, after)

section Undergo

variable (resources : Resources)

theorem Undergone.stays (holder : Holder) :
    Undergone holder resources (some holder, resources) := by
  apply Undergone.keeps rfl
  intro before held after same
  rw [Option.mem_def] at held same
  exact Nat.le_of_eq (congrArg Buffer.capacity (Option.some.inj (held.symm.trans same)))

theorem Undergone.given {holder : Holder} {buffer : Buffer} (held : holder.buffer? = some buffer) :
    Undergone holder resources (none, resources.giveBackBuffer buffer) := by
  apply Undergone.returns rfl
  · rw [held]
    rfl
  · rfl
  · exact fun ticket waits => Or.inr waits

theorem Undergone.grown {holder next : Holder} {before after : Buffer}
    (held : holder.buffer? = some before) (holds : next.buffer? = some after)
    (room : before.capacity ≤ after.capacity) :
    Undergone holder resources (some next, resources) := by
  apply Undergone.keeps
  · rw [held, holds]
    rfl
  · intro one two other same
    rw [Option.mem_def, held] at two
    rw [Option.mem_def, holds] at same
    cases two
    cases same
    exact room

theorem buffers_drop (holder : Holder) :
    (holder.drop resources).buffers = resources.buffers.settle holder.buffer? := by
  cases holder with
  | lease | reader | writer | result => rfl
  | ticket held =>
      by_cases pooled : held.pooled = true
      · simp only [drop, pooled, if_true, Resources.giveBackTicket_eq]
        rfl
      · simp only [drop, pooled]
        rfl

theorem undergone_drop (holder : Holder) :
    Undergone holder resources (none, holder.drop resources) := by
  cases holder with
  | lease buffer => exact .given resources rfl
  | reader frame => exact .given resources rfl
  | writer frame => exact .given resources rfl
  | result delivery => exact .given resources rfl
  | ticket held =>
      apply Undergone.returns rfl (buffers_drop resources (.ticket held))
      · dsimp only [drop]
        split <;> rfl
      · intro ticket waits
        dsimp only [drop] at waits
        split at waits
        · rw [Resources.giveBackTicket_eq] at waits
          dsimp only at waits
          split at waits
          · exact List.mem_cons.1 waits
          · exact .inr waits
        · exact .inr waits

theorem undergone_edit (change : Buffer.Edit) (holder : Holder) :
    Undergone holder resources (holder.undergo (.edit change) resources) := by
  cases holder with
  | lease buffer => exact .grown resources rfl rfl (buffer.le_capacity_edit change)
  | ticket held =>
      obtain ⟨⟨armed, lease⟩, pooled⟩ := held
      cases lease with
      | none => exact .stays resources _
      | some buffer => exact .grown resources rfl rfl (buffer.le_capacity_edit change)
  | _ => exact .stays resources _

theorem undergone_take (frame : Incoming) :
    Undergone (.reader frame) resources (undergo .take (.reader frame) resources) := by
  cases taken : frame.release with
  | error reason =>
      simp only [undergo, taken]
      exact .given resources rfl
  | ok released =>
      obtain ⟨header, buffer⟩ := released
      have same : buffer = frame.buffer := by
        unfold Incoming.release at taken
        split at taken
        · cases taken
          rfl
        · cases taken
      simp only [undergo, taken, same]
      exact .grown resources rfl rfl (Nat.le_refl _)

theorem undergone_encode (buffer : Buffer) (payload : Bytes) (maxPayload : Nat) :
    Undergone (.lease buffer) resources
      (undergo (.encode payload maxPayload) (.lease buffer) resources) := by
  cases encoded : Outgoing.encode buffer payload maxPayload with
  | error reason =>
      simp only [undergo, encoded]
      exact .given resources rfl
  | ok frame =>
      simp only [undergo, encoded]
      exact .grown resources rfl rfl (Outgoing.le_capacity_encode encoded)

theorem undergone_write (deed : Deed) (frame : Outgoing) :
    Undergone (.writer frame) resources (undergo deed (.writer frame) resources) := by
  cases deed with
  | advance count =>
      cases advanced : frame.advance count with
      | error reason =>
          simp only [undergo, advanced]
          exact .stays resources _
      | ok next =>
          simp only [undergo, advanced]
          have same := Outgoing.buffer_advance advanced
          exact .grown resources rfl rfl (Nat.le_of_eq (congrArg Buffer.capacity same.symm))
  | finish remote =>
      cases released : frame.release remote with
      | error reason =>
          simp only [undergo, released]
          exact .given resources rfl
      | ok delivery =>
          simp only [undergo, released]
          have same := Outgoing.buffer_release released
          exact .grown resources rfl rfl (Nat.le_of_eq (congrArg Buffer.capacity same.symm))
  | drop => exact undergone_drop resources _
  | _ => exact .stays resources _

theorem undergone_arm (signals : Signals) (held : HeldTicket) :
    Undergone (.ticket held) resources (undergo (.arm signals) (.ticket held) resources) := by
  obtain ⟨⟨armed, lease⟩, pooled⟩ := held
  cases armed with
  | some before => exact .stays resources _
  | none =>
      cases lease with
      | none => exact .keeps rfl (by rintro _ ⟨⟩)
      | some buffer => exact .grown resources rfl rfl (Nat.le_refl _)

-- One case for every kind of holder, and in it one for every deed that is for this kind.
/-- No deed takes room from a buffer that stays, and none loses one. -/
theorem undergone (deed : Deed) (holder : Holder) :
    Undergone holder resources (holder.undergo deed resources) := by
  cases holder with
  | lease buffer =>
      cases deed with
      | edit change => exact undergone_edit resources change _
      | read maxPayload =>
          exact .grown resources rfl rfl (Incoming.le_capacity_emptied buffer)
      | encode payload maxPayload => exact undergone_encode resources buffer payload maxPayload
      | drop => exact undergone_drop resources _
      | _ => exact .stays resources _
  | reader frame =>
      cases deed with
      | use use => exact .grown resources rfl rfl (frame.le_capacity_use use)
      | take => exact undergone_take resources frame
      | drop => exact undergone_drop resources _
      | _ => exact .stays resources _
  | writer frame => exact undergone_write resources deed frame
  | result delivery =>
      cases deed with
      | drop => exact undergone_drop resources _
      | _ => exact .stays resources _
  | ticket held =>
      cases deed with
      | edit change => exact undergone_edit resources change _
      | arm signals => exact undergone_arm resources signals held
      | clear => exact .returns rfl rfl rfl fun ticket waits => Or.inr waits
      | drop => exact undergone_drop resources _
      | _ => exact .stays resources _

end Undergo

end Holder

namespace Table

variable {α : Type} {holds : α → Prop} {table : Table α} {name : String} {object : α}

def Every (holds : α → Prop) (table : Table α) : Prop := ∀ entry ∈ table.entries, holds entry.2

theorem Every.find? (every : table.Every holds) (found : table.find? name = some object) :
    holds object := by
  obtain ⟨entry, member, rfl⟩ := Option.map_eq_some_iff.1 found
  exact every entry (List.mem_of_find?_eq_some member)

theorem Every.erase (every : table.Every holds) (name : String) : (table.erase name).Every holds :=
  fun entry member => every entry (List.mem_filter.1 member).1

theorem Every.insert (every : table.Every holds) (name : String) (suits : holds object) :
    (table.insert name object).Every holds :=
  List.forall_mem_cons.2 ⟨suits, every.erase name⟩

def replace (table : Table α) (name : String) : Option α → Table α
  | some object => table.insert name object
  | none => table.erase name

theorem Every.replace (every : table.Every holds) (name : String) {next : Option α}
    (suits : ∀ object ∈ next, holds object) : (table.replace name next).Every holds := by
  cases next with
  | none => exact every.erase name
  | some object => exact every.insert name (suits object rfl)

end Table

/-- The pools of an engine and the holders of what has been rented. -/
structure Circulation where
  resources : Resources
  held : Table Holder := {}
deriving DecidableEq, Repr

namespace Circulation

inductive Move where
  | rent (name : String) (count : Nat)
  | rentFilled (name : String) (count : Nat)
  | rentTicket (name : String) (signals : Signals)
  | makeTicket (name : String)
  | undergo (name : String) (deed : Holder.Deed)
  | attach (ticket lease : String)
  | detach (ticket lease : String)
  | shrink
  | shrinkTickets
deriving DecidableEq, Repr

def undergo (name : String) (deed : Holder.Deed) (circulation : Circulation) : Circulation :=
  match circulation.held.find? name with
  | none => circulation
  | some holder =>
      let (next, resources) := holder.undergo deed circulation.resources
      { resources, held := circulation.held.replace name next }

def put (name : String) (holder : Holder) (circulation : Circulation) : Circulation :=
  let circulation := circulation.undergo name .drop
  { circulation with held := circulation.held.insert name holder }

def attach (ticket lease : String) (circulation : Circulation) : Circulation :=
  match circulation.held.find? ticket, circulation.held.find? lease with
  | some (.ticket held), some (.lease buffer) =>
      match held.ticket.attach buffer with
      | .ok carrier =>
          let rest := circulation.held.erase lease
          { circulation with held := rest.insert ticket (.ticket { held with ticket := carrier }) }
      | .error _ => circulation.undergo lease .drop
  | _, _ => circulation

def detach (ticket lease : String) (circulation : Circulation) : Circulation :=
  match circulation.held.find? ticket with
  | some (.ticket held) =>
      match held.ticket.detach with
      | (some buffer, bare) =>
          let circulation :=
            { circulation with
              held := circulation.held.insert ticket (.ticket { held with ticket := bare }) }
          circulation.put lease (.lease buffer)
      | (none, _) => circulation
  | _ => circulation

def make (circulation : Circulation) : Move → Circulation
  | .rent name count =>
      let (buffer, resources) := circulation.resources.rentBuffer count
      { circulation with resources }.put name (.lease buffer)
  | .rentFilled name count =>
      let (buffer, resources) := circulation.resources.rentFilled count
      { circulation with resources }.put name (.lease buffer)
  | .rentTicket name signals =>
      match circulation.resources.rentTicket signals with
      | (.ok ticket, resources) => { circulation with resources }.put name (.ticket { ticket })
      | (.error _, resources) => { circulation with resources }
  | .makeTicket name => circulation.put name (.ticket { pooled := false })
  | .undergo name deed => circulation.undergo name deed
  | .attach ticket lease => circulation.attach ticket lease
  | .detach ticket lease => circulation.detach ticket lease
  | .shrink =>
      let resources := circulation.resources
      { circulation with resources := { resources with buffers := resources.buffers.shrink.2 } }
  | .shrinkTickets => { circulation with resources := circulation.resources.shrinkTickets }

def history (settings : Settings) (moves : List Move) : Circulation :=
  moves.foldl make { resources := Resources.ofSettings settings }

/-- A holder whose buffer, if it has one, has the room that every new buffer has. -/
def Roomy (settings : Settings) (holder : Holder) : Prop :=
  ∀ buffer ∈ holder.buffer?, settings.bufferCapacity ≤ buffer.capacity

structure Steady (settings : Settings) (circulation : Circulation) : Prop where
  stocked : circulation.resources.Stocked settings
  roomy : circulation.held.Every (Roomy settings)

variable {settings : Settings} {circulation : Circulation}

theorem roomy_of_undergone {holder : Holder} {resources : Resources}
    {outcome : Option Holder × Resources} (undergone : holder.Undergone resources outcome)
    (stocked : resources.Stocked settings) (roomy : Roomy settings holder) :
    outcome.2.Stocked settings ∧ ∀ next ∈ outcome.1, Roomy settings next := by
  cases undergone with
  | keeps kept room =>
      refine ⟨stocked, ?_⟩
      -- The buffer that the holder has now is the one that it had before, grown perhaps.
      rintro next ⟨⟩ after present
      have some : holder.buffer?.isSome = true := by
        rw [← kept, Option.mem_def.1 present]
        rfl
      obtain ⟨before, held⟩ := Option.isSome_iff_exists.1 some
      exact Nat.le_trans (roomy before held) (room before held after present)
  | returns bare buffers unchanged tickets =>
      constructor
      -- What comes back has the room that the pool relies on, since its holder had it.
      · constructor
        · exact unchanged.trans stocked.configured
        · rw [buffers]
          exact stocked.buffers.settle roomy
        · intro ticket waits
          exact (tickets ticket waits).elim id (stocked.tickets ticket)
      · intro next present buffer held
        cases present
        rw [Option.bind_some, Option.mem_def.1 held] at bare
        cases bare

theorem Steady.undergo (steady : Steady settings circulation) (name : String)
    (deed : Holder.Deed) : Steady settings (circulation.undergo name deed) := by
  unfold Circulation.undergo
  cases found : circulation.held.find? name with
  | none => exact steady
  | some holder =>
      obtain ⟨stocked, roomy⟩ := roomy_of_undergone
        (Holder.undergone circulation.resources deed holder) steady.stocked
        (steady.roomy.find? found)
      exact ⟨stocked, steady.roomy.replace name roomy⟩

theorem Steady.put (steady : Steady settings circulation) (name : String) {holder : Holder}
    (roomy : Roomy settings holder) : Steady settings (circulation.put name holder) where
  stocked := (steady.undergo name .drop).stocked
  roomy := (steady.undergo name .drop).roomy.insert name roomy

theorem Steady.attach (steady : Steady settings circulation) (ticket lease : String) :
    Steady settings (circulation.attach ticket lease) := by
  unfold Circulation.attach
  split
  · rename_i held buffer carrying leased
    split
    · rename_i carrier attached
      have room := steady.roomy.find? leased
      have carried : carrier.lease = some buffer := by
        unfold Ticket.attach at attached
        split at attached
        · cases attached
          rfl
        · cases attached
      have roomy : Roomy settings (.ticket { held with ticket := carrier }) := by
        intro other present
        rw [Option.mem_def, Holder.buffer?, carried] at present
        exact room other present
      exact ⟨steady.stocked, (steady.roomy.erase lease).insert ticket roomy⟩
    · exact steady.undergo lease .drop
  · exact steady

theorem Steady.detach (steady : Steady settings circulation) (ticket lease : String) :
    Steady settings (circulation.detach ticket lease) := by
  unfold Circulation.detach
  split
  · rename_i held carrying
    have room := steady.roomy.find? carrying
    split
    · rename_i buffer bare detached
      obtain ⟨carried, rfl⟩ := Prod.mk.inj detached
      have unladen :
          Roomy settings (.ticket { held with ticket := { held.ticket with lease := none } }) := by
        rintro other ⟨⟩
      have inserted : Steady settings
          { circulation with
            held := circulation.held.insert ticket
              (.ticket { held with ticket := { held.ticket with lease := none } }) } :=
        ⟨steady.stocked, steady.roomy.insert ticket unladen⟩
      apply inserted.put
      rintro _ ⟨⟩
      exact room buffer carried
    · exact steady
  · exact steady

theorem Steady.make (steady : Steady settings circulation) (move : Move) :
    Steady settings (circulation.make move) := by
  cases move with
  | rent name count =>
      have rented := steady.stocked.buffers.rented count
      have lent : Steady settings
          { circulation with resources := (circulation.resources.rentBuffer count).2 } :=
        ⟨⟨steady.stocked.configured, steady.stocked.buffers.rent count, steady.stocked.tickets⟩,
          steady.roomy⟩
      apply lent.put
      rintro buffer ⟨⟩
      exact Nat.le_trans (Nat.le_max_right _ _) rented.2
  | rentFilled name count =>
      have rented := steady.stocked.buffers.rented count
      have lent : Steady settings
          { circulation with resources := (circulation.resources.rentFilled count).2 } :=
        ⟨⟨steady.stocked.configured, steady.stocked.buffers.rent count, steady.stocked.tickets⟩,
          steady.roomy⟩
      apply lent.put
      rintro buffer ⟨⟩
      exact Nat.le_trans (Nat.le_trans (Nat.le_max_right _ _) rented.2)
        (Buffer.le_capacity_resize _ count)
  | rentTicket name signals =>
      have idle := Pool.idle_rent circulation.resources.ticketPolicy circulation.resources.tickets
        circulation.resources.buffers
      -- A waiting ticket is as good as new, so the one that is rented brings no buffer with it.
      have granted := steady.stocked.tidy.rentTicket_eq signals
      simp only [Circulation.make, granted]
      apply Steady.put
      · exact ⟨⟨steady.stocked.configured, steady.stocked.buffers,
          fun ticket waits => steady.stocked.tickets ticket (idle waits)⟩, steady.roomy⟩
      · rintro buffer ⟨⟩
  | makeTicket name =>
      apply steady.put
      rintro buffer ⟨⟩
  | undergo name deed => exact steady.undergo name deed
  | attach ticket lease => exact steady.attach ticket lease
  | detach ticket lease => exact steady.detach ticket lease
  | shrink =>
      exact ⟨⟨steady.stocked.configured, steady.stocked.buffers.shrink, steady.stocked.tickets⟩,
        steady.roomy⟩
  | shrinkTickets => exact ⟨steady.stocked.shrinkTickets, steady.roomy⟩

theorem steady_history (settings : Settings) (moves : List Move) :
    Steady settings (history settings moves) :=
  List.foldlRecOn (motive := Steady settings) moves make
    ⟨Resources.stocked_ofSettings settings, by rintro entry ⟨⟩⟩
    fun _ steady move _ => steady.make move

/-- A deed leaves the pools alone and the buffer with its holder, or gives it back as it is. -/
theorem undergo_settles {name : String} {holder : Holder}
    (found : circulation.held.find? name = some holder) (deed : Holder.Deed) :
    ((circulation.undergo name deed).resources = circulation.resources ∧
        ∃ next, (circulation.undergo name deed).held.find? name = some next ∧
          next.buffer?.isSome = holder.buffer?.isSome) ∨
      ((circulation.undergo name deed).resources.buffers =
          circulation.resources.buffers.settle holder.buffer? ∧
        ((circulation.undergo name deed).held.find? name).bind Holder.buffer? = none) := by
  have undergone := Holder.undergone circulation.resources deed holder
  simp only [Circulation.undergo, found]
  cases outcome : holder.undergo deed circulation.resources with
  | mk next resources =>
      rw [outcome] at undergone
      cases undergone with
      | keeps kept room => exact .inl ⟨rfl, _, Table.find?_insert _ name _, kept⟩
      | returns bare buffers unchanged tickets =>
          refine .inr ⟨buffers, ?_⟩
          cases next with
          | none =>
              rw [Table.replace, Table.find?_erase]
              rfl
          | some holder =>
              rw [Table.replace, Table.find?_insert]
              exact bare

theorem undergo_drop {name : String} {holder : Holder}
    (found : circulation.held.find? name = some holder) :
    (circulation.undergo name .drop).resources.buffers =
        circulation.resources.buffers.settle holder.buffer? ∧
      (circulation.undergo name .drop).held.find? name = none := by
  have dropped := Holder.buffers_drop circulation.resources holder
  simp only [Circulation.undergo, found, Holder.undergo]
  exact ⟨dropped, Table.find?_erase _ name⟩

/-- Whatever the settings are and whatever has been done with the buffers of an engine, by whichever
holders: those that wait are empty, no larger than what the pool retains and no more than it may
keep, a rented one is empty and has the room that was asked for and the room of a new one, a filled
one has as many zeros as were asked for and nothing else, and a returned one is kept exactly if it
is not too large by then and there is a place for it. A holder parts with a buffer only by giving it
back as it is, and does so when it is dropped. -/
theorem buffers_recycle (settings : Settings) (moves : List Move) :
    let circulation := history settings moves
    let buffers := circulation.resources.buffers
    (∀ buffer ∈ buffers.pool.idle,
      buffer.bytes = [] ∧ buffer.capacity ≤ settings.maxRetainedBuffer) ∧
    buffers.pool.idle.length ≤ settings.maxIdleBuffers ∧
    (∀ count, (circulation.resources.rentBuffer count).1.bytes = [] ∧
      max count settings.bufferCapacity ≤ (circulation.resources.rentBuffer count).1.capacity) ∧
    (∀ count, (circulation.resources.rentFilled count).1.bytes = List.replicate count 0) ∧
    (∀ buffer, buffers.giveBack buffer =
      { buffers with
        pool :=
          if buffer.capacity ≤ settings.maxRetainedBuffer ∧
              buffers.pool.idle.length < settings.maxIdleBuffers then
            { buffers.pool with
              idle := buffer.clear :: buffers.pool.idle
              returned := buffers.pool.returned + 1 }
          else
            { buffers.pool with
              returned := buffers.pool.returned + 1
              destroyed := buffers.pool.destroyed + 1 } }) ∧
    (∀ name holder deed, circulation.held.find? name = some holder →
      ((circulation.undergo name deed).resources = circulation.resources ∧
          ∃ next, (circulation.undergo name deed).held.find? name = some next ∧
            next.buffer?.isSome = holder.buffer?.isSome) ∨
        ((circulation.undergo name deed).resources.buffers =
            (match holder.buffer? with
              | some buffer => buffers.giveBack buffer
              | none => buffers) ∧
          ((circulation.undergo name deed).held.find? name).bind Holder.buffer? = none)) ∧
    (∀ name holder, circulation.held.find? name = some holder →
      (circulation.undergo name .drop).resources.buffers =
          (match holder.buffer? with
            | some buffer => buffers.giveBack buffer
            | none => buffers) ∧
        (circulation.undergo name .drop).held.find? name = none) := by
  intro circulation buffers
  have stocked := (steady_history settings moves).stocked.buffers
  refine ⟨fun buffer waits => ⟨stocked.empty buffer waits, stocked.retained buffer waits⟩,
    stocked.bounded, stocked.rented, stocked.filled, ?_, ?_, ?_⟩
  · intro buffer
    rw [← stocked.maxRetained, ← stocked.maxIdle]
    exact buffers.giveBack_eq buffer
  · intro name holder deed found
    exact undergo_settles found deed
  · intro name holder found
    exact undergo_drop found

/-- A reader of a frame that never comes is dropped, and its buffer waits for the next one. -/
theorem dropped_reader_recycles :
    let circulation := history {} [.rent "frame" 16, .undergo "frame" (.read 100),
      .undergo "frame" (.use (.fill [0, 0])), .undergo "frame" (.use (.advance 2))]
    ∃ frame, circulation.held.find? "frame" = some (.reader frame) ∧
      (circulation.undergo "frame" .drop).held.find? "frame" = none ∧
      (circulation.undergo "frame" .drop).resources.buffers.pool.idle = [frame.buffer.clear] := by
  intro circulation
  obtain ⟨-, -, -, -, kept, -, returned⟩ := buffers_recycle {} [.rent "frame" 16,
    .undergo "frame" (.read 100), .undergo "frame" (.use (.fill [0, 0])),
    .undergo "frame" (.use (.advance 2))]
  refine ⟨_, rfl, (returned "frame" _ rfl).2, ?_⟩
  rw [(returned "frame" _ rfl).1]
  exact congrArg (·.pool.idle) (kept _)

end Circulation

end FramedTransport
