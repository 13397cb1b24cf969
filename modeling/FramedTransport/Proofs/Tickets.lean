import FramedTransport.Proofs.Holders

/-!
Tickets that are used again.
A ticket comes back to its pool with whatever its holder has left on it, and its
pool has the buffer pool outside: clearing a ticket sends the buffer that it
carries home, whether there is then room for the ticket or not. So a ticket that
waits carries nothing, and the buffers that are out are in somebody's hands or on
a ticket.
-/

namespace FramedTransport

namespace Resources

variable {before after : Resources} {tickets buffers : Nat}

def shrinkTickets (resources : Resources) : Resources :=
  let (_, tickets, buffers) :=
    resources.tickets.shrink resources.ticketPolicy resources.buffers
  { resources with tickets, buffers }

theorem outside_discardAll (resources : Resources) {items : List Ticket}
    (clean : ∀ ticket ∈ items, ticket = {}) (pool : Pool Ticket) (buffers : BufferPool) :
    (Pool.discardAll resources.ticketPolicy items pool buffers).2 = buffers := by
  induction items generalizing pool buffers with
  | nil => rfl
  | cons ticket rest ih =>
      obtain rfl := clean ticket List.mem_cons_self
      exact ih (fun other member => clean other (List.mem_cons_of_mem _ member)) _ buffers

theorem Lends.shrinkTickets (lends : Lends before after tickets buffers) :
    Lends before after.shrinkTickets tickets buffers := by
  obtain ⟨rented, returned, idle⟩ := Pool.rented_discardAll after.ticketPolicy
    after.tickets.idle.reverse { after.tickets with idle := [] } after.buffers
  have same := outside_discardAll after
    (fun ticket member => lends.tidy.tickets ticket (List.mem_reverse.1 member))
    { after.tickets with idle := [] } after.buffers
  have shrunk : after.shrinkTickets =
      { after with
        tickets := (Pool.discardAll after.ticketPolicy after.tickets.idle.reverse
          { after.tickets with idle := [] } after.buffers).1 } := by
    unfold Resources.shrinkTickets Pool.shrink
    dsimp only
    rw [same]
  have kept := lends.tickets
  rw [shrunk]
  constructor
  · refine ⟨lends.tidy.buffers, fun ticket waits => ?_⟩
    dsimp only at waits
    rw [idle] at waits
    cases waits
  · exact lends.settings
  · dsimp only
    rw [rented, returned]
    exact kept
  · exact lends.buffers

end Resources

theorem Ticket.load_eq (ticket : Ticket) :
    ticket.load = if ticket.lease.isSome then 1 else 0 := by
  unfold load
  cases ticket.lease <;> rfl

namespace Table

variable {α : Type}

theorem total_eq_countP (weight : α → Nat) (heavy : α → Bool)
    (weighs : ∀ object, weight object = if heavy object then 1 else 0) (table : Table α) :
    table.total weight = table.entries.countP fun entry => heavy entry.2 :=
  sum_map_eq_countP (fun entry => weighs entry.2) table.entries

end Table

namespace Custody

inductive Move where
  | act (action : Action)
  | shrinkTickets

def make (custody : Custody) : Move → Custody
  | .act action => (custody.perform action).2
  | .shrinkTickets => { custody with resources := custody.resources.shrinkTickets }

def history (settings : Settings) (moves : List Move) : Custody :=
  moves.foldl make { resources := Resources.ofSettings settings }

variable {settings : Settings} {custody : Custody}

theorem Accounted.make (accounted : Accounted settings 0 0 custody) (move : Move) :
    Accounted settings 0 0 (custody.make move) := by
  cases move with
  | act action => exact accounted.perform action
  | shrinkTickets => exact { accounted with lends := accounted.lends.shrinkTickets }

theorem accounted_history (settings : Settings) (moves : List Move) :
    Accounted settings 0 0 (history settings moves) :=
  List.foldlRecOn (motive := Accounted settings 0 0) moves make (accounted_new settings)
    fun _ accounted move _ => accounted.make move

theorem signalsOf_eq (arming : Arming) (custody : Custody) :
    (custody.signalsOf arming).1 =
      { operation := arming.operation
        deadline := arming.deadline
        cancel := arming.cancel.map fun name => (custody.token name).1 } := by
  obtain ⟨operation, deadline, cancel⟩ := arming
  cases cancel <;> rfl

/-- What is so of the tickets and the buffers of an engine at any time. -/
structure Recycles (custody : Custody) : Prop where
  waiting : ∀ ticket ∈ custody.resources.tickets.idle, ticket = { armed := none, lease := none }
  /-- A ticket is never refused, and has the signals that were asked for and nothing else. -/
  granted : ∀ signals, ∃ next,
    custody.resources.rentTicket signals = (.ok { armed := some signals, lease := none }, next)
  rented : ∀ name arming,
    (custody.perform (.rentTicket name arming)).1 = .done ∧
      (custody.perform (.rentTicket name arming)).2.tickets.find? name =
        some
          { ticket :=
              { armed := some
                  { operation := arming.operation
                    deadline := arming.deadline
                    cancel := arming.cancel.map fun token => (custody.token token).1 }
                lease := none }
            pooled := true }
  buffersOut : custody.resources.buffers.stats.outstanding =
    custody.buffers.size + custody.tickets.entries.countP fun entry => entry.2.ticket.lease.isSome
  ticketsOut : custody.resources.tickets.stats.outstanding =
    custody.tickets.entries.countP fun entry => entry.2.pooled
  /-- A ticket that carries nothing takes a buffer from its holder. -/
  attached : ∀ ticket held buffer moved,
    custody.tickets.find? ticket = some held → held.ticket.lease = none →
      custody.buffers.find? buffer = some moved →
        let attaching := custody.perform (.attach ticket buffer)
        attaching.1 = .done ∧
          attaching.2.tickets.find? ticket =
            some { held with ticket := { held.ticket with lease := some moved } } ∧
          attaching.2.buffers.find? buffer = none ∧
          attaching.2.resources = custody.resources
  /-- A ticket hands back what it carries; whatever has had that name until then goes home. -/
  detached : ∀ ticket held buffer carried,
    custody.tickets.find? ticket = some held → held.ticket.lease = some carried →
      let detaching := custody.perform (.detach ticket buffer)
      detaching.1 = .buffer (some carried) ∧
        detaching.2.tickets.find? ticket =
          some { held with ticket := { held.ticket with lease := none } } ∧
        detaching.2.buffers.find? buffer = some carried ∧
        detaching.2.resources =
          match custody.buffers.find? buffer with
          | some other => custody.resources.giveBackBuffer other
          | none => custody.resources
  /-- A ticket that carries a buffer keeps it, and the other one goes home. -/
  occupied : ∀ ticket held carried buffer moved,
    custody.tickets.find? ticket = some held → held.ticket.lease = some carried →
      custody.buffers.find? buffer = some moved →
        custody.perform (.attach ticket buffer) =
          (.refused (.error (.protocolViolation "token already carries a buffer lease")),
            { custody with
              buffers := custody.buffers.erase buffer
              resources := custody.resources.giveBackBuffer moved })
  /-- A ticket sends its buffer home both if it is kept and if there is no room for it. -/
  dropped : ∀ name held, custody.tickets.find? name = some held → held.pooled = true →
    (custody.perform (.dropTicket name)).2.resources =
      { custody.resources with
        buffers := Resources.unload held.ticket custody.resources.buffers
        tickets :=
          if custody.resources.tickets.idle.length <
              custody.resources.settings.maxIdleTickets then
            { custody.resources.tickets with
              idle := {} :: custody.resources.tickets.idle
              returned := custody.resources.tickets.returned + 1 }
          else
            { custody.resources.tickets with
              returned := custody.resources.tickets.returned + 1
              destroyed := custody.resources.tickets.destroyed + 1 } }

theorem attach_free {ticket buffer : String} {held : HeldTicket} {moved : Buffer}
    (found : custody.tickets.find? ticket = some held) (free : held.ticket.lease = none)
    (present : custody.buffers.find? buffer = some moved) :
    custody.attach ticket buffer =
      (.done,
        { custody with
          buffers := custody.buffers.erase buffer
          tickets := custody.tickets.insert ticket
            { held with ticket := { held.ticket with lease := some moved } } }) := by
  simp only [attach, withTicket, found, present, Ticket.attach, free, changeTicket, Table.change]

theorem attach_occupied {ticket buffer : String} {held : HeldTicket} {carried moved : Buffer}
    (found : custody.tickets.find? ticket = some held) (laden : held.ticket.lease = some carried)
    (present : custody.buffers.find? buffer = some moved) :
    custody.attach ticket buffer =
      (.refused (.error (.protocolViolation "token already carries a buffer lease")),
        { custody with
          buffers := custody.buffers.erase buffer
          resources := custody.resources.giveBackBuffer moved }) := by
  simp only [attach, withTicket, found, present, Ticket.attach, laden]
  rfl

theorem detach_laden {ticket : String} {held : HeldTicket} {carried : Buffer}
    (found : custody.tickets.find? ticket = some held) (laden : held.ticket.lease = some carried)
    (buffer : String) :
    custody.perform (.detach ticket buffer) =
      (.buffer (some carried),
        { custody with
          tickets := custody.tickets.insert ticket
            { held with ticket := { held.ticket with lease := none } } }.putBuffer buffer carried) := by
  simp only [perform, withTicket, found, Ticket.detach, laden, changeTicket, Table.change]

theorem resources_dropBuffer (name : String) (custody : Custody) :
    (custody.dropBuffer name).2.resources =
      match custody.buffers.find? name with
      | some buffer => custody.resources.giveBackBuffer buffer
      | none => custody.resources := by
  unfold dropBuffer
  cases custody.buffers.find? name <;> rfl

theorem tickets_dropBuffer (name : String) (custody : Custody) :
    (custody.dropBuffer name).2.tickets = custody.tickets := by
  unfold dropBuffer
  cases custody.buffers.find? name <;> rfl

theorem Accounted.recycles (accounted : Accounted settings 0 0 custody) : custody.Recycles := by
  have tidy := accounted.lends.tidy
  obtain ⟨ticketsOut, buffersOut⟩ :=
    accounted.lends.outstanding (Resources.sound_ofSettings settings)
  constructor
  · exact tidy.tickets
  · intro signals
    obtain ⟨next, granted, -⟩ := tidy.rentTicket signals
    exact ⟨next, granted⟩
  · intro name arming
    have named := (accounted.signalsOf arming).lends.tidy
    obtain ⟨next, granted, -⟩ := named.rentTicket (custody.signalsOf arming).1
    rw [← signalsOf_eq]
    simp only [Custody.perform, granted, Custody.putTicket]
    exact ⟨trivial, Table.find?_insert _ name _⟩
  · rw [buffersOut, Table.total_eq_countP _ (·.ticket.lease.isSome) fun held => held.ticket.load_eq]
    exact Nat.zero_add _
  · rw [ticketsOut, Table.total_eq_countP pooledWeight HeldTicket.pooled fun held => rfl]
    exact Nat.zero_add _
  · intro ticket held buffer moved found free present attaching
    simp only [attaching, Custody.perform, attach_free found free present]
    exact ⟨trivial, Table.find?_insert _ ticket _, Table.find?_erase _ buffer, trivial⟩
  · intro ticket held buffer carried found laden detaching
    simp only [detaching, detach_laden found laden, Custody.putBuffer, tickets_dropBuffer,
      resources_dropBuffer]
    exact ⟨trivial, Table.find?_insert _ ticket _, Table.find?_insert _ buffer _, trivial⟩
  · exact fun ticket held carried buffer moved found laden present =>
      attach_occupied found laden present
  · intro name held found pooled
    simp only [Custody.perform, Custody.dropTicket, found, pooled, if_true]
    exact custody.resources.giveBackTicket_eq held.ticket

/-- Whatever the settings are and whatever is done with an engine's tickets and buffers, a ticket
is as good as new when it is rented and every buffer that is out has one holder. -/
theorem tickets_recycle (settings : Settings) (moves : List Move) :
    (history settings moves).Recycles := (accounted_history settings moves).recycles

/-- A ticket that has been given one buffer is offered another one, and is asked for its own. -/
theorem laden_ticket_recycles :
    let arming : Arming := { operation := .send }
    let custody := history {} [.act (.rentTicket "ticket" arming), .act (.rentBuffer "first" 4),
      .act (.rentBuffer "second" 4), .act (.attach "ticket" "first")]
    ∃ held carried,
      custody.tickets.find? "ticket" = some held ∧ held.ticket.lease = some carried ∧
        custody.resources.buffers.stats.outstanding = 2 ∧
        (custody.perform (.attach "ticket" "second")).1 =
          .refused (.error (.protocolViolation "token already carries a buffer lease")) ∧
        (custody.perform (.detach "ticket" "first")).1 = .buffer (some carried) := by
  intro arming custody
  have recycles : custody.Recycles := tickets_recycle {} _
  have found : custody.tickets.find? "ticket" =
      some { ticket := { armed := some { operation := .send }, lease := some (.ofCapacity 4096) } } :=
    rfl
  refine ⟨_, _, found, rfl, ?_, ?_, ?_⟩
  · exact recycles.buffersOut
  · exact congrArg Prod.fst (recycles.occupied "ticket" _ _ "second" _ found rfl rfl)
  · exact (recycles.detached "ticket" _ "first" _ found rfl).1

end Custody

end FramedTransport
