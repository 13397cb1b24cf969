import FramedTransport.Proofs.Circulation
import FramedTransport.Proofs.Tickets

/-!
Custodies as circulations.
Tickets and buffers under names of their own are two kinds of holders among others, and what is done
with them is done with holders of the same pools. So the laws of circulation hold for every custody
as well.
-/

namespace FramedTransport

namespace Table

variable {α β : Type} {naming : String → String} {wrap : α → β} {part : Table α} {whole : Table β}

/-- The objects of one table are among those of another one, wrapped and under names of their own. -/
def Among (naming : String → String) (wrap : α → β) (part : Table α) (whole : Table β) : Prop :=
  ∀ name, whole.find? (naming name) = (part.find? name).map wrap

theorem Among.insert (among : part.Among naming wrap whole) (distinct : naming.Injective)
    (name : String) (object : α) :
    (part.insert name object).Among naming wrap (whole.insert (naming name) (wrap object)) := by
  intro other
  by_cases same : other = name
  · subst same
    rw [find?_insert, find?_insert]
    rfl
  · rw [find?_insert_of_ne _ (distinct.ne same), find?_insert_of_ne _ same]
    exact among other

theorem Among.erase (among : part.Among naming wrap whole) (distinct : naming.Injective)
    (name : String) : (part.erase name).Among naming wrap (whole.erase (naming name)) := by
  intro other
  by_cases same : other = name
  · subst same
    rw [find?_erase, find?_erase]
    rfl
  · rw [find?_erase_of_ne _ (distinct.ne same), find?_erase_of_ne _ same]
    exact among other

theorem Among.kept (among : part.Among naming wrap whole) (distinct : naming.Injective)
    {name : String} {object : α} (found : part.find? name = some object) :
    part.Among naming wrap (whole.insert (naming name) (wrap object)) := by
  intro other
  by_cases same : other = name
  · subst same
    rw [find?_insert, found]
    rfl
  · rw [find?_insert_of_ne _ (distinct.ne same)]
    exact among other

variable {stranger : String}

theorem Among.insertOther (among : part.Among naming wrap whole)
    (strange : ∀ name, naming name ≠ stranger) (object : β) :
    part.Among naming wrap (whole.insert stranger object) := by
  intro name
  rw [find?_insert_of_ne _ (strange name)]
  exact among name

theorem Among.eraseOther (among : part.Among naming wrap whole)
    (strange : ∀ name, naming name ≠ stranger) : part.Among naming wrap (whole.erase stranger) := by
  intro name
  rw [find?_erase_of_ne _ (strange name)]
  exact among name

end Table

namespace Custody

def leaseName (name : String) : String := "lease " ++ name

def ticketName (name : String) : String := "ticket " ++ name

theorem leaseName_injective : leaseName.Injective := by
  intro name other same
  simpa [leaseName] using same

theorem ticketName_injective : ticketName.Injective := by
  intro name other same
  simpa [ticketName] using same

theorem leaseName_ne_ticketName (name other : String) : leaseName name ≠ ticketName other := by
  intro same
  have chars := congrArg String.toList same
  simp [leaseName, ticketName] at chars

/-- The same pools, and the same tickets and buffers under the same names. -/
structure Mirrors (custody : Custody) (circulation : Circulation) : Prop where
  resources : circulation.resources = custody.resources
  leases : custody.buffers.Among leaseName .lease circulation.held
  tickets : custody.tickets.Among ticketName .ticket circulation.held

namespace Mirrors

variable {settings : Settings} {custody : Custody} {circulation : Circulation}

theorem insertBuffer (mirrors : Mirrors custody circulation) (name : String) (buffer : Buffer) :
    Mirrors { custody with buffers := custody.buffers.insert name buffer }
      { circulation with held := circulation.held.insert (leaseName name) (.lease buffer) } where
  resources := mirrors.resources
  leases := mirrors.leases.insert leaseName_injective name buffer
  tickets := mirrors.tickets.insertOther (fun other => (leaseName_ne_ticketName name other).symm) _

theorem insertTicket (mirrors : Mirrors custody circulation) (name : String) (held : HeldTicket) :
    Mirrors { custody with tickets := custody.tickets.insert name held }
      { circulation with held := circulation.held.insert (ticketName name) (.ticket held) } where
  resources := mirrors.resources
  leases := mirrors.leases.insertOther (fun other => leaseName_ne_ticketName other name) _
  tickets := mirrors.tickets.insert ticketName_injective name held

theorem eraseBuffer (mirrors : Mirrors custody circulation) (name : String) :
    Mirrors { custody with buffers := custody.buffers.erase name }
      { circulation with held := circulation.held.erase (leaseName name) } where
  resources := mirrors.resources
  leases := mirrors.leases.erase leaseName_injective name
  tickets := mirrors.tickets.eraseOther fun other => (leaseName_ne_ticketName name other).symm

theorem eraseTicket (mirrors : Mirrors custody circulation) (name : String) :
    Mirrors { custody with tickets := custody.tickets.erase name }
      { circulation with held := circulation.held.erase (ticketName name) } where
  resources := mirrors.resources
  leases := mirrors.leases.eraseOther fun other => leaseName_ne_ticketName other name
  tickets := mirrors.tickets.erase ticketName_injective name

theorem supplied (mirrors : Mirrors custody circulation) (resources : Resources) :
    Mirrors { custody with resources } { circulation with resources } :=
  { mirrors with resources := rfl }

theorem dropBuffer (mirrors : Mirrors custody circulation) (name : String) :
    Mirrors (custody.dropBuffer name).2 (circulation.undergo (leaseName name) .drop) := by
  unfold Custody.dropBuffer Circulation.undergo
  rw [mirrors.leases, mirrors.resources]
  cases custody.buffers.find? name with
  | none => exact mirrors
  | some buffer => exact (mirrors.eraseBuffer name).supplied _

theorem putBuffer (mirrors : Mirrors custody circulation) (name : String) (buffer : Buffer) :
    Mirrors (custody.putBuffer name buffer) (circulation.put (leaseName name) (.lease buffer)) :=
  (mirrors.dropBuffer name).insertBuffer name buffer

theorem dropTicket (mirrors : Mirrors custody circulation) (name : String) :
    Mirrors (custody.dropTicket name).2 (circulation.undergo (ticketName name) .drop) := by
  unfold Custody.dropTicket Circulation.undergo
  rw [mirrors.tickets, mirrors.resources]
  cases custody.tickets.find? name with
  | none => exact mirrors
  | some held =>
      simp only [Option.map_some, Holder.undergo, Holder.drop]
      split
      · exact (mirrors.eraseTicket name).supplied _
      · exact (mirrors.eraseTicket name).supplied _

theorem putTicket (mirrors : Mirrors custody circulation) (name : String) (held : HeldTicket) :
    Mirrors (custody.putTicket name held) (circulation.put (ticketName name) (.ticket held)) :=
  (mirrors.dropTicket name).insertTicket name held

theorem changeTicket (mirrors : Mirrors custody circulation) {name : String} {held : HeldTicket}
    (found : custody.tickets.find? name = some held) (ticket : Ticket) :
    Mirrors (custody.changeTicket name ticket)
      { circulation with
        held := circulation.held.insert (ticketName name) (.ticket { held with ticket }) } := by
  unfold Custody.changeTicket Table.change
  rw [found]
  exact mirrors.insertTicket name _

theorem kept (mirrors : Mirrors custody circulation) {name : String} {held : HeldTicket}
    (found : custody.tickets.find? name = some held) :
    Mirrors custody
      { circulation with held := circulation.held.insert (ticketName name) (.ticket held) } where
  resources := mirrors.resources
  leases := mirrors.leases.insertOther (fun other => leaseName_ne_ticketName other name) _
  tickets := mirrors.tickets.kept ticketName_injective found

theorem signalsOf (mirrors : Mirrors custody circulation) (arming : Arming) :
    Mirrors (custody.signalsOf arming).2 circulation := by
  unfold Custody.signalsOf Custody.token
  dsimp only
  split
  · exact mirrors
  · dsimp only
    split
    · exact mirrors
    · exact { mirrors with }

theorem attach (mirrors : Mirrors custody circulation) (ticket buffer : String) :
    Mirrors (custody.attach ticket buffer).2
      (circulation.attach (ticketName ticket) (leaseName buffer)) := by
  unfold Custody.attach Custody.withTicket Circulation.attach
  rw [mirrors.tickets, mirrors.leases]
  cases found : custody.tickets.find? ticket with
  | none => exact mirrors
  | some held =>
      cases present : custody.buffers.find? buffer with
      | none => exact mirrors
      | some moved =>
          simp only [Option.map_some]
          cases held.ticket.attach moved with
          | ok carrier => exact (mirrors.eraseBuffer buffer).changeTicket found carrier
          | error reason =>
              have dropped := mirrors.dropBuffer buffer
              rwa [Custody.dropBuffer, present] at dropped

theorem detach (mirrors : Mirrors custody circulation) (ticket buffer : String) :
    Mirrors (custody.perform (.detach ticket buffer)).2
      (circulation.detach (ticketName ticket) (leaseName buffer)) := by
  cases found : custody.tickets.find? ticket with
  | none =>
      simp only [Custody.perform, Custody.withTicket, Circulation.detach,
        mirrors.tickets ticket, found, Option.map_none]
      exact mirrors
  | some held =>
      simp only [Custody.perform, Custody.withTicket, Circulation.detach,
        mirrors.tickets ticket, found, Option.map_some, Ticket.detach]
      cases held.ticket.lease with
      | none => exact mirrors
      | some moved => exact (mirrors.changeTicket found _).putBuffer buffer moved

theorem ofTicket (mirrors : Mirrors custody circulation) (name : String) (deed : Holder.Deed)
    {use : Ticket → Reply × Custody}
    (follows : ∀ held, custody.tickets.find? name = some held →
      let become := (Holder.ticket held).undergo deed custody.resources
      Mirrors (use held.ticket).2
        { resources := become.2
          held := circulation.held.replace (ticketName name) become.1 }) :
    Mirrors (custody.withTicket name use).2 (circulation.undergo (ticketName name) deed) := by
  unfold Custody.withTicket Circulation.undergo
  rw [mirrors.tickets, mirrors.resources]
  cases found : custody.tickets.find? name with
  | none => exact mirrors
  | some held => exact follows held found

theorem looked (mirrors : Mirrors custody circulation) (name : String)
    {use : Ticket → Reply × Custody} (unchanged : ∀ ticket, (use ticket).2 = custody) :
    Mirrors (custody.withTicket name use).2 circulation := by
  unfold Custody.withTicket
  cases custody.tickets.find? name with
  | none => exact mirrors
  | some held =>
      rw [unchanged held.ticket]
      exact mirrors

/-- Whatever is done in custody is a move of the circulation, or none. -/
theorem perform (mirrors : Mirrors custody circulation) (action : Action) :
    Mirrors (custody.perform action).2 circulation ∨
      ∃ move, Mirrors (custody.perform action).2 (circulation.make move) := by
  cases action with
  | rentTicket name arming =>
      have named := mirrors.signalsOf arming
      refine .inr ⟨.rentTicket (ticketName name) (custody.signalsOf arming).1, ?_⟩
      simp only [Custody.perform, Circulation.make, named.resources]
      rcases (custody.signalsOf arming).2.resources.rentTicket (custody.signalsOf arming).1
        with ⟨reason | ticket, resources⟩
      · exact named.supplied resources
      · exact (named.supplied resources).putTicket name { ticket }
  | makeTicket name => exact .inr ⟨.makeTicket (ticketName name), mirrors.putTicket name _⟩
  | dropTicket name => exact .inr ⟨.undergo (ticketName name) .drop, mirrors.dropTicket name⟩
  | rentBuffer name count =>
      refine .inr ⟨.rent (leaseName name) count, ?_⟩
      simp only [Custody.perform, Circulation.make, mirrors.resources]
      exact (mirrors.supplied _).putBuffer name _
  | rentFilled name count =>
      refine .inr ⟨.rentFilled (leaseName name) count, ?_⟩
      simp only [Custody.perform, Circulation.make, mirrors.resources]
      exact (mirrors.supplied _).putBuffer name _
  | dropBuffer name => exact .inr ⟨.undergo (leaseName name) .drop, mirrors.dropBuffer name⟩
  | extend name bytes =>
      refine .inr ⟨.undergo (leaseName name) (.edit (.extend bytes)), ?_⟩
      simp only [Custody.perform, Circulation.make, Circulation.undergo, mirrors.leases name]
      cases custody.buffers.find? name with
      | none => exact mirrors
      | some buffer => exact mirrors.insertBuffer name (buffer.append bytes)
  | shrink =>
      refine .inr ⟨.shrink, ?_⟩
      simp only [Custody.perform, Circulation.make, mirrors.resources]
      exact mirrors.supplied _
  | cancel name =>
      exact .inl { mirrors.signalsOf { operation := .send, cancel := some name } with }
  | child name parent =>
      exact .inl { mirrors.signalsOf { operation := .send, cancel := some parent } with }
  | arm name arming =>
      have named := mirrors.signalsOf arming
      refine .inr ⟨.undergo (ticketName name) (.arm (custody.signalsOf arming).1), ?_⟩
      apply mirrors.ofTicket
      intro held found become
      rw [← tickets_signalsOf arming custody] at found
      simp only [become, Holder.undergo, ← mirrors.resources]
      cases held.ticket.arm (custody.signalsOf arming).1 with
      | ok armed => exact named.changeTicket found armed
      | error reason => exact named.kept found
  | operation name | signals name | isCancelled name | carried name =>
      exact .inl (mirrors.looked name fun _ => rfl)
  | attach ticket buffer =>
      exact .inr ⟨.attach (ticketName ticket) (leaseName buffer), mirrors.attach ticket buffer⟩
  | detach ticket buffer =>
      exact .inr ⟨.detach (ticketName ticket) (leaseName buffer), mirrors.detach ticket buffer⟩
  | extendCarried name bytes =>
      refine .inr ⟨.undergo (ticketName name) (.edit (.extend bytes)), ?_⟩
      apply mirrors.ofTicket
      intro held found become
      exact (mirrors.changeTicket found _).supplied _
  | clear name =>
      refine .inr ⟨.undergo (ticketName name) .clear, ?_⟩
      apply mirrors.ofTicket
      intro held found become
      exact (mirrors.changeTicket found _).supplied _

theorem make (mirrors : Mirrors custody circulation) (move : Move) :
    Mirrors (custody.make move) circulation ∨
      ∃ other, Mirrors (custody.make move) (circulation.make other) := by
  cases move with
  | act action => exact mirrors.perform action
  | shrinkTickets =>
      refine .inr ⟨.shrinkTickets, ?_⟩
      simp only [Custody.make, Circulation.make, mirrors.resources]
      exact mirrors.supplied _

theorem makeAll (mirrors : Mirrors custody circulation) (moves : List Move) :
    ∃ others : List Circulation.Move,
      Mirrors (moves.foldl Custody.make custody) (others.foldl Circulation.make circulation) := by
  induction moves generalizing custody circulation with
  | nil => exact ⟨[], mirrors⟩
  | cons move rest ih =>
      rcases mirrors.make move with made | ⟨other, made⟩
      · exact ih made
      · obtain ⟨others, all⟩ := ih made
        exact ⟨other :: others, all⟩

end Mirrors

/-- Every history of tickets and buffers in custody is one of holders in circulation. -/
theorem mirrors_history (settings : Settings) (moves : List Move) :
    ∃ others, Mirrors (history settings moves) (Circulation.history settings others) := by
  have start : Mirrors { resources := Resources.ofSettings settings }
      { resources := Resources.ofSettings settings } :=
    ⟨rfl, fun name => rfl, fun name => rfl⟩
  exact start.makeAll moves

/-- Whatever is done in custody, the pools are in order and every buffer that is held or carried has
the room of a new one. -/
theorem steady_custody (settings : Settings) (moves : List Move) :
    let custody := history settings moves
    custody.resources.Stocked settings ∧
      (∀ name buffer, custody.buffers.find? name = some buffer →
        settings.bufferCapacity ≤ buffer.capacity) ∧
      (∀ name held, custody.tickets.find? name = some held →
        ∀ buffer ∈ held.ticket.lease, settings.bufferCapacity ≤ buffer.capacity) := by
  intro custody
  obtain ⟨others, mirrors⟩ := mirrors_history settings moves
  have steady := Circulation.steady_history settings others
  refine ⟨mirrors.resources ▸ steady.stocked, ?_, ?_⟩
  · intro name buffer found
    have held := mirrors.leases name
    rw [found] at held
    exact steady.roomy.find? held buffer rfl
  · intro name held found
    have carrying := mirrors.tickets name
    rw [found] at carrying
    exact steady.roomy.find? carrying

end Custody

end FramedTransport
