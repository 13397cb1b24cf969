import FramedTransport.Pool.Buffers
import FramedTransport.Settings
import FramedTransport.Ticket

/-!
What all operations of one engine share: its settings and its two pools.
A ticket that comes back to its pool is cleared there, and a buffer that it
still carries goes home to the buffer pool.
-/

namespace FramedTransport

structure Resources where
  settings : Settings
  buffers : BufferPool
  tickets : Pool Ticket := {}
deriving DecidableEq, Repr

namespace Resources

def ofSettings (settings : Settings) : Resources where
  settings
  buffers :=
    { capacity := settings.bufferCapacity
      maxRetained := settings.maxRetainedBuffer
      maxIdle := settings.maxIdleBuffers }

def unload (ticket : Ticket) (buffers : BufferPool) : BufferPool :=
  match ticket.lease with
  | some buffer => buffers.giveBack buffer
  | none => buffers

def ticketPolicy (resources : Resources) : Pool.Policy BufferPool Ticket where
  create buffers := ({}, buffers)
  reset ticket buffers := ({}, unload ticket buffers)
  destroy := unload
  maxIdle := resources.settings.maxIdleTickets

def rentBuffer (resources : Resources) (count : Nat) : Buffer × Resources :=
  let (buffer, buffers) := resources.buffers.rent count
  (buffer, { resources with buffers })

def rentFilled (resources : Resources) (count : Nat) : Buffer × Resources :=
  let (buffer, buffers) := resources.buffers.rentFilled count
  (buffer, { resources with buffers })

def giveBackBuffer (resources : Resources) (buffer : Buffer) : Resources :=
  { resources with buffers := resources.buffers.giveBack buffer }

def giveBackTicket (resources : Resources) (ticket : Ticket) : Resources :=
  let (tickets, buffers) := resources.tickets.giveBack resources.ticketPolicy ticket resources.buffers
  { resources with tickets, buffers }

/-- A ticket armed with `signals`. One that cannot be armed goes straight back. -/
def rentTicket (resources : Resources) (signals : Signals) : Except Abort Ticket × Resources :=
  let (ticket, tickets, buffers) := resources.tickets.rent resources.ticketPolicy resources.buffers
  let resources := { resources with tickets, buffers }
  match ticket.arm signals with
  | .ok armed => (.ok armed, resources)
  | .error reason => (.error reason, resources.giveBackTicket ticket)

theorem signals_of_rentTicket {resources next : Resources} {signals : Signals} {ticket : Ticket}
    (rented : resources.rentTicket signals = (.ok ticket, next)) : ticket.signals = .ok signals := by
  unfold rentTicket Ticket.arm at rented
  dsimp only at rented
  split at rented
  · rename_i armed granted
    split at granted <;> cases granted
    cases rented
    rfl
  · cases rented

end Resources

end FramedTransport
