import FramedTransport.Buffer
import FramedTransport.Pool

/-!
The pool of byte buffers.
A rented buffer is empty and has the room that was asked for. A returned one is
kept unless it has grown beyond what the pool retains.
-/

namespace FramedTransport

structure BufferPool where
  capacity : Nat
  maxRetained : Nat
  maxIdle : Nat
  pool : Pool Buffer := {}
deriving DecidableEq, Repr

namespace BufferPool

def policy (buffers : BufferPool) : Pool.Policy Unit Buffer where
  create _ := (Buffer.ofCapacity buffers.capacity, ())
  accepts buffer _ := (buffer.capacity ≤ buffers.maxRetained, ())
  reset buffer _ := (buffer.clear, ())
  maxIdle := buffers.maxIdle

def stats (buffers : BufferPool) : Pool.Stats := buffers.pool.stats

def rent (buffers : BufferPool) (count : Nat) : Buffer × BufferPool :=
  let (buffer, pool, _) := buffers.pool.rent buffers.policy ()
  (buffer.reserve count, { buffers with pool })

def rentFilled (buffers : BufferPool) (count : Nat) : Buffer × BufferPool :=
  let (buffer, buffers) := buffers.rent count
  (buffer.resize count, buffers)

def giveBack (buffers : BufferPool) (buffer : Buffer) : BufferPool :=
  { buffers with pool := (buffers.pool.giveBack buffers.policy buffer ()).1 }

def giveBackAll (buffers : BufferPool) (returned : List Buffer) : BufferPool :=
  returned.foldl giveBack buffers

def shrink (buffers : BufferPool) : Nat × BufferPool :=
  let (count, pool, _) := buffers.pool.shrink buffers.policy ()
  (count, { buffers with pool })

end BufferPool

end FramedTransport
