/-!
Pools of reusable items.
A pool keeps returned items on a stack and hands out the most recent first.
What happens to an item as it is made, judged, cleaned and thrown away is the
policy's business, and may change a state `σ` outside the pool.
-/

namespace FramedTransport

/-- `accepts` judges a returned item as its holder left it, `reset` cleans an accepted
one, and `destroy` sees an item that the pool gives up. -/
structure Pool.Policy (σ α : Type) where
  create : σ → α × σ
  accepts : α → σ → Bool × σ := fun _ outside => (true, outside)
  reset : α → σ → α × σ := fun item outside => (item, outside)
  destroy : α → σ → σ := fun _ outside => outside
  maxIdle : Nat := 1024

structure Pool.Stats where
  created : Nat
  reused : Nat
  returned : Nat
  destroyed : Nat
  idle : Nat
  outstanding : Nat
deriving DecidableEq, Repr

structure Pool (α : Type) where
  idle : List α := []
  created : Nat := 0
  reused : Nat := 0
  returned : Nat := 0
  destroyed : Nat := 0
deriving DecidableEq, Repr

namespace Pool

def stats (pool : Pool α) : Stats where
  created := pool.created
  reused := pool.reused
  returned := pool.returned
  destroyed := pool.destroyed
  idle := pool.idle.length
  outstanding := pool.created + pool.reused - pool.returned

/-- The item returned last, or a new one. -/
def rent (policy : Policy σ α) (pool : Pool α) (outside : σ) : α × Pool α × σ :=
  match pool.idle with
  | item :: rest => (item, { pool with idle := rest, reused := pool.reused + 1 }, outside)
  | [] =>
      let (item, outside) := policy.create outside
      (item, { pool with created := pool.created + 1 }, outside)

def discard (policy : Policy σ α) (item : α) (pool : Pool α) (outside : σ) : Pool α × σ :=
  ({ pool with destroyed := pool.destroyed + 1 }, policy.destroy item outside)

/-- An accepted item is reset before the pool looks whether it has room for it. -/
def giveBack (policy : Policy σ α) (item : α) (pool : Pool α) (outside : σ) : Pool α × σ :=
  let pool := { pool with returned := pool.returned + 1 }
  match policy.accepts item outside with
  | (false, outside) => discard policy item pool outside
  | (true, outside) =>
      let (item, outside) := policy.reset item outside
      if pool.idle.length < policy.maxIdle then
        ({ pool with idle := item :: pool.idle }, outside)
      else
        discard policy item pool outside

def discardAll (policy : Policy σ α) : List α → Pool α → σ → Pool α × σ
  | [], pool, outside => (pool, outside)
  | item :: rest, pool, outside =>
      let (pool, outside) := discard policy item pool outside
      discardAll policy rest pool outside

/-- Throws away every idle item, longest idle first, and counts them. -/
def shrink (policy : Policy σ α) (pool : Pool α) (outside : σ) : Nat × Pool α × σ :=
  (pool.idle.length, discardAll policy pool.idle.reverse { pool with idle := [] } outside)

end Pool

end FramedTransport
