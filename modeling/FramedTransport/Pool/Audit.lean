import FramedTransport.Pool

/-!
Pools whose policy writes down what it does.
Items carry the number under which they were made and a value that their holder
may set; every judgement, reset and destruction leaves an event with the value it
saw.
-/

namespace FramedTransport.Pool.Audit

structure Item where
  serial : Nat
  value : Int := 0
deriving DecidableEq, Repr

inductive Event where
  | create (serial : Nat)
  | check (item : Item)
  | reset (item : Item)
  | destroy (item : Item)
deriving DecidableEq, Repr

structure Log where
  made : Nat := 0
  events : List Event := []
deriving DecidableEq, Repr

def Log.note (log : Log) (event : Event) : Log := { log with events := log.events ++ [event] }

/-- Which hooks a pool has; without `reuseMost` every item is accepted unseen. -/
structure Hooks where
  resets : Bool := false
  destroys : Bool := false
  reuseMost : Option Int := none
  maxIdle : Nat := 1024
deriving DecidableEq, Repr

def policy (hooks : Hooks) : Policy Log Item where
  create log :=
    let serial := log.made + 1
    ({ serial }, { log.note (.create serial) with made := serial })
  accepts item log :=
    match hooks.reuseMost with
    | none => (true, log)
    | some most => (item.value ≤ most, log.note (.check item))
  reset item log :=
    if hooks.resets then ({ item with value := 0 }, log.note (.reset item)) else (item, log)
  destroy item log := if hooks.destroys then log.note (.destroy item) else log
  maxIdle := hooks.maxIdle

end FramedTransport.Pool.Audit
