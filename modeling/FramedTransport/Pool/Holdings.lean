import FramedTransport.Pool
import FramedTransport.Table

/-!
A pool together with the items that have been rented from it.
Every rented item is held under a name. Renting under a name in use takes the
new item first and then gives the old one back.
-/

namespace FramedTransport

structure Pool.Holdings (σ α : Type) where
  outside : σ
  pool : Pool α := {}
  held : Table α := {}

namespace Pool

inductive Action (α : Type) where
  | rent (name : String)
  | rentMany (name : String) (count : Nat)
  | change (name : String) (edit : α → α)
  | look (name : String)
  | giveBack (name : String)
  | giveBackAll
  | shrink

inductive Reply (α : Type) where
  | item (item : α)
  | changed
  | existed (answer : Bool)
  | count (count : Nat)
  | missing

namespace Holdings

variable {σ α : Type}

def giveBack (policy : Policy σ α) (name : String) (holdings : Holdings σ α) :
    Bool × Holdings σ α :=
  match holdings.held.find? name with
  | none => (false, holdings)
  | some item =>
      let (pool, outside) := holdings.pool.giveBack policy item holdings.outside
      (true, { outside, pool, held := holdings.held.erase name })

def rent (policy : Policy σ α) (name : String) (holdings : Holdings σ α) : α × Holdings σ α :=
  let (item, pool, outside) := holdings.pool.rent policy holdings.outside
  let (_, holdings) := giveBack policy name { holdings with pool, outside }
  (item, { holdings with held := holdings.held.insert name item })

def numbered (name : String) (index : Nat) : String :=
  let digits := Nat.toDigits 10 index
  name ++ String.ofList (List.replicate (4 - digits.length) '0' ++ digits)

def rentAll (policy : Policy σ α) (names : List String) (holdings : Holdings σ α) : Holdings σ α :=
  names.foldl (fun holdings name => (rent policy name holdings).2) holdings

def giveBackNamed (policy : Policy σ α) (names : List String) (holdings : Holdings σ α) :
    Holdings σ α :=
  names.foldl (fun holdings name => (giveBack policy name holdings).2) holdings

def perform (policy : Policy σ α) (action : Action α) (holdings : Holdings σ α) :
    Reply α × Holdings σ α :=
  match action with
  | .rent name =>
      let (item, holdings) := rent policy name holdings
      (.item item, holdings)
  | .rentMany name count =>
      let holdings := rentAll policy ((List.range count).map (numbered name)) holdings
      (.count holdings.held.size, holdings)
  | .change name edit =>
      if (holdings.held.find? name).isSome then
        (.changed, { holdings with held := holdings.held.change name edit })
      else (.missing, holdings)
  | .look name =>
      match holdings.held.find? name with
      | some item => (.item item, holdings)
      | none => (.missing, holdings)
  | .giveBack name =>
      let (existed, holdings) := giveBack policy name holdings
      (.existed existed, holdings)
  | .giveBackAll =>
      (.count holdings.held.size, giveBackNamed policy holdings.held.names holdings)
  | .shrink =>
      let (count, pool, outside) := holdings.pool.shrink policy holdings.outside
      (.count count, { holdings with pool, outside })

end Holdings

end Pool

end FramedTransport
