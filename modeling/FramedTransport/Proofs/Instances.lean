import FramedTransport.Pool.Holdings

/-!
Pools whose items can be told apart.
A pool does not look into its items, so it can be run over items that carry a
number of their own and a note of what has happened to them last, with a register
of what has been made and destroyed. Forgetting all of that gives the plain pool
back, whatever its policy does and whatever its holders do.
-/

namespace FramedTransport

namespace Table

variable {α β : Type}

def map (change : α → β) (table : Table α) : Table β :=
  { entries := table.entries.map fun entry => (entry.1, change entry.2) }

@[simp] theorem find?_map (change : α → β) (table : Table α) (name : String) :
    (table.map change).find? name = (table.find? name).map change := by
  simp only [find?, map, List.find?_map, Option.map_map]
  rfl

@[simp] theorem erase_map (change : α → β) (table : Table α) (name : String) :
    (table.map change).erase name = (table.erase name).map change := by
  simp only [erase, map, List.filter_map]
  rfl

theorem insert_map (change : α → β) (table : Table α) (name : String) (object : α) :
    (table.map change).insert name (change object) = (table.insert name object).map change := by
  simp only [insert, erase_map]
  rfl

@[simp] theorem names_map (change : α → β) (table : Table α) :
    (table.map change).names = table.names := by
  simp [names, map, Function.comp_def]

@[simp] theorem size_map (change : α → β) (table : Table α) :
    (table.map change).size = table.size := by
  simp [size, map]

theorem insert_insert (table : Table α) (name : String) (first second : α) :
    (table.insert name first).insert name second = table.insert name second := by
  simp [insert, erase]

theorem change_insert (table : Table α) (name : String) (object : α) (edit : α → α) :
    (table.insert name object).change name edit = table.insert name (edit object) := by
  simp only [change, find?_insert, insert_insert]

theorem change_map (view : α → β) (edit : α → α) (change : β → β) (table : Table α)
    (name : String) (same : ∀ object, view (edit object) = change (view object)) :
    (table.map view).change name change = (table.change name edit).map view := by
  simp only [Table.change, find?_map]
  cases table.find? name with
  | none => rfl
  | some object =>
      dsimp only [Option.map]
      rw [← same, insert_map]

end Table

namespace Pool

variable {σ α : Type}

/-- What has happened to an item last. -/
inductive Touch where
  | made
  | cleaned
  | held
deriving DecidableEq, Repr

/-- An item with a number that no other item has. -/
structure Instance (α : Type) where
  serial : Nat
  value : α
  touch : Touch := .made

/-- What lies outside of a pool, with the number of the next item to be made and the numbers of
the items that have been destroyed. -/
structure Register (σ : Type) where
  outside : σ
  made : Nat := 0
  gone : List Nat := []

/-- The policy that does the same with numbered items and writes it down. -/
def Policy.registered (policy : Policy σ α) : Policy (Register σ) (Instance α) where
  create register :=
    let (value, outside) := policy.create register.outside
    ({ serial := register.made, value }, { register with outside, made := register.made + 1 })
  accepts item register :=
    let (accepted, outside) := policy.accepts item.value register.outside
    (accepted, { register with outside })
  reset item register :=
    let (value, outside) := policy.reset item.value register.outside
    ({ item with value, touch := .cleaned }, { register with outside })
  destroy item register :=
    { register with
      outside := policy.destroy item.value register.outside
      gone := register.gone ++ [item.serial] }
  maxIdle := policy.maxIdle

@[simp] theorem Policy.accepts_registered (policy : Policy σ α) (item : Instance α)
    (register : Register σ) :
    policy.registered.accepts item register =
      ((policy.accepts item.value register.outside).1,
        { register with outside := (policy.accepts item.value register.outside).2 }) := rfl

@[simp] theorem Policy.reset_registered (policy : Policy σ α) (item : Instance α)
    (register : Register σ) :
    policy.registered.reset item register =
      ({ item with value := (policy.reset item.value register.outside).1, touch := .cleaned },
        { register with outside := (policy.reset item.value register.outside).2 }) := rfl

def Instance.hold (edit : α → α) (item : Instance α) : Instance α :=
  { item with value := edit item.value, touch := .held }

/-- A numbered item is in its holder's hands as soon as it has been rented. -/
def Action.taking (name : String) : List (Action (Instance α)) :=
  [.rent name, .change name (.hold id)]

def Action.registered : Action α → List (Action (Instance α))
  | .rent name => taking name
  | .rentMany name count => ((List.range count).map (Holdings.numbered name)).flatMap taking
  | .change name edit => [.change name (.hold edit)]
  | .look name => [.look name]
  | .giveBack name => [.giveBack name]
  | .giveBackAll => [.giveBackAll]
  | .shrink => [.shrink]

def map {β : Type} (change : α → β) (pool : Pool α) : Pool β :=
  { pool with idle := pool.idle.map change }

theorem rent_registered (policy : Policy σ α) (pool : Pool (Instance α)) (register : Register σ) :
    (pool.map (·.value)).rent policy register.outside =
      ((pool.rent policy.registered register).1.value,
        (pool.rent policy.registered register).2.1.map (·.value),
        (pool.rent policy.registered register).2.2.outside) := by
  obtain ⟨idle, created, reused, returned, destroyed⟩ := pool
  cases idle <;> rfl

theorem giveBack_registered (policy : Policy σ α) (item : Instance α) (pool : Pool (Instance α))
    (register : Register σ) :
    (pool.map (·.value)).giveBack policy item.value register.outside =
      ((pool.giveBack policy.registered item register).1.map (·.value),
        (pool.giveBack policy.registered item register).2.outside) := by
  simp only [giveBack, Policy.accepts_registered, Policy.reset_registered]
  rcases policy.accepts item.value register.outside with ⟨_ | _, outside⟩
  · rfl
  · simp only [map, List.length_map]
    by_cases room : pool.idle.length < policy.maxIdle
    · simp only [room, if_true, show policy.registered.maxIdle = policy.maxIdle from rfl]
      rfl
    · simp only [room, if_false, show policy.registered.maxIdle = policy.maxIdle from rfl]
      rfl

theorem discardAll_registered (policy : Policy σ α) (items : List (Instance α))
    (pool : Pool (Instance α)) (register : Register σ) :
    discardAll policy (items.map (·.value)) (pool.map (·.value)) register.outside =
      ((discardAll policy.registered items pool register).1.map (·.value),
        (discardAll policy.registered items pool register).2.outside) := by
  induction items generalizing pool register with
  | nil => rfl
  | cons item rest ih =>
      exact ih (discard policy.registered item pool register).1
        (discard policy.registered item pool register).2

theorem shrink_registered (policy : Policy σ α) (pool : Pool (Instance α))
    (register : Register σ) :
    (pool.map (·.value)).shrink policy register.outside =
      ((pool.shrink policy.registered register).1,
        (pool.shrink policy.registered register).2.1.map (·.value),
        (pool.shrink policy.registered register).2.2.outside) := by
  unfold shrink
  simp only [map, List.length_map, ← List.map_reverse]
  exact congrArg (Prod.mk pool.idle.length)
    (discardAll_registered policy pool.idle.reverse { pool with idle := [] } register)

namespace Holdings

def performAll (policy : Policy σ α) (actions : List (Action α)) (holdings : Holdings σ α) :
    Holdings σ α :=
  actions.foldl (fun holdings action => (perform policy action holdings).2) holdings

@[simp] theorem performAll_nil (policy : Policy σ α) (holdings : Holdings σ α) :
    performAll policy [] holdings = holdings := rfl

@[simp] theorem performAll_cons (policy : Policy σ α) (action : Action α)
    (rest : List (Action α)) (holdings : Holdings σ α) :
    performAll policy (action :: rest) holdings =
      performAll policy rest (perform policy action holdings).2 := rfl

theorem performAll_append (policy : Policy σ α) (actions more : List (Action α))
    (holdings : Holdings σ α) :
    performAll policy (actions ++ more) holdings =
      performAll policy more (performAll policy actions holdings) := List.foldl_append

def trace (policy : Policy σ α) (outside : σ) (actions : List (Action α)) :
    Holdings (Register σ) (Instance α) :=
  performAll policy.registered (actions.flatMap Action.registered) { outside := { outside } }

theorem trace_append (policy : Policy σ α) (outside : σ) (actions more : List (Action α)) :
    trace policy outside (actions ++ more) =
      performAll policy.registered (more.flatMap Action.registered)
        (trace policy outside actions) := by
  rw [trace, List.flatMap_append, performAll_append]
  rfl

def forget (holdings : Holdings (Register σ) (Instance α)) : Holdings σ α where
  outside := holdings.outside.outside
  pool := holdings.pool.map (·.value)
  held := holdings.held.map (·.value)

theorem giveBack_forget (policy : Policy σ α) (name : String)
    (holdings : Holdings (Register σ) (Instance α)) :
    giveBack policy name holdings.forget =
      ((giveBack policy.registered name holdings).1,
        (giveBack policy.registered name holdings).2.forget) := by
  unfold giveBack
  simp only [forget, Table.find?_map]
  cases holdings.held.find? name with
  | none => rfl
  | some item =>
      dsimp only [Option.map]
      rw [giveBack_registered, Table.erase_map]

theorem rent_forget (policy : Policy σ α) (name : String)
    (holdings : Holdings (Register σ) (Instance α)) :
    rent policy name holdings.forget =
      ((rent policy.registered name holdings).1.value,
        (rent policy.registered name holdings).2.forget) := by
  obtain ⟨register, pool, held⟩ := holdings
  have returned := giveBack_forget policy name
    { outside := (pool.rent policy.registered register).2.2
      pool := (pool.rent policy.registered register).2.1
      held }
  simp only [rent, forget, rent_registered] at returned ⊢
  simp only [returned, Table.insert_map (fun item : Instance α => item.value)]

theorem change_forget (policy : Policy σ α) (name : String) (edit : α → α)
    (holdings : Holdings (Register σ) (Instance α)) :
    (perform policy (.change name edit) holdings.forget).2 =
      (perform policy.registered (.change name (.hold edit)) holdings).2.forget := by
  have changed := Table.change_map (fun item : Instance α => item.value) (Instance.hold edit) edit
    holdings.held name fun _ => rfl
  simp only [perform, forget, Table.find?_map, Option.isSome_map, changed]
  split <;> rfl

theorem change_id_rent (policy : Policy σ α) (name : String) (holdings : Holdings σ α) :
    (perform policy (.change name id) (rent policy name holdings).2).2 =
      (rent policy name holdings).2 := by
  simp only [rent, perform, Table.find?_insert, Table.change_insert, Option.isSome_some, if_true,
    id]

theorem taking_forget (policy : Policy σ α) (name : String)
    (holdings : Holdings (Register σ) (Instance α)) :
    (performAll policy.registered (Action.taking name) holdings).forget =
      (rent policy name holdings.forget).2 := by
  calc (performAll policy.registered (Action.taking name) holdings).forget
      = (perform policy (.change name id) (rent policy.registered name holdings).2.forget).2 :=
        (change_forget policy name id _).symm
    _ = (perform policy (.change name id) (rent policy name holdings.forget).2).2 := by
        rw [rent_forget]
    _ = (rent policy name holdings.forget).2 := change_id_rent policy name holdings.forget

theorem rentAll_forget (policy : Policy σ α) (names : List String)
    (holdings : Holdings (Register σ) (Instance α)) :
    (performAll policy.registered (names.flatMap Action.taking) holdings).forget =
      rentAll policy names holdings.forget := by
  induction names generalizing holdings with
  | nil => rfl
  | cons name rest ih =>
      rw [List.flatMap_cons, performAll_append, ih, taking_forget]
      rfl

theorem giveBackNamed_forget (policy : Policy σ α) (names : List String)
    (holdings : Holdings (Register σ) (Instance α)) :
    (giveBackNamed policy.registered names holdings).forget =
      giveBackNamed policy names holdings.forget := by
  induction names generalizing holdings with
  | nil => rfl
  | cons name rest ih =>
      have first := congrArg Prod.snd (giveBack_forget policy name holdings)
      calc (giveBackNamed policy.registered (name :: rest) holdings).forget
          = giveBackNamed policy rest (giveBack policy.registered name holdings).2.forget :=
            ih _
        _ = giveBackNamed policy (name :: rest) holdings.forget :=
            congrArg (giveBackNamed policy rest) first.symm

theorem registered_forget (policy : Policy σ α) (action : Action α)
    (holdings : Holdings (Register σ) (Instance α)) :
    (performAll policy.registered action.registered holdings).forget =
      (perform policy action holdings.forget).2 := by
  cases action with
  | rent name => exact taking_forget policy name holdings
  | rentMany name count => exact rentAll_forget policy _ holdings
  | change name edit => exact (change_forget policy name edit holdings).symm
  | look name =>
      have unchanged {τ β : Type} (policy : Policy τ β) (holdings : Holdings τ β) :
          (perform policy (.look name) holdings).2 = holdings := by
        unfold perform
        dsimp only
        split <;> rfl
      simp only [Action.registered, performAll_cons, performAll_nil, unchanged]
  | giveBack name => exact (congrArg Prod.snd (giveBack_forget policy name holdings)).symm
  | giveBackAll =>
      have named : holdings.held.names = holdings.forget.held.names :=
        (Table.names_map _ _).symm
      simp only [Action.registered, performAll_cons, performAll_nil, perform,
        giveBackNamed_forget, named]
  | shrink =>
      simp only [Action.registered, performAll_cons, performAll_nil, perform, forget,
        shrink_registered]

/-- Whatever its policy does and whatever its holders do, the history of a pool is that of its
numbered items with the numbers taken away. -/
theorem trace_forget (policy : Policy σ α) (outside : σ) (actions : List (Action α)) :
    (trace policy outside actions).forget = performAll policy actions { outside } := by
  have every : ∀ holdings : Holdings (Register σ) (Instance α),
      (performAll policy.registered (actions.flatMap Action.registered) holdings).forget =
        performAll policy actions holdings.forget := by
    induction actions with
    | nil => exact fun _ => rfl
    | cons action rest ih =>
        intro holdings
        rw [List.flatMap_cons, performAll_append, ih, registered_forget, performAll_cons]
  exact every _

end Holdings

end Pool

end FramedTransport
