import FramedTransport.Proofs.Instances
import FramedTransport.Proofs.Holders

/-!
What becomes of the items of a pool.
Every item that was ever made waits in the pool, or is with one holder, or has
been destroyed for good, and the counts of the pool say how many are where. An
item that is handed out is new, or has been cleaned since its last holder left
it and not been touched in between. Clones of a pool share all that it has, so
what is done through any of them is one history.
-/

namespace FramedTransport

namespace Table

variable {α : Type}

theorem find?_isSome {table : Table α} {name : String} (named : name ∈ table.names) :
    (table.find? name).isSome := by
  simpa [find?, names] using named

theorem nodup_names {table : Table α} (distinct : table.Distinct) : table.names.Nodup :=
  (List.mergeSort_perm _ _).nodup_iff.2 distinct

theorem length_names (table : Table α) : table.names.length = table.size := by
  simp [names, size]

end Table

namespace Pool

variable {σ α : Type}

/-- An item has just been made, or has been cleaned and not been touched since. -/
def Instance.AsNew (policy : Policy σ α) (item : Instance α) : Prop :=
  (item.touch = .made ∧ ∃ outside, item.value = (policy.create outside).1) ∨
    (item.touch = .cleaned ∧ ∃ left outside, item.value = (policy.reset left outside).1)

/-- Every number is in one place only: idle, out of the pool, or gone, where all that are `past`
stay for good. -/
structure Numbered (policy : Policy σ α) (past out : List Nat) (pool : Pool (Instance α))
    (register : Register σ) : Prop where
  once : (pool.idle.map (·.serial) ++ (out ++ register.gone)).Perm (List.range register.made)
  lasting : past <+: register.gone
  made : register.made = pool.created
  gone : register.gone.length = pool.destroyed
  room : pool.idle.length ≤ policy.maxIdle
  clean : ∀ item ∈ pool.idle,
    item.touch = .cleaned ∧ ∃ left outside, item.value = (policy.reset left outside).1

variable {policy : Policy σ α} {past out : List Nat} {pool : Pool (Instance α)}
  {register : Register σ} {item : Instance α}

theorem Numbered.recount {outToo : List Nat} (numbered : Numbered policy past out pool register)
    (same : outToo.Perm out) : Numbered policy past outToo pool register :=
  { numbered with once := ((same.append_right _).append_left _).trans numbered.once }

theorem Numbered.rent (numbered : Numbered policy past out pool register) :
    Numbered policy past ((pool.rent policy.registered register).1.serial :: out)
      (pool.rent policy.registered register).2.1 (pool.rent policy.registered register).2.2 := by
  obtain ⟨once, lasting, made, gone, room, clean⟩ := numbered
  obtain ⟨idle, created, reused, returned, destroyed⟩ := pool
  cases idle with
  | nil =>
      refine ⟨?_, lasting, congrArg (· + 1) made, gone, Nat.zero_le _, clean⟩
      have last : (register.made :: (out ++ register.gone)).Perm
          (List.range register.made ++ [register.made]) :=
        (once.cons register.made).trans (List.perm_append_singleton _ _).symm
      rwa [← List.range_succ] at last
  | cons item rest =>
      exact ⟨List.perm_middle.trans once, lasting, made, gone, Nat.le_of_succ_le room,
        fun other waits => clean other (List.mem_cons_of_mem item waits)⟩

/-- What is handed out has been made for it, or has waited since it was cleaned. -/
theorem Numbered.asNew (numbered : Numbered policy past out pool register) :
    (pool.rent policy.registered register).1.AsNew policy := by
  obtain ⟨idle, created, reused, returned, destroyed⟩ := pool
  cases idle with
  | nil => exact Or.inl ⟨rfl, register.outside, rfl⟩
  | cons item rest => exact Or.inr (numbered.clean item List.mem_cons_self)

theorem Numbered.discard (numbered : Numbered policy past (item.serial :: out) pool register) :
    Numbered policy past out (discard policy.registered item pool register).1
      (discard policy.registered item pool register).2 where
  once := by
    refine List.Perm.trans (List.Perm.append_left _ ?_) numbered.once
    rw [show (Pool.discard policy.registered item pool register).2.gone =
      register.gone ++ [item.serial] from rfl, ← List.append_assoc]
    exact List.perm_append_singleton _ _
  lasting := numbered.lasting.trans (List.prefix_append _ _)
  made := numbered.made
  gone := by
    rw [show (Pool.discard policy.registered item pool register).2.gone =
      register.gone ++ [item.serial] from rfl, List.length_append, numbered.gone]
    rfl
  room := numbered.room
  clean := numbered.clean

theorem Numbered.giveBack (numbered : Numbered policy past (item.serial :: out) pool register) :
    Numbered policy past out (pool.giveBack policy.registered item register).1
      (pool.giveBack policy.registered item register).2 := by
  have counted (outside : σ) : Numbered policy past (item.serial :: out)
      { pool with returned := pool.returned + 1 } { register with outside } := { numbered with }
  unfold Pool.giveBack
  simp only [Policy.accepts_registered, Policy.reset_registered]
  rcases policy.accepts item.value register.outside with ⟨_ | _, outside⟩
  · exact (counted outside).discard
  · dsimp only
    split
    · rename_i room
      refine { counted (policy.reset item.value outside).2 with
        once := ?_, room := room, clean := ?_ }
      · exact List.perm_middle.symm.trans numbered.once
      · intro other waits
        rcases List.mem_cons.1 waits with rfl | before
        · exact ⟨rfl, item.value, outside, rfl⟩
        · exact numbered.clean other before
    · exact Numbered.discard (counted (policy.reset item.value outside).2)

theorem Numbered.discardAll {items : List (Instance α)}
    (numbered : Numbered policy past (items.map (·.serial) ++ out) pool register) :
    Numbered policy past out (discardAll policy.registered items pool register).1
      (discardAll policy.registered items pool register).2 := by
  induction items generalizing pool register with
  | nil => exact numbered
  | cons item rest ih => exact ih numbered.discard

theorem Numbered.shrink (numbered : Numbered policy past out pool register) :
    Numbered policy past out (pool.shrink policy.registered register).2.1
      (pool.shrink policy.registered register).2.2 := by
  have drained : Numbered policy past (pool.idle.reverse.map (·.serial) ++ out)
      { pool with idle := [] } register := by
    refine { numbered with once := ?_, room := Nat.zero_le _, clean := by simp }
    rw [List.map_reverse, List.append_assoc]
    exact ((List.reverse_perm _).append_right _).trans numbered.once
  exact drained.discardAll

namespace Holdings

def serials (held : Table (Instance α)) : List Nat :=
  held.entries.map fun entry => entry.2.serial

theorem serials_erase {held : Table (Instance α)} (distinct : held.Distinct) {name : String}
    {item : Instance α} (found : held.find? name = some item) :
    (serials held).Perm (item.serial :: serials (held.erase name)) ∧
      held.size = (held.erase name).size + 1 :=
  have apart := Table.perm_erase distinct found
  ⟨apart.map fun entry : String × Instance α => entry.2.serial, apart.length_eq⟩

/-- All that is out of the pool is held under a name of its own, but for what is in hand at the
moment. -/
structure Numbered (policy : Policy σ α) (past inHand : List Nat)
    (holdings : Holdings (Register σ) (Instance α)) : Prop where
  numbered : Pool.Numbered policy past (inHand ++ serials holdings.held) holdings.pool
    holdings.outside
  distinct : holdings.held.Distinct
  lent : holdings.pool.rented =
    holdings.pool.returned + (inHand.length + holdings.held.size)

variable {inHand : List Nat} {holdings : Holdings (Register σ) (Instance α)}

theorem Numbered.giveBack (numbered : Numbered policy past inHand holdings) (name : String) :
    Numbered policy past inHand (giveBack policy.registered name holdings).2 := by
  unfold Holdings.giveBack
  split
  · exact numbered
  · rename_i item found
    obtain ⟨apart, shorter⟩ := serials_erase numbered.distinct found
    have counted := Pool.rented_giveBack policy.registered item holdings.pool holdings.outside
    have lent := numbered.lent
    constructor
    · refine Pool.Numbered.giveBack (numbered.numbered.recount ?_)
      exact List.perm_middle.symm.trans (apart.symm.append_left inHand)
    · exact Table.distinct_erase numbered.distinct name
    · dsimp only
      omega

theorem find?_giveBack (policy : Policy σ α) (name : String) (holdings : Holdings σ α) :
    (Holdings.giveBack policy name holdings).2.held.find? name = none := by
  unfold Holdings.giveBack
  split
  · assumption
  · exact Table.find?_erase holdings.held name

theorem Numbered.insert {item : Instance α} {name : String}
    (numbered : Numbered policy past (item.serial :: inHand) holdings)
    (free : holdings.held.find? name = none) :
    Numbered policy past inHand { holdings with held := holdings.held.insert name item } := by
  have entries : (holdings.held.insert name item).entries =
      (name, item) :: holdings.held.entries := by
    rw [Table.insert, Table.erase_of_none free]
  have lent := numbered.lent
  constructor
  · refine numbered.numbered.recount ?_
    simp only [serials, entries, List.map_cons]
    exact List.perm_middle
  · exact Table.distinct_insert numbered.distinct name item
  · simp only [Table.size, entries, List.length_cons] at lent ⊢
    omega

theorem Numbered.rent (numbered : Numbered policy past inHand holdings) (name : String) :
    Numbered policy past inHand (rent policy.registered name holdings).2 := by
  obtain ⟨more, same⟩ := Pool.rented_rent policy.registered holdings.pool holdings.outside
  have taken : Numbered policy past
      ((holdings.pool.rent policy.registered holdings.outside).1.serial :: inHand)
      { outside := (holdings.pool.rent policy.registered holdings.outside).2.2
        pool := (holdings.pool.rent policy.registered holdings.outside).2.1
        held := holdings.held } :=
    { numbered := numbered.numbered.rent
      distinct := numbered.distinct
      lent := by
        have lent := numbered.lent
        rw [more, same, List.length_cons]
        dsimp only
        omega }
  exact Numbered.insert (taken.giveBack name) (find?_giveBack policy.registered name _)

theorem Numbered.change (numbered : Numbered policy past inHand holdings) (name : String)
    (edit : α → α) :
    Numbered policy past inHand
      (perform policy.registered (.change name (.hold edit)) holdings).2 := by
  unfold perform
  dsimp only
  split
  · rename_i present
    obtain ⟨item, found⟩ := Option.isSome_iff_exists.1 present
    obtain ⟨apart, shorter⟩ := serials_erase numbered.distinct found
    simp only [Table.change, found]
    constructor
    · exact numbered.numbered.recount (apart.symm.append_left inHand)
    · exact Table.distinct_insert numbered.distinct name _
    · rw [show (holdings.held.insert name (item.hold edit)).size =
        (holdings.held.erase name).size + 1 from rfl, ← shorter]
      exact numbered.lent
  · exact numbered

theorem Numbered.rentAll (numbered : Numbered policy past [] holdings) (names : List String) :
    Numbered policy past []
      (performAll policy.registered (names.flatMap Action.taking) holdings) := by
  induction names generalizing holdings with
  | nil => exact numbered
  | cons name rest ih => exact ih ((numbered.rent name).change name id)

theorem Numbered.giveBackNamed (numbered : Numbered policy past [] holdings)
    (names : List String) :
    Numbered policy past [] (giveBackNamed policy.registered names holdings) := by
  induction names generalizing holdings with
  | nil => exact numbered
  | cons name rest ih => exact ih (numbered.giveBack name)

theorem Numbered.registered (numbered : Numbered policy past [] holdings) (action : Action α) :
    Numbered policy past [] (performAll policy.registered action.registered holdings) := by
  cases action with
  | rent name => exact (numbered.rent name).change name id
  | rentMany name count => exact numbered.rentAll _
  | change name edit => exact numbered.change name edit
  | look name =>
      simp only [Action.registered, performAll_cons, performAll_nil, perform]
      split <;> exact numbered
  | giveBack name => exact numbered.giveBack name
  | giveBackAll => exact numbered.giveBackNamed _
  | shrink =>
      have counted := Pool.rented_discardAll policy.registered holdings.pool.idle.reverse
        { holdings.pool with idle := [] } holdings.outside
      exact
        { numbered := numbered.numbered.shrink
          distinct := numbered.distinct
          lent := counted.1.trans (numbered.lent.trans
            (congrArg (· + ([].length + holdings.held.size)) counted.2.1.symm)) }

theorem numbered_new (policy : Policy σ α) (outside : σ) :
    Numbered policy [] [] { outside := { outside } } where
  numbered :=
    { once := List.Perm.refl []
      lasting := List.prefix_refl []
      made := rfl
      gone := rfl
      room := Nat.zero_le _
      clean := by simp }
  distinct := List.nodup_nil
  lent := rfl

theorem Numbered.performAll (numbered : Numbered policy past [] holdings)
    (actions : List (Action α)) :
    Numbered policy past []
      (performAll policy.registered (actions.flatMap Action.registered) holdings) := by
  induction actions generalizing holdings with
  | nil => exact numbered
  | cons action rest ih =>
      rw [List.flatMap_cons, performAll_append]
      exact ih (numbered.registered action)

/-- From any moment on, what has been destroyed stays destroyed. -/
theorem Numbered.remember (numbered : Numbered policy past inHand holdings) :
    Numbered policy holdings.outside.gone inHand holdings :=
  { numbered with numbered := { numbered.numbered with lasting := List.prefix_refl _ } }

/-! ### What the counts count -/

def rents : Action α → Nat
  | .rent _ => 1
  | .rentMany _ count => count
  | .change .. | .look _ | .giveBack _ | .giveBackAll | .shrink => 0

/-- How many of the names were in use as they were rented under. -/
def replaced (policy : Policy σ α) : List String → Holdings σ α → Nat
  | [], _ => 0
  | name :: rest, holdings =>
      holdings.held.weightAt (fun _ => 1) name +
        replaced policy rest (Holdings.rent policy name holdings).2

def ends (policy : Policy σ α) (holdings : Holdings σ α) : Action α → Nat
  | .rent name | .giveBack name => holdings.held.weightAt (fun _ => 1) name
  | .rentMany name count => replaced policy ((List.range count).map (numbered name)) holdings
  | .giveBackAll => holdings.held.size
  | .change .. | .look _ | .shrink => 0

def endsAll (policy : Policy σ α) : List (Action α) → Holdings σ α → Nat
  | [], _ => 0
  | action :: rest, holdings =>
      ends policy holdings action + endsAll policy rest (perform policy action holdings).2

/-- So many leases have begun and so many have ended from one state of a pool to another. -/
structure Counts (before after : Pool α) (begun ended : Nat) : Prop where
  begun : after.rented = before.rented + begun
  ended : after.returned = before.returned + ended

theorem Counts.trans {first second third : Pool α} {begun ended more moreToo : Nat}
    (counts : Counts first second begun ended) (further : Counts second third more moreToo) :
    Counts first third (begun + more) (ended + moreToo) where
  begun := by rw [further.begun, counts.begun, Nat.add_assoc]
  ended := by rw [further.ended, counts.ended, Nat.add_assoc]

section Plain

variable (policy : Policy σ α) (holdings : Holdings σ α)

theorem counts_giveBack (name : String) :
    Counts holdings.pool (Holdings.giveBack policy name holdings).2.pool 0
      (holdings.held.weightAt (fun _ => 1) name) := by
  unfold Holdings.giveBack Table.weightAt
  cases holdings.held.find? name with
  | none => exact ⟨rfl, rfl⟩
  | some item =>
      obtain ⟨same, more⟩ := Pool.rented_giveBack policy item holdings.pool holdings.outside
      exact ⟨same, more⟩

theorem counts_rent (name : String) :
    Counts holdings.pool (Holdings.rent policy name holdings).2.pool 1
      (holdings.held.weightAt (fun _ => 1) name) := by
  obtain ⟨more, same⟩ := Pool.rented_rent policy holdings.pool holdings.outside
  have taken : Counts holdings.pool (holdings.pool.rent policy holdings.outside).2.1 1 0 :=
    ⟨more, same⟩
  have returned := taken.trans (counts_giveBack policy
    { outside := (holdings.pool.rent policy holdings.outside).2.2
      pool := (holdings.pool.rent policy holdings.outside).2.1
      held := holdings.held } name)
  rwa [Nat.zero_add] at returned

theorem counts_rentAll (names : List String) :
    Counts holdings.pool (rentAll policy names holdings).pool names.length
      (replaced policy names holdings) := by
  induction names generalizing holdings with
  | nil => exact ⟨rfl, rfl⟩
  | cons name rest ih =>
      have both := (counts_rent policy holdings name).trans
        (ih (Holdings.rent policy name holdings).2)
      rwa [Nat.add_comm 1] at both

theorem counts_giveBackNamed {names : List String} (distinct : names.Nodup)
    (present : ∀ name ∈ names, (holdings.held.find? name).isSome) :
    Counts holdings.pool (giveBackNamed policy names holdings).pool 0 names.length := by
  induction names generalizing holdings with
  | nil => exact ⟨rfl, rfl⟩
  | cons name rest ih =>
      obtain ⟨fresh, distinct⟩ := List.nodup_cons.1 distinct
      obtain ⟨item, found⟩ := Option.isSome_iff_exists.1 (present name List.mem_cons_self)
      have first := counts_giveBack policy holdings name
      simp only [Table.weightAt, found] at first
      -- What is given back first leaves the other names in use.
      have others : ∀ other ∈ rest,
          ((Holdings.giveBack policy name holdings).2.held.find? other).isSome := by
        intro other member
        have differ : other ≠ name := fun equal => fresh (equal ▸ member)
        simp only [Holdings.giveBack, found, Table.find?_erase_of_ne _ differ]
        exact present other (List.mem_cons_of_mem name member)
      have both := first.trans (ih (Holdings.giveBack policy name holdings).2 distinct others)
      rwa [Nat.add_comm 1] at both

theorem distinct_giveBack (name : String) (distinct : holdings.held.Distinct) :
    (Holdings.giveBack policy name holdings).2.held.Distinct := by
  unfold Holdings.giveBack
  split
  · exact distinct
  · exact Table.distinct_erase distinct name

theorem distinct_perform (action : Action α) (distinct : holdings.held.Distinct) :
    (perform policy action holdings).2.held.Distinct := by
  have rented : ∀ name (holdings : Holdings σ α), holdings.held.Distinct →
      (Holdings.rent policy name holdings).2.held.Distinct :=
    fun name holdings distinct => Table.distinct_insert
      (distinct_giveBack policy { holdings with
        pool := (holdings.pool.rent policy holdings.outside).2.1
        outside := (holdings.pool.rent policy holdings.outside).2.2 } name distinct) name _
  cases action with
  | rent name => exact rented name holdings distinct
  | rentMany name count =>
      exact List.foldlRecOn (motive := fun holdings : Holdings σ α => holdings.held.Distinct) _ _
        distinct fun holdings distinct name _ => rented name holdings distinct
  | change name edit =>
      unfold perform
      dsimp only
      split
      · exact Table.distinct_change distinct name edit
      · exact distinct
  | look name =>
      unfold perform
      dsimp only
      split <;> exact distinct
  | giveBack name => exact distinct_giveBack policy holdings name distinct
  | giveBackAll =>
      exact List.foldlRecOn (motive := fun holdings : Holdings σ α => holdings.held.Distinct) _ _
        distinct fun holdings distinct name _ => distinct_giveBack policy holdings name distinct
  | shrink => exact distinct

theorem counts_perform (action : Action α) (distinct : holdings.held.Distinct) :
    Counts holdings.pool (perform policy action holdings).2.pool (rents action)
      (ends policy holdings action) := by
  cases action with
  | rent name => exact counts_rent policy holdings name
  | rentMany name count =>
      have all := counts_rentAll policy holdings ((List.range count).map (numbered name))
      rwa [List.length_map, List.length_range] at all
  | change name edit =>
      unfold perform
      dsimp only
      split <;> exact ⟨rfl, rfl⟩
  | look name =>
      unfold perform
      dsimp only
      split <;> exact ⟨rfl, rfl⟩
  | giveBack name => exact counts_giveBack policy holdings name
  | giveBackAll =>
      have all := counts_giveBackNamed policy holdings (Table.nodup_names distinct)
        fun name => Table.find?_isSome
      rwa [Table.length_names] at all
  | shrink =>
      obtain ⟨same, sameToo, -⟩ := Pool.rented_discardAll policy holdings.pool.idle.reverse
        { holdings.pool with idle := [] } holdings.outside
      exact ⟨same, sameToo⟩

theorem counts_performAll (actions : List (Action α)) (distinct : holdings.held.Distinct) :
    Counts holdings.pool (performAll policy actions holdings).pool (actions.map rents).sum
      (endsAll policy actions holdings) := by
  induction actions generalizing holdings with
  | nil => exact ⟨rfl, rfl⟩
  | cons action rest ih =>
      exact (counts_perform policy holdings action distinct).trans
        (ih _ (distinct_perform policy holdings action distinct))

end Plain

/-- What a pool keeps, with so many leases begun and so many ended. Its counts are those of the
plain pool, which has no numbers. -/
structure Conserved (policy : Policy σ α) (holdings : Holdings (Register σ) (Instance α))
    (begun ended : Nat) : Prop where
  /-- Every item that was made is idle, or with one holder, or gone. -/
  once : (holdings.pool.idle.map (·.serial) ++
      (serials holdings.held ++ holdings.outside.gone)).Perm
    (List.range holdings.forget.pool.stats.created)
  distinct : holdings.held.Distinct
  /-- An item that is handed out next is new, or clean and untouched since its last holder. -/
  asNew : ∀ name, (rent policy.registered name holdings).1.AsNew policy ∧
    (rent policy name holdings.forget).1 = (rent policy.registered name holdings).1.value
  balance : holdings.forget.pool.stats.created =
    holdings.forget.pool.stats.idle + holdings.forget.pool.stats.outstanding +
      holdings.forget.pool.stats.destroyed
  lendings : holdings.forget.pool.stats.created + holdings.forget.pool.stats.reused = begun
  returns : holdings.forget.pool.stats.returned = ended
  /-- Never has more come back than was rented. -/
  lent : holdings.forget.pool.stats.outstanding + ended = begun
  held : holdings.forget.pool.stats.outstanding = holdings.forget.held.size
  room : holdings.forget.pool.stats.idle ≤ policy.maxIdle

theorem Numbered.conserved {begun ended : Nat} (numbered : Numbered policy past [] holdings)
    (counts : Counts {} holdings.forget.pool begun ended) :
    Conserved policy holdings begun ended := by
  obtain ⟨⟨once, -, made, gone, room, -⟩, distinct, lent⟩ := id numbered
  have places := once.length_eq
  have rented := counts.begun
  have returned := counts.ended
  simp only [List.nil_append, List.length_append, List.length_map, serials, List.length_range]
    at places
  simp only [List.length_nil, Table.size] at lent
  simp only [Pool.rented, forget, Pool.map] at rented returned lent
  have waiting : holdings.forget.pool.stats.idle = holdings.pool.idle.length := List.length_map _
  have out : holdings.forget.pool.stats.outstanding =
    holdings.pool.created + holdings.pool.reused - holdings.pool.returned := rfl
  constructor
  · rw [show holdings.forget.pool.stats.created = holdings.pool.created from rfl, ← made]
    exact once
  · exact distinct
  · exact fun name =>
      ⟨numbered.numbered.asNew, congrArg Prod.fst (rent_forget policy name holdings)⟩
  · rw [waiting, out]
    simp only [forget, Pool.map, Pool.stats]
    omega
  · exact rented.trans (Nat.zero_add _)
  · exact returned.trans (Nat.zero_add _)
  · omega
  · rw [out, forget, Table.size_map, Table.size]
    omega
  · exact Nat.le_trans (Nat.le_of_eq waiting) room

/-- Whatever the policy of a pool does and whatever is done to the pool and to what it lends, no
item is lost, lent twice or brought back, and none is lent as its last holder left it. -/
theorem conserves (policy : Policy σ α) (outside : σ) (actions : List (Action α)) :
    (trace policy outside actions).forget = performAll policy actions { outside } ∧
      Conserved policy (trace policy outside actions) (actions.map rents).sum
        (endsAll policy actions { outside }) ∧
      ∀ more, (trace policy outside actions).outside.gone <+:
        (trace policy outside (actions ++ more)).outside.gone := by
  have told := trace_forget policy outside actions
  have numbered := (numbered_new policy outside).performAll actions
  have counts := counts_performAll policy { outside } actions List.nodup_nil
  rw [← told] at counts
  refine ⟨told, numbered.conserved counts, fun more => ?_⟩
  rw [trace_append]
  exact (numbered.remember.performAll more).numbered.lasting

end Holdings

end Pool

end FramedTransport
