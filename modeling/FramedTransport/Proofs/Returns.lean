import FramedTransport.Pool.Audit
import FramedTransport.Proofs.Accounts
import FramedTransport.Proofs.Instances

/-!
What a pool has its policy do.
Whatever a policy does, it can be watched: a diary takes down every item that is made,
judged, cleaned or destroyed, as it is at that time, and the pool does not notice. What
is taken down of a history is what is taken down of its passages one by one. An item
that comes back is judged as its holder has left it. An accepted one is cleaned even if
the pool is full, and what is destroyed then is not what its holder has left.
-/

namespace FramedTransport

namespace Pool

variable {σ α : Type}

/-- What a policy does, with the item as the policy sees it. -/
inductive Deed (α : Type) where
  | create (item : α)
  | check (item : α)
  | reset (item : α)
  | destroy (item : α)
deriving DecidableEq, Repr

/-- What lies outside of a pool, with all that its policy has done so far. -/
structure Diary (σ α : Type) where
  outside : σ
  deeds : List (Deed α) := []

def Diary.enter (diary : Diary σ α) (outside : σ) (deed : Deed α) : Diary σ α :=
  { outside, deeds := diary.deeds ++ [deed] }

/-- The policy that does the same and takes it down. -/
def Policy.watched (policy : Policy σ α) : Policy (Diary σ α) α where
  create diary :=
    let (item, outside) := policy.create diary.outside
    (item, diary.enter outside (.create item))
  accepts item diary :=
    let (accepted, outside) := policy.accepts item diary.outside
    (accepted, diary.enter outside (.check item))
  reset item diary :=
    let (cleaned, outside) := policy.reset item diary.outside
    (cleaned, diary.enter outside (.reset item))
  destroy item diary := diary.enter (policy.destroy item diary.outside) (.destroy item)
  maxIdle := policy.maxIdle

section GiveBack

variable (policy : Policy σ α) (item : α) (pool : Pool α) (outside : σ)

theorem giveBack_rejected (rejected : (policy.accepts item outside).1 = false) :
    pool.giveBack policy item outside =
      ({ pool with returned := pool.returned + 1, destroyed := pool.destroyed + 1 },
        policy.destroy item (policy.accepts item outside).2) := by
  unfold giveBack
  cases judged : policy.accepts item outside with
  | mk verdict state =>
      obtain rfl : verdict = false := by simpa [judged] using rejected
      rfl

theorem giveBack_of_room (accepted : (policy.accepts item outside).1 = true)
    (room : pool.idle.length < policy.maxIdle) :
    pool.giveBack policy item outside =
      let cleaned := policy.reset item (policy.accepts item outside).2
      ({ pool with idle := cleaned.1 :: pool.idle, returned := pool.returned + 1 }, cleaned.2) := by
  unfold giveBack
  cases judged : policy.accepts item outside with
  | mk verdict state =>
      obtain rfl : verdict = true := by simpa [judged] using accepted
      simp only [room, if_true]

theorem giveBack_of_full (accepted : (policy.accepts item outside).1 = true)
    (full : ¬ pool.idle.length < policy.maxIdle) :
    pool.giveBack policy item outside =
      let cleaned := policy.reset item (policy.accepts item outside).2
      ({ pool with returned := pool.returned + 1, destroyed := pool.destroyed + 1 },
        policy.destroy cleaned.1 cleaned.2) := by
  unfold giveBack
  cases judged : policy.accepts item outside with
  | mk verdict state =>
      obtain rfl : verdict = true := by simpa [judged] using accepted
      simp only [full, if_false]
      rfl

theorem giveBack_watched (deeds : List (Deed α)) :
    pool.giveBack policy.watched item { outside, deeds } =
      ((pool.giveBack policy item outside).1,
        { outside := (pool.giveBack policy item outside).2
          deeds := deeds ++ (pool.giveBack policy.watched item { outside }).2.deeds }) := by
  cases accepted : (policy.accepts item outside).1 with
  | false =>
      rw [giveBack_rejected policy.watched item pool { outside, deeds } accepted,
        giveBack_rejected policy.watched item pool { outside } accepted,
        giveBack_rejected policy item pool outside accepted]
      simp [Policy.watched, Diary.enter]
  | true =>
      by_cases room : pool.idle.length < policy.maxIdle
      · rw [giveBack_of_room policy.watched item pool { outside, deeds } accepted room,
          giveBack_of_room policy.watched item pool { outside } accepted room,
          giveBack_of_room policy item pool outside accepted room]
        simp [Policy.watched, Diary.enter]
      · rw [giveBack_of_full policy.watched item pool { outside, deeds } accepted room,
          giveBack_of_full policy.watched item pool { outside } accepted room,
          giveBack_of_full policy item pool outside accepted room]
        simp [Policy.watched, Diary.enter]

end GiveBack

theorem rent_watched (policy : Policy σ α) (pool : Pool α) (outside : σ) (deeds : List (Deed α)) :
    pool.rent policy.watched { outside, deeds } =
      ((pool.rent policy outside).1, (pool.rent policy outside).2.1,
        { outside := (pool.rent policy outside).2.2
          deeds := deeds ++
            if pool.idle.isEmpty then [.create (pool.rent policy outside).1] else [] }) := by
  unfold rent
  cases pool.idle with
  | nil => rfl
  | cons item rest => simp

theorem discardAll_watched (policy : Policy σ α) (items : List α) (pool : Pool α) (outside : σ)
    (deeds : List (Deed α)) :
    discardAll policy.watched items pool { outside, deeds } =
      ((discardAll policy items pool outside).1,
        { outside := (discardAll policy items pool outside).2
          deeds := deeds ++ items.map .destroy }) := by
  induction items generalizing pool outside deeds with
  | nil => simp [discardAll]
  | cons item rest ih =>
      have first := ih (discard policy item pool outside).1 (discard policy item pool outside).2
        (deeds ++ [.destroy item])
      rw [List.append_assoc] at first
      exact first

namespace Holdings

def watched (deeds : List (Deed α)) (holdings : Holdings σ α) : Holdings (Diary σ α) α where
  outside := { outside := holdings.outside, deeds }
  pool := holdings.pool
  held := holdings.held

end Holdings

/-! ### One return -/

structure Return (σ α : Type) where
  holdings : Holdings σ α
  name : String
  item : α
  held : holdings.held.find? name = some item

namespace Return

variable (policy : Policy σ α) (back : Return σ α)

def diary : Diary σ α := { outside := back.holdings.outside }

def after : Holdings σ α := (Holdings.giveBack policy back.name back.holdings).2

def deeds : List (Deed α) :=
  (Holdings.giveBack policy.watched back.name (back.holdings.watched [])).2.outside.deeds

def Accepted : Prop := (policy.accepts back.item back.holdings.outside).1 = true

def Room : Prop := back.holdings.pool.idle.length < policy.maxIdle

def cleaned : α := (policy.reset back.item (policy.accepts back.item back.holdings.outside).2).1

/-- The item has been judged and cleaned, each once and as it was left, and waits. -/
structure Kept : Prop where
  deeds : back.deeds policy = [.check back.item, .reset back.item]
  idle : (back.after policy).pool.idle = back.cleaned policy :: back.holdings.pool.idle
  destroyed : (back.after policy).pool.destroyed = back.holdings.pool.destroyed

/-- The item has been judged as it was left, and it does not wait: after something more it has been
destroyed once, as it was by then. -/
structure Discarded (more : List (Deed α)) (last : α) : Prop where
  deeds : back.deeds policy = .check back.item :: (more ++ [.destroy last])
  idle : (back.after policy).pool.idle = back.holdings.pool.idle
  destroyed : (back.after policy).pool.destroyed = back.holdings.pool.destroyed + 1

variable {policy} {back}

theorem after_eq :
    back.after policy =
      { outside := (back.holdings.pool.giveBack policy back.item back.holdings.outside).2
        pool := (back.holdings.pool.giveBack policy back.item back.holdings.outside).1
        held := back.holdings.held.erase back.name } := by
  simp only [after, Holdings.giveBack, back.held]

theorem deeds_eq :
    back.deeds policy =
      (back.holdings.pool.giveBack policy.watched back.item back.diary).2.deeds := by
  simp only [deeds, Holdings.giveBack, Holdings.watched, back.held, diary]

theorem discarded_of_rejected (rejected : ¬ back.Accepted policy) :
    back.Discarded policy [] back.item := by
  have judged : (policy.accepts back.item back.holdings.outside).1 = false := by
    simpa [Accepted] using rejected
  constructor
  · rw [deeds_eq, giveBack_rejected policy.watched _ _ back.diary judged]
    rfl
  · rw [after_eq, giveBack_rejected policy _ _ _ judged]
  · rw [after_eq, giveBack_rejected policy _ _ _ judged]

theorem kept_of_room (accepted : back.Accepted policy) (room : back.Room policy) :
    back.Kept policy := by
  constructor
  · rw [deeds_eq, giveBack_of_room policy.watched _ _ back.diary accepted room]
    rfl
  · rw [after_eq, giveBack_of_room policy _ _ _ accepted room]
    rfl
  · rw [after_eq, giveBack_of_room policy _ _ _ accepted room]

theorem discarded_of_full (accepted : back.Accepted policy) (full : ¬ back.Room policy) :
    back.Discarded policy [.reset back.item] (back.cleaned policy) := by
  constructor
  · rw [deeds_eq, giveBack_of_full policy.watched _ _ back.diary accepted full]
    rfl
  · rw [after_eq, giveBack_of_full policy _ _ _ accepted full]
  · rw [after_eq, giveBack_of_full policy _ _ _ accepted full]

variable (policy) (back)

/-- The rule: what is accepted and has room is cleaned and kept, and anything else is destroyed as
it was left. -/
def Orderly : Prop :=
  (back.Accepted policy ∧ back.Room policy → back.Kept policy) ∧
    (¬ (back.Accepted policy ∧ back.Room policy) → back.Discarded policy [] back.item)

/-- Returns to a full pool break the rule, and no others do. -/
theorem orderly_iff : back.Orderly policy ↔ (back.Accepted policy → back.Room policy) := by
  constructor
  · intro orderly accepted
    by_cases room : back.Room policy
    · exact room
    · -- The rule allows no cleaning here.
      have ruled := (orderly.2 fun both => room both.2).deeds
      rw [(discarded_of_full accepted room).deeds] at ruled
      simp at ruled
  · intro roomy
    constructor
    · rintro ⟨accepted, room⟩
      exact kept_of_room accepted room
    · intro other
      apply discarded_of_rejected
      intro accepted
      exact other ⟨accepted, roomy accepted⟩

end Return

/-! ### A whole history -/

/-- What happens between a pool and its policy: an item is made, comes back, or is thrown away
while it waits. -/
inductive Passage (σ α : Type) where
  | made (item : α)
  | returned (back : Return σ α)
  | dismissed (item : α)

namespace Passage

def deeds (policy : Policy σ α) : Passage σ α → List (Deed α)
  | .made item => [.create item]
  | .returned back => back.deeds policy
  | .dismissed item => [.destroy item]

def return? : Passage σ α → Option (Return σ α)
  | .returned back => some back
  | .made _ | .dismissed _ => none

def deedsOf (policy : Policy σ α) (passages : List (Passage σ α)) : List (Deed α) :=
  passages.flatMap (deeds policy)

theorem deedsOf_dismissed (policy : Policy σ α) (items : List α) :
    deedsOf policy (items.map .dismissed) = items.map .destroy := by
  induction items with
  | nil => rfl
  | cons item rest ih => exact congrArg (.destroy item :: ·) ih

def returnsOf (passages : List (Passage σ α)) : List (Return σ α) := passages.filterMap return?

theorem returnsOf_dismissed (items : List α) :
    returnsOf (σ := σ) (items.map .dismissed) = [] := by
  induction items with
  | nil => rfl
  | cons item rest ih => exact ih

end Passage

open Passage

namespace Holdings

def ending (name : String) (holdings : Holdings σ α) : List (Passage σ α) :=
  match held : holdings.held.find? name with
  | none => []
  | some item => [.returned { holdings, name, item, held }]

/-- The passages of one lease that begins, under a name that may be in use. -/
def beginning (policy : Policy σ α) (name : String) (holdings : Holdings σ α) :
    List (Passage σ α) :=
  let (item, pool, outside) := holdings.pool.rent policy holdings.outside
  (if holdings.pool.idle.isEmpty then [.made item] else []) ++
    ending name { holdings with pool, outside }

/-- The passages of several steps, each of which has those of its own. -/
def passing {γ β : Type} (passages : γ → Holdings σ α → List (Passage σ α))
    (step : γ → Holdings σ α → β × Holdings σ α) : List γ → Holdings σ α → List (Passage σ α)
  | [], _ => []
  | one :: rest, holdings =>
      passages one holdings ++ passing passages step rest (step one holdings).2

def passages (policy : Policy σ α) (action : Action α) (holdings : Holdings σ α) :
    List (Passage σ α) :=
  match action with
  | .rent name => beginning policy name holdings
  | .rentMany name count =>
      passing (beginning policy) (rent policy) ((List.range count).map (numbered name)) holdings
  | .change .. | .look _ => []
  | .giveBack name => ending name holdings
  | .giveBackAll => passing ending (giveBack policy) holdings.held.names holdings
  | .shrink => holdings.pool.idle.reverse.map .dismissed

def history (policy : Policy σ α) (actions : List (Action α)) (holdings : Holdings σ α) :
    List (Passage σ α) :=
  passing (passages policy) (perform policy) actions holdings

theorem giveBack_watched (policy : Policy σ α) (name : String) (deeds : List (Deed α))
    (holdings : Holdings σ α) :
    giveBack policy.watched name (holdings.watched deeds) =
      ((giveBack policy name holdings).1,
        (giveBack policy name holdings).2.watched
          (deeds ++ deedsOf policy (ending name holdings))) := by
  unfold ending
  split
  · rename_i missing
    simp [giveBack, watched, missing, deedsOf]
  · rename_i item held
    have law := Pool.giveBack_watched policy item holdings.pool holdings.outside deeds
    simp only [giveBack, watched, held, deedsOf, List.flatMap_cons, List.flatMap_nil,
      Passage.deeds, Return.deeds, List.append_nil, law]

theorem rent_watched (policy : Policy σ α) (name : String) (deeds : List (Deed α))
    (holdings : Holdings σ α) :
    rent policy.watched name (holdings.watched deeds) =
      ((rent policy name holdings).1,
        (rent policy name holdings).2.watched
          (deeds ++ deedsOf policy (beginning policy name holdings))) := by
  have taken := Pool.rent_watched policy holdings.pool holdings.outside deeds
  have returned := giveBack_watched policy name
    (deeds ++
      if holdings.pool.idle.isEmpty then
        [.create (holdings.pool.rent policy holdings.outside).1]
      else [])
    { holdings with
      outside := (holdings.pool.rent policy holdings.outside).2.2
      pool := (holdings.pool.rent policy holdings.outside).2.1 }
  simp only [watched] at returned
  simp only [rent, watched, taken, returned, beginning, List.append_assoc]
  by_cases none : holdings.pool.idle.isEmpty
  · simp [none, deedsOf, Passage.deeds]
  · simp [none, deedsOf]

theorem foldl_watched {γ β : Type} {policy : Policy σ α}
    {passages : γ → Holdings σ α → List (Passage σ α)} {step : γ → Holdings σ α → β × Holdings σ α}
    {stepped : γ → Holdings (Diary σ α) α → β × Holdings (Diary σ α) α}
    (law : ∀ one deeds holdings, stepped one (holdings.watched deeds) =
      ((step one holdings).1,
        (step one holdings).2.watched (deeds ++ deedsOf policy (passages one holdings))))
    (steps : List γ) (deeds : List (Deed α)) (holdings : Holdings σ α) :
    steps.foldl (fun holdings one => (stepped one holdings).2) (holdings.watched deeds) =
      (steps.foldl (fun holdings one => (step one holdings).2) holdings).watched
        (deeds ++ deedsOf policy (passing passages step steps holdings)) := by
  induction steps generalizing deeds holdings with
  | nil => simp [passing, deedsOf]
  | cons one rest ih =>
      rw [List.foldl_cons, law, ih]
      simp [passing, deedsOf]

theorem perform_watched (policy : Policy σ α) (action : Action α) (deeds : List (Deed α))
    (holdings : Holdings σ α) :
    perform policy.watched action (holdings.watched deeds) =
      ((perform policy action holdings).1,
        (perform policy action holdings).2.watched
          (deeds ++ deedsOf policy (passages policy action holdings))) := by
  have unseen : deeds ++ deedsOf policy [] = deeds := List.append_nil deeds
  cases action with
  | rent name => simp only [perform, passages, rent_watched]
  | rentMany name count =>
      have all := foldl_watched (rent_watched policy) ((List.range count).map (numbered name))
        deeds holdings
      simp only [perform, rentAll, passages, all]
      rfl
  | change name edit =>
      simp only [perform, passages, unseen]
      by_cases named : (holdings.held.find? name).isSome
      · simp only [watched, named, if_true]
      · simp only [watched, named]
        rfl
  | look name =>
      simp only [perform, passages, unseen, watched]
      cases holdings.held.find? name <;> rfl
  | giveBack name => simp only [perform, passages, giveBack_watched]
  | giveBackAll =>
      have all := foldl_watched (giveBack_watched policy) holdings.held.names deeds holdings
      simp only [perform, giveBackNamed, passages]
      exact congrArg (Prod.mk (Reply.count holdings.held.size)) all
  | shrink =>
      have all := discardAll_watched policy holdings.pool.idle.reverse
        { holdings.pool with idle := [] } holdings.outside deeds
      simp only [perform, shrink, watched, passages, all, deedsOf_dismissed]

/-! ### How many leases end -/

theorem returned_giveBack (policy : Policy σ α) (name : String) (holdings : Holdings σ α) :
    (giveBack policy name holdings).2.pool.returned =
      holdings.pool.returned + (returnsOf (ending name holdings)).length := by
  unfold ending
  split
  · rename_i missing
    simp [giveBack, missing, returnsOf]
  · rename_i item held
    have counted := Pool.rented_giveBack policy item holdings.pool holdings.outside
    simp [giveBack, held, returnsOf, return?, counted.2]

theorem returned_rent (policy : Policy σ α) (name : String) (holdings : Holdings σ α) :
    (rent policy name holdings).2.pool.returned =
      holdings.pool.returned + (returnsOf (beginning policy name holdings)).length := by
  have taken := (Pool.rented_rent policy holdings.pool holdings.outside).2
  have ended := returned_giveBack policy name
    { holdings with
      outside := (holdings.pool.rent policy holdings.outside).2.2
      pool := (holdings.pool.rent policy holdings.outside).2.1 }
  dsimp only at ended
  rw [taken] at ended
  by_cases none : holdings.pool.idle.isEmpty
  · simpa [rent, beginning, none, returnsOf, List.filterMap_cons, return?] using ended
  · simpa [rent, beginning, none, returnsOf] using ended

theorem foldl_returned {γ β : Type} {passages : γ → Holdings σ α → List (Passage σ α)}
    {step : γ → Holdings σ α → β × Holdings σ α}
    (law : ∀ one holdings, (step one holdings).2.pool.returned =
      holdings.pool.returned + (returnsOf (passages one holdings)).length)
    (steps : List γ) (holdings : Holdings σ α) :
    (steps.foldl (fun holdings one => (step one holdings).2) holdings).pool.returned =
      holdings.pool.returned + (returnsOf (passing passages step steps holdings)).length := by
  induction steps generalizing holdings with
  | nil => rfl
  | cons one rest ih =>
      rw [List.foldl_cons, ih, law, Nat.add_assoc]
      simp [passing, returnsOf]

theorem returned_perform (policy : Policy σ α) (action : Action α) (holdings : Holdings σ α) :
    (perform policy action holdings).2.pool.returned =
      holdings.pool.returned + (returnsOf (passages policy action holdings)).length := by
  cases action with
  | rent name => exact returned_rent policy name holdings
  | rentMany name count => exact foldl_returned (returned_rent policy) _ holdings
  | change name edit =>
      simp only [perform, passages]
      split <;> rfl
  | look name =>
      simp only [perform, passages]
      split <;> rfl
  | giveBack name => exact returned_giveBack policy name holdings
  | giveBackAll => exact foldl_returned (returned_giveBack policy) _ holdings
  | shrink =>
      have counted := Pool.rented_discardAll policy holdings.pool.idle.reverse
        { holdings.pool with idle := [] } holdings.outside
      simp only [perform, passages, returnsOf_dismissed]
      exact counted.2.1

/-- Whatever a policy does and whatever is done with a pool and its items, all that the policy is
asked for belongs to one passage after the other, and as many of them are returns as leases have
ended. In every return the item is judged once, as it was left. If it is accepted and there is room
it is cleaned once and waits; if it is rejected it is destroyed once, as it was left; if it is
accepted and the pool is full it is first cleaned and then destroyed, and only here does the pool
not keep to the rule that what is destroyed is not cleaned. -/
theorem cleans_before_looking_for_room (policy : Policy σ α) :
    (∀ outside actions,
      let told := history policy actions { outside }
      let ended := performAll policy actions { outside }
      performAll policy.watched actions { outside := { outside } } =
          ended.watched (deedsOf policy told) ∧
        (returnsOf told).length = ended.pool.stats.returned) ∧
    ∀ back : Return σ α,
      ((back.Accepted policy ∧ back.Room policy ∧ back.Kept policy) ∨
        (¬ back.Accepted policy ∧ back.Discarded policy [] back.item) ∨
        (back.Accepted policy ∧ ¬ back.Room policy ∧
          back.Discarded policy [.reset back.item] (back.cleaned policy))) ∧
      (back.Orderly policy ↔ ¬ (back.Accepted policy ∧ ¬ back.Room policy)) := by
  constructor
  · intro outside actions told ended
    have law := foldl_watched (perform_watched policy) actions [] { outside }
    have counted := foldl_returned (returned_perform policy) actions { outside }
    constructor
    · exact law
    · exact ((Nat.zero_add _).symm.trans counted.symm)
  · intro back
    constructor
    · by_cases accepted : back.Accepted policy
      · by_cases room : back.Room policy
        · exact .inl ⟨accepted, room, Return.kept_of_room accepted room⟩
        · exact .inr (.inr ⟨accepted, room, Return.discarded_of_full accepted room⟩)
      · exact .inr (.inl ⟨accepted, Return.discarded_of_rejected accepted⟩)
    · rw [Return.orderly_iff, not_and_not_right]

/-- A pool that keeps one item has it already when the second one comes back with the value five:
the second is cleaned and then destroyed with the value zero. -/
theorem full_pool_cleans_what_it_destroys :
    let policy := Audit.policy
      { resets := true, destroys := true, reuseMost := some 10, maxIdle := 1 }
    let holdings := performAll policy
      [.rent "first", .rent "second", .change "second" fun item => { item with value := 5 },
        .giveBack "first"] { outside := {} }
    let ended := (perform policy (.giveBack "second") holdings).2
    holdings.held.find? "second" = some { serial := 2, value := 5 } ∧
      ended.outside.events = holdings.outside.events ++
        [.check { serial := 2, value := 5 }, .reset { serial := 2, value := 5 },
          .destroy { serial := 2, value := 0 }] ∧
      ended.outside.events ≠ holdings.outside.events ++
        [.check { serial := 2, value := 5 }, .destroy { serial := 2, value := 5 }] := by
  decide +kernel

end Holdings

end Pool

end FramedTransport
