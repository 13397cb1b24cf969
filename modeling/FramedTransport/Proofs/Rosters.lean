import FramedTransport.Handler.Roster
import FramedTransport.Proofs.Registry

/-!
Rosters as registries.
A member of a roster is a handler or a tree of them, and what it does when it is called is
a deed on the registry, whatever it contains. So a roster is a registry whose handlers are
the positions of its members, and the laws of registries are laws of rosters.
-/

namespace FramedTransport

section Bind

variable {ι τ : Type}

/-- A deed, and then another one that knows its answer. -/
def Deed.bind (next : Option Bytes → τ → Deed ι τ) : Deed ι τ → Deed ι τ
  | .answer reply state => next reply state
  | .register type handler rest => .register type handler (rest.bind next)
  | .deregister type handler rest =>
      .deregister type handler fun removed => (rest removed).bind next
  | .count type rest => .count type fun count => (rest count).bind next

variable [DecidableEq ι]

/-- A deed knows the state from the moment at which it was chosen. -/
theorem Registry.perform_restated (deed : Deed ι τ) (registry : Registry ι τ) (state : τ) :
    perform deed { registry with state } = perform deed registry := by
  induction deed generalizing registry with
  | answer answer later => rfl
  | register type handler rest ih => exact ih (registry.register type handler)
  | deregister type handler rest ih =>
      exact ih (registry.deregister type handler).1 (registry.deregister type handler).2
  | count type rest ih => exact ih (registry.count type).1 (registry.count type).2

theorem Registry.perform_bind (next : Option Bytes → τ → Deed ι τ) (deed : Deed ι τ)
    (registry : Registry ι τ) :
    perform (deed.bind next) registry =
      let done := perform deed registry
      perform (next done.1 done.2.state) done.2 := by
  induction deed generalizing registry with
  | answer answer state => exact (perform_restated (next answer state) registry state).symm
  | register type handler rest ih => exact ih (registry.register type handler)
  | deregister type handler rest ih =>
      exact ih (registry.deregister type handler).1 (registry.deregister type handler).2
  | count type rest ih => exact ih (registry.count type).1 (registry.count type).2

end Bind

/-! ### What members do -/

/-- Called with these members, and with these calls before it; the registrations that the roster
has itself are not looked at. -/
def Named.deed (named : Named) (request : Request) (roster : Roster) : Deed Nat Roster :=
  let roster := Roster.note named request roster
  match named.duty with
  | .answer behaviour => .answer (behaviour.respond request) roster
  | .registers target type =>
      match roster.current? target with
      | some member => .register type member (.answer none roster)
      | none => .answer none roster
  | .deregisters target type reply =>
      match roster.current? target with
      | some member => .deregister type member fun removed =>
          let answer := Behaviour.textBytes (if removed then "true" else "false")
          .answer (if reply then some answer else none) roster
      | none => .answer none roster

mutual

def HandlerTree.deed : HandlerTree Named → Request → Roster → Deed Nat Roster
  | .leaf named, request, roster => named.deed request roster
  | .node label branches, request, roster =>
      let roster := Roster.note label request roster
      match Router.split request.payload with
      | none => .answer none roster
      | some (type, body) =>
          (branches.deed type { request with payload := body } roster).bind fun answer roster =>
            .answer (answer.map (Router.encode type)) roster

def Branches.deed : Branches Named → UInt16 → Request → Roster → Deed Nat Roster
  | .empty, _, _, roster => .answer none roster
  | .more type tree rest, wanted, request, roster =>
      if type = wanted then
        (tree.deed request roster).bind fun answer roster =>
          match answer with
          | some answer => .answer (some answer) roster
          | none => rest.deed wanted request roster
      else rest.deed wanted request roster

end

def Roster.deed (member : Nat) (request : Request) (roster : Roster) : Deed Nat Roster :=
  match roster.members[member]? with
  | some (_, tree) => tree.deed request roster
  | none => .answer none roster

def Registry.roster (registry : Registry Nat Roster) : Roster :=
  { registry.state with router := registry.router }

namespace Roster

open Registry

/-- The handler does to a roster what the deed does to a registry. -/
def Performs (handler : Handler Roster) (deed : Request → Roster → Deed Nat Roster) : Prop :=
  ∀ request registry, handler request (Registry.roster registry) =
    let done := Registry.perform (deed request registry.state) registry
    (done.1, done.2.roster)

theorem perform_performs (named : Named) : Performs (perform named) named.deed := by
  intro request registry
  have same (target : String) : (note named request registry.roster).current? target =
      (note named request registry.state).current? target := rfl
  unfold perform Named.deed
  cases duty : named.duty with
  | answer behaviour => rfl
  | registers target type =>
      cases found : (note named request registry.state).current? target with
      | none => simp only [register, same, found, Option.map, Option.getD]; rfl
      | some member => simp only [register, same, found, Option.map, Option.getD]; rfl
  | deregisters target type reply =>
      cases found : (note named request registry.state).current? target with
      | none => simp only [deregister, same, found, Option.map]; rfl
      | some member => simp only [deregister, same, found, Option.map]; rfl

mutual

theorem handle_performs : (tree : HandlerTree Named) → Performs (tree.handle conduct) tree.deed
  | .leaf named => perform_performs named
  | .node label branches => by
      intro request registry
      have noted : conduct.observe label request registry.roster =
        Registry.roster { registry with state := note label request registry.state } := rfl
      simp only [HandlerTree.handle, HandlerTree.deed, noted]
      cases Router.split request.payload with
      | none => rfl
      | some found =>
          have asked := firstAnswer_performs found.1 branches
            { request with payload := found.2 }
            { registry with state := note label request registry.state }
          simp only [asked, perform_bind, Registry.perform_restated]
          rfl

theorem firstAnswer_performs (wanted : UInt16) : (branches : Branches Named) →
    Performs (branches.firstAnswer conduct wanted) (branches.deed wanted)
  | .empty => fun _ _ => rfl
  | .more type tree rest => by
      intro request registry
      simp only [Branches.firstAnswer, Branches.deed]
      by_cases wanted : type = wanted
      · simp only [wanted, if_true, handle_performs tree request registry, perform_bind]
        cases reply : (Registry.perform (tree.deed request registry.state) registry).1 with
        | some answer => rfl
        | none => exact firstAnswer_performs _ rest request _
      · simp only [wanted, if_false]
        exact firstAnswer_performs _ rest request registry

end

theorem call_performs (member : Nat) : Performs (call member) (deed member) := by
  intro request registry
  have same : registry.roster.members[member]? = registry.state.members[member]? := rfl
  simp only [call, deed, same]
  cases registry.state.members[member]? with
  | none => rfl
  | some found => exact handle_performs found.2 request registry

/-! ### What clients do -/

theorem roster_call (member : Nat) (request : Request) (registry : Registry Nat Roster) :
    call member request registry.roster =
      ((Registry.call deed member request registry).1,
        (Registry.call deed member request registry).2.roster) :=
  call_performs member request (registry.note (.called member request))

theorem roster_firstAnswer (members : List Nat) (request : Request)
    (registry : Registry Nat Roster) :
    Router.firstAnswer call members request registry.roster =
      ((Router.firstAnswer (Registry.call deed) members request registry).1,
        (Router.firstAnswer (Registry.call deed) members request registry).2.roster) := by
  induction members generalizing registry with
  | nil => rfl
  | cons member members ih =>
      simp only [Router.firstAnswer, roster_call]
      cases reply : Registry.call deed member request registry with
      | mk answer next =>
          cases answer with
          | none => exact ih next
          | some answer => rfl

theorem roster_dispatch (request : Request) (registry : Registry Nat Roster) :
    dispatch request registry.roster =
      ((Registry.dispatch deed request registry).1,
        (Registry.dispatch deed request registry).2.roster) := by
  have same : registry.roster.router = registry.router := rfl
  simp only [dispatch, Registry.dispatch, Router.dispatch, same]
  cases Router.split request.payload with
  | none => rfl
  | some found => simp only [roster_firstAnswer]

/-- What an action on a roster with these members is for a registry, if there is a member of its
name. -/
def plain (roster : Roster) : Action → Option (Registry.Action Nat Roster)
  | .enrol name tree => some (.elsewhere fun roster => roster.enrol name tree)
  | .register type name => (roster.current? name).map (.register type)
  | .deregister type name => (roster.current? name).map (.deregister type)
  | .count type => some (.count type)
  | .handle request => some (.handle request)

def told : Registry.Reply → Reply
  | .done => .done
  | .removed answer => .removed answer
  | .count count => .count count
  | .answered answer => .answered answer

theorem roster_act (action : Action) (registry : Registry Nat Roster) :
    act action registry.roster =
      match plain registry.state action with
      | none => (.missing, registry.roster)
      | some plainly =>
          let acted := Registry.act deed plainly registry
          (told acted.1, acted.2.roster) := by
  have same (name : String) : registry.roster.current? name = registry.state.current? name := rfl
  cases action with
  | enrol name tree => rfl
  | register type name =>
      simp only [act, register, same, plain]
      cases registry.state.current? name <;> rfl
  | deregister type name =>
      simp only [act, deregister, same, plain]
      cases registry.state.current? name <;> rfl
  | count type => rfl
  | handle request =>
      simp only [act, roster_dispatch]
      rfl

/-- Whatever clients do with a roster, it is a registry to which they have done the same. -/
theorem is_a_registry (actions : List Action) :
    ∃ plainly, actions.foldl (fun roster action => (act action roster).2) {} =
      (history deed {} plainly).roster := by
  induction actions using List.reverseRecOn with
  | nil => exact ⟨[], rfl⟩
  | append_singleton actions action ih =>
      obtain ⟨plainly, before⟩ := ih
      have acted := roster_act action (history deed {} plainly)
      simp only [List.foldl_append, List.foldl_cons, List.foldl_nil, before, acted]
      cases plain (history deed {} plainly).state action with
      | none => exact ⟨plainly, rfl⟩
      | some more =>
          refine ⟨plainly ++ [more], ?_⟩
          simp only [history, List.foldl_append, List.foldl_cons, List.foldl_nil]

end Roster

end FramedTransport
