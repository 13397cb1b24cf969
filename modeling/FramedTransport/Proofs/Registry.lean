import FramedTransport.Proofs.Routing
import Mathlib.Data.List.Induction

/-!
A router whose handlers change it while they are asked.
Whoever uses it, a client or a handler at work, registers, deregisters and counts by the
same operations, and all that happens is written down in order. The reference is a map
from types to lists of handlers. It confirms everything that anybody is told, and a
dispatch asks the handlers that it lists when the dispatch begins.
-/

namespace FramedTransport

/-- For every type the handlers registered under it, in the order of their registration. -/
abbrev Ledger (ι : Type) := UInt16 → List ι

/-- What happens at a registry, and what is told there. -/
inductive Note (ι : Type) where
  | registered (type : UInt16) (handler : ι)
  | deregistered (type : UInt16) (handler : ι) (removed : Bool)
  | counted (type : UInt16) (count : Nat)
  | called (handler : ι) (request : Request)
  | answered (answer : Option Bytes)
deriving DecidableEq, Repr

namespace Ledger

variable {ι : Type}

def empty : Ledger ι := fun _ => []

def put (ledger : Ledger ι) (type : UInt16) (handlers : List ι) : Ledger ι :=
  fun other => if other = type then handlers else ledger other

variable [DecidableEq ι]

def after (ledger : Ledger ι) : Note ι → Ledger ι
  | .registered type handler => ledger.put type (ledger type ++ [handler])
  | .deregistered type handler _ => ledger.put type ((ledger type).filter (· ≠ handler))
  | .counted .. | .called .. | .answered _ => ledger

/-- Nothing is told but what the ledger says. -/
def Confirms (ledger : Ledger ι) : Note ι → Prop
  | .deregistered type handler removed => removed = true ↔ handler ∈ ledger type
  | .counted type count => count = (ledger type).length
  | .registered .. | .called .. | .answered _ => True

/-- Notes that a ledger confirms one after the other, and what it is after them. -/
inductive Records : Ledger ι → List (Note ι) → Ledger ι → Prop
  | nothing (ledger : Ledger ι) : Records ledger [] ledger
  | next {ledger last : Ledger ι} {note : Note ι} {notes : List (Note ι)}
      (confirmed : ledger.Confirms note) (rest : Records (ledger.after note) notes last) :
      Records ledger (note :: notes) last

theorem Records.one {ledger : Ledger ι} {note : Note ι} (confirmed : ledger.Confirms note) :
    Records ledger [note] (ledger.after note) := .next confirmed (.nothing _)

theorem Records.append {ledger middle last : Ledger ι} {notes more : List (Note ι)}
    (first : Records ledger notes middle) (second : Records middle more last) :
    Records ledger (notes ++ more) last := by
  induction first with
  | nothing ledger => exact second
  | next confirmed rest ih => exact .next confirmed (ih second)

end Ledger

namespace Router

variable {ι : Type}

theorem handlers_setHandlers (router : Router ι) (type : UInt16) (handlers : List ι) :
    (router.setHandlers type handlers).handlers = Ledger.put router.handlers type handlers := by
  funext other
  have kept (different : other ≠ type) :
      (router.routes.filter fun route => route.1 != type).find? (fun route => route.1 == other) =
        router.routes.find? fun route => route.1 == other := by
    rw [List.find?_filter]
    congr 1
    funext route
    by_cases hit : route.1 = other <;> simp [hit, different]
  have gone : (router.routes.filter fun route => route.1 != type).find?
      (fun route => route.1 == type) = none := by
    simp
  by_cases same : other = type
  · subst same
    cases handlers with
    | nil => simp [setHandlers, Router.handlers, Ledger.put, gone]
    | cons handler rest => simp [setHandlers, Router.handlers, Ledger.put]
  · cases handlers with
    | nil => simp [setHandlers, Router.handlers, Ledger.put, same, kept same]
    | cons handler rest =>
        simp [setHandlers, Router.handlers, Ledger.put, same, Ne.symm same, kept same]

theorem handlers_register (router : Router ι) (type : UInt16) (handler : ι) :
    (router.register type handler).handlers =
      Ledger.put router.handlers type (router.handlers type ++ [handler]) :=
  handlers_setHandlers router type _

section Deregistering

variable [DecidableEq ι] (router : Router ι) (type : UInt16) (handler : ι)

theorem handlers_deregister :
    (router.deregister type handler).2.handlers =
      Ledger.put router.handlers type ((router.handlers type).filter (· ≠ handler)) :=
  handlers_setHandlers router type _

theorem removed_iff :
    (router.deregister type handler).1 = true ↔ handler ∈ router.handlers type := by
  simp only [deregister, bne_iff_ne, ne_eq, List.length_filter_eq_length_iff]
  constructor
  · intro missing
    apply Decidable.byContradiction
    intro absent
    apply missing
    intro other member
    apply decide_eq_true
    rintro rfl
    exact absent member
  · intro present all
    exact absurd rfl (of_decide_eq_true (all handler present))

end Deregistering

def Proper (router : Router ι) : Prop := ∀ route ∈ router.routes, route.2 ≠ []

theorem Proper.setHandlers {router : Router ι} (proper : router.Proper) (type : UInt16)
    (handlers : List ι) : (router.setHandlers type handlers).Proper := by
  intro route member
  cases handlers with
  | nil => exact proper route (List.mem_filter.1 member).1
  | cons handler rest =>
      rcases List.mem_cons.1 member with rfl | before
      · exact List.cons_ne_nil handler rest
      · exact proper route (List.mem_filter.1 before).1

theorem Proper.listed_iff {router : Router ι} (proper : router.Proper) (type : UInt16) :
    (∃ handlers, (type, handlers) ∈ router.routes) ↔ router.handlers type ≠ [] := by
  cases found : router.routes.find? fun route => route.1 == type with
  | none =>
      have unknown := List.find?_eq_none.1 found
      simp only [Router.handlers, found, ne_eq, not_true_eq_false, iff_false]
      rintro ⟨handlers, member⟩
      exact unknown _ member (beq_self_eq_true type)
  | some route =>
      have member := List.mem_of_find?_eq_some found
      have same : route.1 = type := by simpa using List.find?_some found
      simp only [Router.handlers, found]
      constructor
      · intro known
        exact proper route member
      · intro present
        exact ⟨route.2, same ▸ member⟩

end Router

/-- What a handler does with its registry when it is called, one operation after the other, and
what it answers in the end. What it does next may hang on what it has been told, and `τ` is
everything else that it can reach. -/
inductive Deed (ι τ : Type) where
  | answer (answer : Option Bytes) (state : τ)
  | register (type : UInt16) (handler : ι) (next : Deed ι τ)
  | deregister (type : UInt16) (handler : ι) (next : Bool → Deed ι τ)
  | count (type : UInt16) (next : Nat → Deed ι τ)

/-- A deed done against a ledger, which tells the handler all that it is told: what is written down
meanwhile, what the handler answers, and what it leaves of the ledger and of the rest. -/
inductive Deed.Does {ι τ : Type} [DecidableEq ι] :
    Deed ι τ → Ledger ι → List (Note ι) → Option Bytes → Ledger ι → τ → Prop
  | answer {ledger : Ledger ι} (answer : Option Bytes) (state : τ) :
      Does (.answer answer state) ledger [] answer ledger state
  | register {type : UInt16} {handler : ι} {next : Deed ι τ} {ledger last : Ledger ι}
      {work : List (Note ι)} {answer : Option Bytes} {state : τ}
      (rest : Does next (ledger.after (.registered type handler)) work answer last state) :
      Does (.register type handler next) ledger (.registered type handler :: work) answer last state
  | deregister {type : UInt16} {handler : ι} {next : Bool → Deed ι τ} {ledger last : Ledger ι}
      {removed : Bool} {work : List (Note ι)} {answer : Option Bytes} {state : τ}
      (told : removed = true ↔ handler ∈ ledger type)
      (rest : Does (next removed) (ledger.after (.deregistered type handler removed)) work answer
        last state) :
      Does (.deregister type handler next) ledger (.deregistered type handler removed :: work)
        answer last state
  | count {type : UInt16} {next : Nat → Deed ι τ} {ledger last : Ledger ι} {work : List (Note ι)}
      {answer : Option Bytes} {state : τ}
      (rest : Does (next (ledger type).length) ledger work answer last state) :
      Does (.count type next) ledger (.counted type (ledger type).length :: work) answer last state

structure Registry (ι τ : Type) where
  router : Router ι := {}
  state : τ
  notes : List (Note ι) := []

namespace Registry

variable {ι τ : Type}

def note (note : Note ι) (registry : Registry ι τ) : Registry ι τ :=
  { registry with notes := registry.notes ++ [note] }

def register (type : UInt16) (handler : ι) (registry : Registry ι τ) : Registry ι τ :=
  { registry with router := registry.router.register type handler }.note (.registered type handler)

def count (type : UInt16) (registry : Registry ι τ) : Nat × Registry ι τ :=
  let count := registry.router.count type
  (count, registry.note (.counted type count))

variable [DecidableEq ι]

def deregister (type : UInt16) (handler : ι) (registry : Registry ι τ) : Bool × Registry ι τ :=
  let (removed, router) := registry.router.deregister type handler
  (removed, { registry with router }.note (.deregistered type handler removed))

def perform : Deed ι τ → Registry ι τ → Option Bytes × Registry ι τ
  | .answer answer state, registry => (answer, { registry with state })
  | .register type handler next, registry => perform next (registry.register type handler)
  | .deregister type handler next, registry =>
      let (removed, registry) := registry.deregister type handler
      perform (next removed) registry
  | .count type next, registry =>
      let (count, registry) := registry.count type
      perform (next count) registry

def call (deed : ι → Request → τ → Deed ι τ) (handler : ι) : Handler (Registry ι τ) :=
  fun request registry =>
    let (answer, registry) :=
      perform (deed handler request registry.state) (registry.note (.called handler request))
    (answer, registry.note (.answered answer))

def dispatch (deed : ι → Request → τ → Deed ι τ) : Handler (Registry ι τ) :=
  fun request registry => registry.router.dispatch (call deed) request registry

inductive Action (ι τ : Type) where
  | register (type : UInt16) (handler : ι)
  | deregister (type : UInt16) (handler : ι)
  | count (type : UInt16)
  | handle (request : Request)
  | elsewhere (change : τ → τ)

inductive Reply where
  | done
  | removed (answer : Bool)
  | count (count : Nat)
  | answered (answer : Option Bytes)
deriving DecidableEq, Repr

def act (deed : ι → Request → τ → Deed ι τ) (action : Action ι τ) (registry : Registry ι τ) :
    Reply × Registry ι τ :=
  match action with
  | .register type handler => (.done, registry.register type handler)
  | .deregister type handler =>
      let (removed, registry) := registry.deregister type handler
      (.removed removed, registry)
  | .count type =>
      let (count, registry) := registry.count type
      (.count count, registry)
  | .handle request =>
      let (answer, registry) := dispatch deed request registry
      (.answered answer, registry)
  | .elsewhere change => (.done, { registry with state := change registry.state })

def history (deed : ι → Request → τ → Deed ι τ) (state : τ) (actions : List (Action ι τ)) :
    Registry ι τ :=
  actions.foldl (fun registry action => (act deed action registry).2) { state }

/-! ### What is written down -/

/-- The ledger confirms what is written down on the way from one registry to another. -/
structure Advances (before : Registry ι τ) (taken : List (Note ι)) (after : Registry ι τ) :
    Prop where
  notes : after.notes = before.notes ++ taken
  records : Ledger.Records before.router.handlers taken after.router.handlers
  proper : before.router.Proper → after.router.Proper

theorem Advances.restated (registry : Registry ι τ) (state : τ) :
    Advances registry [] { registry with state } where
  notes := (List.append_nil _).symm
  records := .nothing _
  proper := id

theorem Advances.append {before middle after : Registry ι τ} {taken more : List (Note ι)}
    (first : Advances before taken middle) (second : Advances middle more after) :
    Advances before (taken ++ more) after where
  notes := by rw [second.notes, first.notes, List.append_assoc]
  records := first.records.append second.records
  proper := second.proper ∘ first.proper

theorem advances_note {note : Note ι} (registry : Registry ι τ)
    (confirmed : Ledger.Confirms registry.router.handlers note)
    (untouched : Ledger.after registry.router.handlers note = registry.router.handlers) :
    Advances registry [note] (registry.note note) where
  notes := rfl
  records := by
    have one := Ledger.Records.one confirmed
    rwa [untouched] at one
  proper := id

theorem handlers_register (registry : Registry ι τ) (type : UInt16) (handler : ι) :
    (registry.register type handler).router.handlers =
      Ledger.after registry.router.handlers (.registered type handler) :=
  registry.router.handlers_register type handler

theorem handlers_deregister (registry : Registry ι τ) (type : UInt16) (handler : ι)
    (removed : Bool) :
    (registry.deregister type handler).2.router.handlers =
      Ledger.after registry.router.handlers (.deregistered type handler removed) :=
  registry.router.handlers_deregister type handler

theorem advances_register (registry : Registry ι τ) (type : UInt16) (handler : ι) :
    Advances registry [.registered type handler] (registry.register type handler) where
  notes := rfl
  records := by
    have confirmed : Ledger.Confirms registry.router.handlers (.registered type handler) := trivial
    exact registry.handlers_register type handler ▸ Ledger.Records.one confirmed
  proper proper := proper.setHandlers type _

theorem advances_deregister (registry : Registry ι τ) (type : UInt16) (handler : ι) :
    Advances registry [.deregistered type handler (registry.deregister type handler).1]
      (registry.deregister type handler).2 where
  notes := rfl
  records := by
    have confirmed : Ledger.Confirms registry.router.handlers
        (.deregistered type handler (registry.deregister type handler).1) :=
      registry.router.removed_iff type handler
    exact registry.handlers_deregister type handler _ ▸ Ledger.Records.one confirmed
  proper proper := proper.setHandlers type _

theorem advances_count (registry : Registry ι τ) (type : UInt16) :
    Advances registry [.counted type (registry.count type).1] (registry.count type).2 :=
  advances_note registry rfl rfl

/-- A handler at work does its deed, against the ledger that the registry is at that moment. -/
theorem advances_perform (deed : Deed ι τ) (registry : Registry ι τ) :
    let performed := perform deed registry
    ∃ work, deed.Does registry.router.handlers work performed.1 performed.2.router.handlers
        performed.2.state ∧
      Advances registry work performed.2 := by
  induction deed generalizing registry with
  | answer answer state => exact ⟨[], .answer answer state, .restated registry state⟩
  | register type handler next ih =>
      obtain ⟨work, does, later⟩ := ih (registry.register type handler)
      have first := advances_register registry type handler
      refine ⟨_, .register ?_, first.append later⟩
      rwa [← registry.handlers_register type handler]
  | deregister type handler next ih =>
      obtain ⟨work, does, later⟩ :=
        ih (registry.deregister type handler).1 (registry.deregister type handler).2
      have first := advances_deregister registry type handler
      refine ⟨_, .deregister (registry.router.removed_iff type handler) ?_, first.append later⟩
      rwa [← registry.handlers_deregister type handler]
  | count type next ih =>
      obtain ⟨work, does, later⟩ := ih (registry.count type).1 (registry.count type).2
      exact ⟨_, .count does, (advances_count registry type).append later⟩

variable (deed : ι → Request → τ → Deed ι τ)

/-- What is written down as some handlers are asked one after the other. Each is called with the
same request and does its deed; the first that answers is the last. -/
inductive Asks (request : Request) :
    Ledger ι → τ → List ι → List (Note ι) → Option Bytes → Ledger ι → τ → Prop
  | nobody {ledger : Ledger ι} {state : τ} : Asks request ledger state [] [] none ledger state
  | answered {ledger last : Ledger ι} {state next : τ} {handler : ι} {handlers : List ι}
      {work : List (Note ι)} {answer : Bytes}
      (does : (deed handler request state).Does ledger work (some answer) last next) :
      Asks request ledger state (handler :: handlers)
        (.called handler request :: (work ++ [.answered (some answer)])) (some answer) last next
  | passed {ledger middle last : Ledger ι} {state between next : τ} {handler : ι}
      {handlers : List ι} {work notes : List (Note ι)} {answer : Option Bytes}
      (does : (deed handler request state).Does ledger work none middle between)
      (rest : Asks request middle between handlers notes answer last next) :
      Asks request ledger state (handler :: handlers)
        (.called handler request :: (work ++ .answered none :: notes)) answer last next

theorem advances_call (handler : ι) (request : Request) (registry : Registry ι τ) :
    let called := call deed handler request registry
    ∃ work, (deed handler request registry.state).Does registry.router.handlers work called.1
        called.2.router.handlers called.2.state ∧
      Advances registry (.called handler request :: (work ++ [.answered called.1])) called.2 := by
  obtain ⟨work, does, worked⟩ := advances_perform (deed handler request registry.state)
    (registry.note (.called handler request))
  have called : Advances registry [.called handler request]
      (registry.note (.called handler request)) := advances_note registry trivial rfl
  exact ⟨work, does, (called.append worked).append (advances_note _ trivial rfl)⟩

theorem advances_firstAnswer (handlers : List ι) (request : Request) (registry : Registry ι τ) :
    let asked := Router.firstAnswer (call deed) handlers request registry
    ∃ notes,
      Asks deed request registry.router.handlers registry.state handlers notes asked.1
        asked.2.router.handlers asked.2.state ∧
      Advances registry notes asked.2 := by
  induction handlers generalizing registry with
  | nil => exact ⟨[], .nobody, .restated registry registry.state⟩
  | cons handler handlers ih =>
      obtain ⟨work, does, called⟩ := advances_call deed handler request registry
      rcases reply : call deed handler request registry with ⟨_ | answer, next⟩
      · rw [reply] at called does
        obtain ⟨notes, asks, later⟩ := ih next
        simp only [Router.firstAnswer, reply]
        refine ⟨_, .passed does asks, ?_⟩
        simpa using called.append later
      · rw [reply] at called does
        simp only [Router.firstAnswer, reply]
        exact ⟨_, .answered does, called⟩

/-- What a client is told and what is written down, by the ledger that the client finds, and what
the action leaves of the ledger and of all that handlers can reach besides. -/
inductive Accounts (ledger : Ledger ι) (state : τ) :
    Action ι τ → Reply → List (Note ι) → Ledger ι → τ → Prop
  | registered (type : UInt16) (handler : ι) :
      Accounts ledger state (.register type handler) .done [.registered type handler]
        (ledger.after (.registered type handler)) state
  | deregistered {type : UInt16} {handler : ι} {removed : Bool}
      (told : removed = true ↔ handler ∈ ledger type) :
      Accounts ledger state (.deregister type handler) (.removed removed)
        [.deregistered type handler removed] (ledger.after (.deregistered type handler removed))
        state
  | counted (type : UInt16) :
      Accounts ledger state (.count type) (.count (ledger type).length)
        [.counted type (ledger type).length] ledger state
  | untyped {request : Request} (short : request.payload.length < 2) :
      Accounts ledger state (.handle request) (.answered none) [] ledger state
  | dispatched {request : Request} {notes : List (Note ι)} {answer : Option Bytes}
      {last : Ledger ι} {next : τ} (typed : 2 ≤ request.payload.length)
      (asks : Asks deed { request with payload := request.payload.drop 2 } ledger state
        (ledger (UInt16.ofNat (Bytes.number (request.payload.take 2)))) notes answer last next) :
      Accounts ledger state (.handle request)
        (.answered (answer.map (request.payload.take 2 ++ ·))) notes last next
  | unnoticed (change : τ → τ) :
      Accounts ledger state (.elsewhere change) .done [] ledger (change state)

theorem advances_act (action : Action ι τ) (registry : Registry ι τ) :
    let acted := act deed action registry
    ∃ notes,
      Accounts deed registry.router.handlers registry.state action acted.1 notes
        acted.2.router.handlers acted.2.state ∧
      Advances registry notes acted.2 := by
  cases action with
  | register type handler =>
      refine ⟨_, ?_, advances_register registry type handler⟩
      exact registry.handlers_register type handler ▸ .registered type handler
  | deregister type handler =>
      refine ⟨_, ?_, advances_deregister registry type handler⟩
      have told := registry.router.removed_iff type handler
      exact registry.handlers_deregister type handler _ ▸ .deregistered told
  | count type => exact ⟨_, .counted type, advances_count registry type⟩
  | handle request =>
      by_cases short : request.payload.length < 2
      · have unasked := Router.dispatch_short (call deed) registry.router registry short
        simp only [act, dispatch, unasked]
        exact ⟨[], .untyped short, .restated registry registry.state⟩
      · have typed := Nat.le_of_not_lt short
        have asked := Router.dispatch_typed (call deed) registry.router registry typed
        obtain ⟨notes, asks, advances⟩ := advances_firstAnswer deed
          (registry.router.handlers (Router.typeOf request.payload))
          { request with payload := request.payload.drop 2 } registry
        simp only [act, dispatch, asked]
        exact ⟨notes, .dispatched typed asks, advances⟩
  | elsewhere change => exact ⟨[], .unnoticed change, .restated registry _⟩

theorem advances_history (state : τ) (actions : List (Action ι τ)) :
    ∃ notes, Advances ({ state } : Registry ι τ) notes (history deed state actions) := by
  induction actions using List.reverseRecOn with
  | nil => exact ⟨[], .restated _ state⟩
  | append_singleton actions action ih =>
      obtain ⟨notes, advances⟩ := ih
      obtain ⟨more, -, next⟩ := advances_act deed action (history deed state actions)
      refine ⟨notes ++ more, ?_⟩
      rw [history, List.foldl_append]
      exact advances.append next

/-- Whatever clients and handlers at work have done to a registry, it is at every moment what the
reference map is: the map confirms all that has been told, a type is known as long as it has
handlers, and the next action is answered by the map. A dispatch asks the handlers that the map
lists when it begins, and each of them does what its deed is, told by the map as it is by then. -/
theorem keeps_the_ledger (state : τ) (actions : List (Action ι τ)) (action : Action ι τ) :
    let registry := history deed state actions
    let acted := act deed action registry
    Ledger.Records Ledger.empty registry.notes registry.router.handlers ∧
      (∀ type, (∃ handlers, (type, handlers) ∈ registry.router.routes) ↔
        registry.router.handlers type ≠ []) ∧
      ∃ taken,
        Accounts deed registry.router.handlers registry.state action acted.1 taken
          acted.2.router.handlers acted.2.state ∧
        acted.2.notes = registry.notes ++ taken ∧
        Ledger.Records registry.router.handlers taken acted.2.router.handlers := by
  intro registry acted
  obtain ⟨notes, advances⟩ := advances_history deed state actions
  obtain ⟨taken, accounts, next⟩ := advances_act deed action registry
  refine ⟨?_, ?_, taken, accounts, next.notes, next.records⟩
  · have written : registry.notes = notes := advances.notes
    rw [written]
    exact advances.records
  · have fresh : ({} : Router ι).Proper := by simp [Router.Proper]
    exact (advances.proper fresh).listed_iff

/-- The first of two handlers removes the second and registers a third. The second is called in
the same dispatch all the same, and the third is not. -/
theorem dispatch_keeps_its_list :
    let deed (handler : Nat) (_ : Request) (state : Unit) : Deed Nat Unit :=
      if handler = 1 then .deregister 3 2 fun _ => .register 3 3 (.answer none state)
      else .answer none state
    let request : Request :=
      { remote := ⟨IpAddress.loopback, 80, 0⟩, header := ⟨2, by decide⟩, payload := [0, 3] }
    let body : Request := { request with payload := [] }
    let registry := history deed () [.register 3 1, .register 3 2]
    let acted := act deed (.handle request) registry
    registry.router.handlers 3 = [1, 2] ∧ acted.2.router.handlers 3 = [1, 3] ∧
      Accounts deed registry.router.handlers () (.handle request) (.answered none)
        [.called 1 body, .deregistered 3 2 true, .registered 3 3, .answered none, .called 2 body,
          .answered none] acted.2.router.handlers () := by
  intro deed request body registry acted
  obtain ⟨-, -, taken, accounts, notes, -⟩ :=
    keeps_the_ledger deed () [.register 3 1, .register 3 2] (.handle request)
  have written : registry.notes ++ [.called 1 body, .deregistered 3 2 true, .registered 3 3,
      .answered none, .called 2 body, .answered none] = registry.notes ++ taken := notes
  rw [List.append_cancel_left written]
  exact ⟨rfl, rfl, accounts⟩

end Registry

end FramedTransport
