import FramedTransport.Handler.Tree
import FramedTransport.Proofs.Registry

/-!
Routers inside routers, from one end to the other.
A path leads from the root of a tree to one of its leaves, and its types say under what the
nodes and the leaf on it are registered. A payload takes the paths whose types it begins
with, in the order of registration, until a leaf answers: the leaf is asked for what
follows the types, and the answer carries them again. A path whose types do not stand there
leads nowhere and keeps nobody else from answering.
-/

namespace FramedTransport

/-- The way to a leaf: what each step of it is registered under. -/
structure HandlerTree.Path (ι : Type) where
  types : List UInt16
  leaf : ι
deriving DecidableEq, Repr

namespace HandlerTree.Path

variable {ι : Type}

def front (path : Path ι) : Bytes :=
  path.types.flatMap fun type => Bytes.bigEndian Router.typeSize type.toNat

def under (type : UInt16) (path : Path ι) : Path ι := { path with types := type :: path.types }

def question (path : Path ι) (request : Request) : Request :=
  { request with payload := request.payload.drop (2 * path.types.length) }

theorem length_front (path : Path ι) : path.front.length = 2 * path.types.length := by
  unfold front
  induction path.types with
  | nil => rfl
  | cons type types ih =>
      rw [List.flatMap_cons, List.length_append, Bytes.length_bigEndian, ih, List.length_cons,
        Router.typeSize]
      omega

theorem front_under (type : UInt16) (path : Path ι) :
    (path.under type).front = Router.encode type path.front := rfl

theorem fits_under (type wanted : UInt16) (path : Path ι) (body : Bytes) :
    (path.under type).front <+: Router.encode wanted body ↔
      type = wanted ∧ path.front <+: body := by
  rw [front_under]
  constructor
  · rintro ⟨rest, same⟩
    have width (other : UInt16) := Bytes.length_bigEndian Router.typeSize other.toNat
    simp only [Router.encode, List.append_assoc] at same
    obtain ⟨spelled, behind⟩ := List.append_inj same ((width type).trans (width wanted).symm)
    have value := congrArg Bytes.number spelled
    simp only [Bytes.number_bigEndian] at value
    have range (other : UInt16) : other.toNat % Bytes.range Router.typeSize = other.toNat :=
      Nat.mod_eq_of_lt other.toNat_lt
    rw [range type, range wanted] at value
    exact ⟨UInt16.toNat_inj.1 value, rest, behind⟩
  · rintro ⟨rfl, rest, rfl⟩
    exact ⟨rest, List.append_assoc _ _ _⟩

theorem question_under (type : UInt16) (path : Path ι) (request : Request) {body : Bytes}
    (typed : request.payload = Router.encode type body) :
    (path.under type).question request = path.question { request with payload := body } := by
  have width := Bytes.length_bigEndian Router.typeSize type.toNat
  have deeper : 2 * (type :: path.types).length = Router.typeSize + 2 * path.types.length := by
    rw [List.length_cons, Router.typeSize]
    omega
  simp only [question, under, typed, deeper, Router.encode, ← List.drop_drop,
    List.drop_left' width]

end HandlerTree.Path

open HandlerTree (Path)

section Paths

variable {ι : Type}

mutual

/-- All paths of a tree, in the order in which their leaves come to be asked. -/
def HandlerTree.paths : HandlerTree ι → List (Path ι)
  | .leaf handler => [⟨[], handler⟩]
  | .node _ branches => branches.paths

def Branches.paths : Branches ι → List (Path ι)
  | .empty => []
  | .more type tree rest => tree.paths.map (.under type) ++ rest.paths

end

def Branches.handlers : Branches ι → UInt16 → List (HandlerTree ι)
  | .empty, _ => []
  | .more type tree rest, wanted =>
      if type = wanted then tree :: rest.handlers wanted else rest.handlers wanted

/-- A router to which the branches have been added, one after the other. -/
def Branches.register : Branches ι → Router (HandlerTree ι) → Router (HandlerTree ι)
  | .empty, router => router
  | .more type tree rest, router => rest.register (router.register type tree)

theorem Branches.fitting_paths (branches : Branches ι) (wanted : UInt16) (body : Bytes) :
    (branches.paths.filter fun path => path.front <+: Router.encode wanted body) =
      (((branches.handlers wanted).flatMap HandlerTree.paths).filter
        fun path => path.front <+: body).map (.under wanted) := by
  fun_induction Branches.handlers branches wanted with
  | case1 => rfl
  | case2 wanted tree rest ih =>
      simp only [Branches.paths, List.filter_append, List.filter_map, ih, List.flatMap_cons,
        List.map_append, Function.comp_def, Path.fits_under, true_and]
  | case3 wanted type tree rest other ih =>
      simp [Branches.paths, List.filter_map, ih, Function.comp_def, Path.fits_under, other]

theorem Branches.exists_under_of_mem {branches : Branches ι} {path : Path ι}
    (member : path ∈ branches.paths) : ∃ type rest, path = Path.under type rest := by
  match branches, member with
  | .empty, member => simp [Branches.paths] at member
  | .more type tree rest, member =>
      rcases List.mem_append.1 member with here | later
      · obtain ⟨inner, -, rfl⟩ := List.mem_map.1 here
        exact ⟨type, inner, rfl⟩
      · exact exists_under_of_mem later

theorem Branches.fitting_paths_short (branches : Branches ι) {payload : Bytes}
    (short : payload.length < Router.typeSize) :
    (branches.paths.filter fun path => path.front <+: payload) = [] := by
  apply List.filter_eq_nil_iff.2
  intro path member
  obtain ⟨type, rest, rfl⟩ := Branches.exists_under_of_mem member
  have size := (Path.under type rest).length_front
  simp only [decide_eq_true_eq]
  intro fits
  have bound := fits.length_le
  simp only [Path.under, List.length_cons, Router.typeSize] at size short bound
  omega

end Paths

section Handling

variable {ι σ : Type}

/-- Leaves that are written down as they are asked. -/
def Conduct.noting (conduct : Conduct ι σ) : Conduct ι (σ × List (Router.Question ι)) where
  respond := Router.noting conduct.respond
  observe label request := fun (state, notes) => (conduct.observe label request state, notes)

/-- What the leaves at the ends of some paths are asked, one after the other, until one of them
answers. The answer goes back behind the types of its path. -/
inductive Inquiry (request : Request) :
    List (Path ι) → List (Router.Question ι) → Option Bytes → Prop
  | nobody : Inquiry request [] [] none
  | answered (path : Path ι) (paths : List (Path ι)) (reply : Bytes) :
      Inquiry request (path :: paths) [⟨path.leaf, path.question request, some reply⟩]
        (some (path.front ++ reply))
  | passed (path : Path ι) {paths : List (Path ι)} {asked : List (Router.Question ι)}
      {answer : Option Bytes} (rest : Inquiry request paths asked answer) :
      Inquiry request (path :: paths) (⟨path.leaf, path.question request, none⟩ :: asked) answer

namespace Inquiry

variable {request : Request} {paths more : List (Path ι)} {asked later : List (Router.Question ι)}
  {answer : Option Bytes}

theorem append (first : Inquiry request paths asked none)
    (second : Inquiry request more later answer) :
    Inquiry request (paths ++ more) (asked ++ later) answer := by
  generalize silent : none = told at first
  induction first with
  | nobody => exact second
  | answered path paths reply => cases silent
  | passed path rest ih => exact .passed path (ih silent)

theorem decided {reply : Bytes} (first : Inquiry request paths asked (some reply)) :
    Inquiry request (paths ++ more) asked (some reply) := by
  generalize spoken : some reply = told at first
  induction first with
  | nobody => cases spoken
  | answered path paths reply =>
      cases spoken
      exact .answered path (paths ++ more) _
  | passed path rest ih => exact .passed path (ih spoken)

theorem under {type : UInt16} {body : Bytes} (typed : request.payload = Router.encode type body)
    (inner : Inquiry { request with payload := body } paths asked answer) :
    Inquiry request (paths.map (.under type)) asked (answer.map (Router.encode type)) := by
  induction inner with
  | nobody => exact .nobody
  | answered path paths reply =>
      have outer : Inquiry request _ _ _ :=
        .answered (path.under type) (paths.map (.under type)) reply
      have longer : Router.encode type path.front ++ reply =
        Router.encode type (path.front ++ reply) := List.append_assoc _ _ _
      rwa [path.question_under type request typed, Path.front_under, longer] at outer
  | passed path rest ih =>
      have outer := Inquiry.passed (path.under type) ih
      rwa [path.question_under type request typed] at outer

/-- Whoever answers is at the end of one of the paths and is the last to be asked. -/
theorem exists_path {told : Bytes} (inquiry : Inquiry request paths asked (some told)) :
    ∃ path ∈ paths, ∃ reply, told = path.front ++ reply ∧
      asked.getLast? = some ⟨path.leaf, path.question request, some reply⟩ := by
  generalize spoken : some told = answer at inquiry
  induction inquiry with
  | nobody => cases spoken
  | answered path paths reply =>
      cases spoken
      exact ⟨path, List.mem_cons_self, reply, rfl, rfl⟩
  | passed path rest ih =>
      obtain ⟨found, member, reply, same, last⟩ := ih spoken
      refine ⟨found, List.mem_cons_of_mem path member, reply, same, ?_⟩
      rw [List.getLast?_cons, last]
      rfl

end Inquiry

/-- The notes of a handler tell which leaves it asks: those whose paths the payload takes. -/
def Recounts (paths : List (Path ι)) (call : Handler σ)
    (noted : Handler (σ × List (Router.Question ι))) : Prop :=
  ∀ request state, ∃ asked,
    Inquiry request (paths.filter fun path => path.front <+: request.payload) asked
      (call request state).1 ∧
    ∀ notes, noted request (state, notes) =
      ((call request state).1, (call request state).2, notes ++ asked)

variable (conduct : Conduct ι σ)

mutual

theorem HandlerTree.recounts : (tree : HandlerTree ι) →
    Recounts tree.paths (tree.handle conduct) (tree.handle conduct.noting)
  | .leaf handler => by
      intro request state
      have fits : ([⟨[], handler⟩] : List (Path ι)).filter
          (fun path => path.front <+: request.payload) = [⟨[], handler⟩] := by
        simp [Path.front]
      simp only [HandlerTree.paths, HandlerTree.handle, fits]
      rcases reply : conduct.respond handler request state with ⟨_ | answer, next⟩
      · refine ⟨[⟨handler, request, none⟩], .passed ⟨[], handler⟩ .nobody, ?_⟩
        intro notes
        simp only [Conduct.noting, Router.noting, reply]
      · refine ⟨[⟨handler, request, some answer⟩], .answered ⟨[], handler⟩ [] answer, ?_⟩
        intro notes
        simp only [Conduct.noting, Router.noting, reply]
  | .node label branches => by
      intro request state
      simp only [HandlerTree.paths, HandlerTree.handle]
      by_cases short : request.payload.length < Router.typeSize
      · simp only [Router.split_short short, branches.fitting_paths_short short]
        refine ⟨[], .nobody, ?_⟩
        intro notes
        rw [List.append_nil]
        rfl
      · have typed := Nat.le_of_not_lt short
        have spelled : request.payload = Router.encode (Router.typeOf request.payload)
            (request.payload.drop Router.typeSize) := by
          rw [Router.encode_typeOf typed, List.take_append_drop]
        obtain ⟨asked, inquiry, noted⟩ := Branches.recounts branches
          (Router.typeOf request.payload)
          { request with payload := request.payload.drop Router.typeSize }
          (conduct.observe label request state)
        simp only [Router.split_typed typed]
        refine ⟨asked, ?_, ?_⟩
        · have outer := inquiry.under spelled
          rwa [← branches.fitting_paths, ← spelled] at outer
        · intro notes
          have inner := noted notes
          simp only [Conduct.noting] at inner ⊢
          rw [inner]

theorem Branches.recounts : (branches : Branches ι) → (wanted : UInt16) →
    Recounts ((branches.handlers wanted).flatMap HandlerTree.paths)
      (branches.firstAnswer conduct wanted) (branches.firstAnswer conduct.noting wanted)
  | .empty, _ => by
      intro request state
      refine ⟨[], .nobody, ?_⟩
      intro notes
      rw [List.append_nil]
      rfl
  | .more type tree rest, wanted => by
      intro request state
      simp only [Branches.handlers, Branches.firstAnswer]
      by_cases same : type = wanted
      · obtain ⟨asked, inquiry, noted⟩ := HandlerTree.recounts tree request state
        simp only [same, if_true, List.flatMap_cons, List.filter_append, noted]
        rcases reply : tree.handle conduct request state with ⟨_ | answer, next⟩
        · rw [reply] at inquiry
          obtain ⟨more, later, continued⟩ := Branches.recounts rest wanted request next
          refine ⟨asked ++ more, inquiry.append later, ?_⟩
          intro notes
          simp only [continued, List.append_assoc]
        · rw [reply] at inquiry
          exact ⟨asked, inquiry.decided, fun notes => rfl⟩
      · simp only [same, if_false]
        exact Branches.recounts rest wanted request state

end

/-! ### A node is a router -/

theorem Branches.handlers_register (branches : Branches ι) (router : Router (HandlerTree ι))
    (type : UInt16) :
    (branches.register router).handlers type = router.handlers type ++ branches.handlers type := by
  match branches with
  | .empty => exact (List.append_nil _).symm
  | .more other tree rest =>
      rw [Branches.register, handlers_register rest, Router.handlers_register, Branches.handlers,
        Ledger.put]
      by_cases same : other = type
      · rw [if_pos same, if_pos same.symm, same, List.append_assoc]
        rfl
      · rw [if_neg same, if_neg (Ne.symm same)]

theorem Branches.firstAnswer_eq (branches : Branches ι) (wanted : UInt16) :
    branches.firstAnswer conduct wanted =
      Router.firstAnswer (HandlerTree.handle conduct) (branches.handlers wanted) := by
  funext request state
  match branches with
  | .empty => rfl
  | .more type tree rest =>
      rw [Branches.firstAnswer, Branches.handlers]
      by_cases same : type = wanted
      · rw [if_pos same, if_pos same, Router.firstAnswer]
        rcases tree.handle conduct request state with ⟨_ | answer, after⟩
        · exact congrFun (congrFun (firstAnswer_eq rest wanted) request) after
        · rfl
      · rw [if_neg same, if_neg same, firstAnswer_eq rest wanted]

/-- A node answers as a router does to which its branches have been added in their order. -/
theorem HandlerTree.handle_node (label : ι) (branches : Branches ι) (request : Request)
    (state : σ) :
    (HandlerTree.node label branches).handle conduct request state =
      (branches.register {}).dispatch (HandlerTree.handle conduct) request
        (conduct.observe label request state) := by
  have listed (type : UInt16) : (branches.register {}).handlers type = branches.handlers type :=
    branches.handlers_register {} type
  simp only [HandlerTree.handle, Router.dispatch]
  rcases Router.split request.payload with _ | ⟨type, body⟩
  · rfl
  · simp only [listed, branches.firstAnswer_eq conduct]

theorem HandlerTree.handle_unrouted (label : ι) {branches : Branches ι} {request : Request}
    (state : σ)
    (unrouted : request.payload.length < 2 ∨
      branches.handlers (Router.typeOf request.payload) = []) :
    (HandlerTree.node label branches).handle conduct request state =
      (none, conduct.observe label request state) := by
  rw [HandlerTree.handle_node]
  by_cases short : request.payload.length < Router.typeSize
  · exact Router.dispatch_short _ _ _ short
  · have unknown := unrouted.resolve_left short
    rw [Router.dispatch_typed _ _ _ (Nat.le_of_not_lt short), branches.handlers_register, unknown]
    rfl

/-- Whatever a node answers comes from a leaf at the end of a path whose types the payload begins
with: it is asked last, for what follows the types, and its own answer goes back behind them. All
leaves that are asked are at the ends of such paths, and a node that has no handler for its request
leaves the decision to the one registered behind it. -/
theorem HandlerTree.answers_come_back_along_their_path (label : ι) (branches : Branches ι)
    (request : Request) (state : σ) :
    let tree := HandlerTree.node label branches
    let handled := tree.handle conduct request state
    handled = (branches.register {}).dispatch (HandlerTree.handle conduct) request
      (conduct.observe label request state) ∧
    (∃ asked,
      (∀ notes, tree.handle conduct.noting request (state, notes) =
        (handled.1, handled.2, notes ++ asked)) ∧
      Inquiry request (tree.paths.filter fun path => path.front <+: request.payload) asked
        handled.1 ∧
      ∀ answer, handled.1 = some answer → ∃ path ∈ tree.paths, ∃ reply,
        1 ≤ path.types.length ∧
        path.front = request.payload.take (2 * path.types.length) ∧
        asked.getLast? = some ⟨path.leaf,
          { request with payload := request.payload.drop (2 * path.types.length) }, some reply⟩ ∧
        answer = request.payload.take (2 * path.types.length) ++ reply) ∧
    ∀ (wanted : UInt16) (inner : ι) (nested rest : Branches ι) (body : Request) (before : σ),
      body.payload.length < 2 ∨ nested.handlers (Router.typeOf body.payload) = [] →
        (HandlerTree.node inner nested).handle conduct body before =
            (none, conduct.observe inner body before) ∧
          (Branches.more wanted (.node inner nested) rest).firstAnswer conduct wanted body before =
            rest.firstAnswer conduct wanted body (conduct.observe inner body before) := by
  intro tree handled
  obtain ⟨asked, inquiry, noted⟩ := HandlerTree.recounts conduct tree request state
  refine ⟨HandlerTree.handle_node conduct label branches request state,
    ⟨asked, noted, inquiry, ?_⟩, ?_⟩
  · intro answer answered
    rw [answered] at inquiry
    obtain ⟨path, member, reply, same, last⟩ := inquiry.exists_path
    obtain ⟨present, fits⟩ := List.mem_filter.1 member
    obtain ⟨type, below, deeper⟩ := Branches.exists_under_of_mem present
    have front : path.front = request.payload.take (2 * path.types.length) := by
      have spelled := List.prefix_iff_eq_take.1 (of_decide_eq_true fits)
      rwa [path.length_front] at spelled
    refine ⟨path, present, reply, ?_, front, last, ?_⟩
    · rw [deeper]
      exact Nat.succ_pos _
    · rw [← front]
      exact same
  · intro wanted inner nested rest body before unrouted
    have silent := HandlerTree.handle_unrouted conduct inner before unrouted
    refine ⟨silent, ?_⟩
    simp only [Branches.firstAnswer, if_true, silent]

/-- The first of two nested routers knows no handler for the inner type, so the second one decides,
and both types stand in front of its answer. -/
example :
    let conduct : Conduct Behaviour Unit := { respond := Router.respond }
    let deaf := HandlerTree.node .silent (.more 9 (.leaf .echo) .empty)
    let tree := HandlerTree.node .silent
      (.more 1 deaf (.more 1 (.node .silent (.more 2 (.leaf .reverse) .empty)) .empty))
    let request : Request :=
      { remote := ⟨IpAddress.loopback, 80, 0⟩, header := ⟨6, by decide⟩
        payload := [0, 1, 0, 2, 104, 105] }
    tree.handle conduct request () = (some [0, 1, 0, 2, 105, 104], ()) ∧
      tree.paths.map Path.types = [[1, 9], [1, 2]] := ⟨rfl, rfl⟩

end Handling

end FramedTransport
