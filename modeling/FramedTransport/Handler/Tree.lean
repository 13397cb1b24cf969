import FramedTransport.Handler.Router

/-!
Routers inside routers.
An inner node strips one type from the payload and puts it back in front of the
answer, so the types of a path through the tree appear in order on both sides.
-/

namespace FramedTransport

mutual

inductive HandlerTree (ι : Type) where
  | leaf (handler : ι)
  | node (label : ι) (branches : Branches ι)

/-- The registrations of an inner node, in order. -/
inductive Branches (ι : Type) where
  | empty
  | more (type : UInt16) (tree : HandlerTree ι) (rest : Branches ι)

end

/-- How leaves answer, and what inner nodes take note of before they route. -/
structure Conduct (ι σ : Type) where
  respond : ι → Handler σ
  observe : ι → Request → σ → σ := fun _ _ state => state

mutual

def HandlerTree.handle {ι σ : Type} (conduct : Conduct ι σ) : HandlerTree ι → Handler σ
  | .leaf handler, request, state => conduct.respond handler request state
  | .node label branches, request, state =>
      let state := conduct.observe label request state
      match Router.split request.payload with
      | none => (none, state)
      | some (type, body) =>
          let (answer, state) :=
            branches.firstAnswer conduct type { request with payload := body } state
          (answer.map (Router.encode type), state)

def Branches.firstAnswer {ι σ : Type} (conduct : Conduct ι σ) :
    Branches ι → UInt16 → Handler σ
  | .empty, _, _, state => (none, state)
  | .more type tree rest, wanted, request, state =>
      if type = wanted then
        match tree.handle conduct request state with
        | (some answer, state) => (some answer, state)
        | (none, state) => rest.firstAnswer conduct wanted request state
      else rest.firstAnswer conduct wanted request state

end

def Branches.ofList {ι : Type} : List (UInt16 × HandlerTree ι) → Branches ι
  | [] => .empty
  | (type, tree) :: rest => .more type tree (ofList rest)

end FramedTransport
