import FramedTransport.Handler

/-!
Routing by type.
The first two bytes of a payload, most significant first, are its type; the
handlers of that type are asked in the order of their registration until one
answers, and the answer carries the type of its request. A dispatch works on the
router it was given, whatever its handlers do to later versions of it.
-/

namespace FramedTransport

structure Router (ι : Type) where
  routes : List (UInt16 × List ι) := []
deriving DecidableEq, Repr

namespace Router

variable {ι : Type}

def typeSize : Nat := 2

def encode (type : UInt16) (body : Bytes) : Bytes :=
  Bytes.bigEndian typeSize type.toNat ++ body

def split (payload : Bytes) : Option (UInt16 × Bytes) :=
  if payload.length < typeSize then none
  else some (UInt16.ofNat (Bytes.number (payload.take typeSize)), payload.drop typeSize)

def handlers (router : Router ι) (type : UInt16) : List ι :=
  match router.routes.find? fun route => route.1 == type with
  | some route => route.2
  | none => []

def count (router : Router ι) (type : UInt16) : Nat := (router.handlers type).length

def setHandlers (router : Router ι) (type : UInt16) (handlers : List ι) : Router ι :=
  let others := router.routes.filter fun route => route.1 != type
  { routes := if handlers.isEmpty then others else (type, handlers) :: others }

def register (router : Router ι) (type : UInt16) (handler : ι) : Router ι :=
  router.setHandlers type (router.handlers type ++ [handler])

/-- Removes every registration of one handler under a type and tells whether there was any. -/
def deregister [DecidableEq ι] (router : Router ι) (type : UInt16) (handler : ι) :
    Bool × Router ι :=
  let before := router.handlers type
  let kept := before.filter fun other => other ≠ handler
  (kept.length != before.length, router.setHandlers type kept)

/-- The first answer among some handlers; those after it are not asked. -/
def firstAnswer {σ : Type} (call : ι → Handler σ) : List ι → Handler σ
  | [], _, state => (none, state)
  | handler :: rest, request, state =>
      match call handler request state with
      | (some answer, state) => (some answer, state)
      | (none, state) => firstAnswer call rest request state

def dispatch {σ : Type} (call : ι → Handler σ) (router : Router ι) : Handler σ :=
  fun request state =>
    match split request.payload with
    | none => (none, state)
    | some (type, body) =>
        let (answer, state) :=
          firstAnswer call (router.handlers type) { request with payload := body } state
        (answer.map (encode type), state)

end Router

end FramedTransport
