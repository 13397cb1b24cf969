/-!
Cancellation tokens and their children.
A token is known by its lineage: its own number, then those of its ancestors.
Cancelling a token cancels every token that descends from it, and no other.
-/

namespace FramedTransport

structure CancelToken where
  lineage : List Nat
deriving DecidableEq, Repr

structure Cancellations where
  issued : Nat := 0
  cancelled : List Nat := []
deriving DecidableEq, Repr

namespace Cancellations

def issueUnder (cancellations : Cancellations) (ancestors : List Nat) :
    CancelToken × Cancellations :=
  (⟨cancellations.issued :: ancestors⟩, { cancellations with issued := cancellations.issued + 1 })

def issue (cancellations : Cancellations) : CancelToken × Cancellations :=
  cancellations.issueUnder []

def child (cancellations : Cancellations) (parent : CancelToken) : CancelToken × Cancellations :=
  cancellations.issueUnder parent.lineage

def cancel (cancellations : Cancellations) (token : CancelToken) : Cancellations :=
  { cancellations with cancelled := token.lineage.take 1 ++ cancellations.cancelled }

def isCancelled (cancellations : Cancellations) (token : CancelToken) : Bool :=
  token.lineage.any cancellations.cancelled.contains

end Cancellations

end FramedTransport
