import FramedTransport.Error

/-!
How far a transfer of known length has come.
A completion of zero bytes means that the peer has gone; one that claims more
than is missing is refused. Neither changes the progress.
-/

namespace FramedTransport

structure Progress where
  expected : Nat
  transferred : Nat := 0
  transferred_le : transferred ≤ expected := by omega
deriving DecidableEq, Repr

namespace Progress

def start (expected : Nat) : Progress := { expected }

def remaining (progress : Progress) : Nat := progress.expected - progress.transferred

def isComplete (progress : Progress) : Bool := progress.transferred == progress.expected

def advance (progress : Progress) (count : Nat) : Except TransportError Progress :=
  if count = 0 then
    .error .connectionClosed
  else if room : count ≤ progress.remaining then
    .ok
      { expected := progress.expected
        transferred := progress.transferred + count
        transferred_le := by
          have kept := progress.transferred_le
          simp only [remaining] at room
          omega }
  else
    .error (.protocolViolation
      s!"transfer of {count} bytes overruns the {progress.remaining} remaining")

theorem advance_ok {progress next : Progress} {count : Nat}
    (accepted : progress.advance count = .ok next) :
    0 < count ∧ next.expected = progress.expected ∧
      next.transferred = progress.transferred + count := by
  unfold advance at accepted
  split at accepted
  · cases accepted
  · split at accepted
    · cases accepted
      refine ⟨?_, rfl, rfl⟩
      omega
    · cases accepted

end Progress

end FramedTransport
