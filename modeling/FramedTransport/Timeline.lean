/-!
The time of one connection, in whole milliseconds.
Time stands still while anything can run and jumps to the next moment at which
something is due when everything waits. The cancellation of the connection is
part of its time: it may have happened, or be planned for a moment, and a
planned one comes into force only once nothing else can run at that moment.
-/

namespace FramedTransport

structure Timeline where
  now : Nat := 0
  cancelled : Bool := false
  cancelAt : Option Nat := none
deriving DecidableEq, Repr

namespace Timeline

def cancel (time : Timeline) : Timeline := { time with cancelled := true }

/-- Whether a planned cancellation has come and is not yet in force. -/
def cancelDue (time : Timeline) : Bool :=
  match time.cancelAt with
  | some moment => moment ≤ time.now
  | none => false

def fire (time : Timeline) : Timeline := { time with cancelled := true, cancelAt := none }

def sleep (time : Timeline) (millis : Nat) : Timeline :=
  let target := time.now + millis
  match time.cancelAt with
  | some moment =>
      if moment < target then { time.fire with now := target } else { time with now := target }
  | none => { time with now := target }

end Timeline

end FramedTransport
