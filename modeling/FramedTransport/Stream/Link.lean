import FramedTransport.Bytes
import FramedTransport.Race

/-!
A stream socket as its peer and its kernel make it behave.
Reads, writes, flushes and the shutdown follow a script each; the link keeps the
bytes it has taken and the calls that succeeded. A read takes from the front of
the data that has arrived, and what does not fit stays for the next read.
-/

namespace FramedTransport

inductive ReadAction where
  | data (bytes : Bytes)
  | fail (fault : Fault)
deriving DecidableEq, Repr

/-- `overstate` claims more bytes than it was offered. -/
inductive WriteAction where
  | accept (count : Nat)
  | overstate (surplus : Nat)
  | fail (fault : Fault)
deriving DecidableEq, Repr

inductive SyncAction where
  | succeed
  | fail (fault : Fault)
deriving DecidableEq, Repr

inductive SinkCall where
  | wrote (count : Nat)
  | flushed
  | shutDown
deriving DecidableEq, Repr

structure Link where
  time : Timeline := {}
  reads : Script ReadAction := []
  writes : Script WriteAction := []
  flushes : Script SyncAction := []
  shutdowns : Script SyncAction := []
  written : Bytes := []
  calls : List SinkCall := []
deriving DecidableEq, Repr

namespace Link

/-- At most `room` bytes of what has arrived; none at the end of the stream. -/
def read (watch : Watch) (room : Nat) (link : Link) : Outcome Bytes × Link :=
  let step := Race.run link.time { watch, source := link.reads }
  let rest := step.race.source
  let link := { link with time := step.time }
  match step.outcome with
  | .error halt => (.error halt, { link with reads := rest })
  | .ok none => (.ok [], { link with reads := rest })
  | .ok (some (.fail fault)) =>
      (.error (.error (.transport watch.operation fault)), { link with reads := rest })
  | .ok (some (.data bytes)) =>
      let left := if bytes.length ≤ room then rest
        else { cue := .act (.data (bytes.drop room)) } :: rest
      (.ok (bytes.take room), { link with reads := left })

/-- Offers bytes to the socket; the count is what it claims to have taken. -/
def write (watch : Watch) (offered : Bytes) (link : Link) : Outcome Nat × Link :=
  let step := Race.run link.time { watch, source := link.writes }
  let link := { link with time := step.time, writes := step.race.source }
  let taking (count : Nat) : Outcome Nat × Link :=
    let taken := offered.take count
    (.ok taken.length,
      { link with
        written := link.written ++ taken
        calls := link.calls ++ [.wrote taken.length] })
  match step.outcome with
  | .error halt => (.error halt, link)
  | .ok none => taking offered.length
  | .ok (some (.accept count)) => taking count
  | .ok (some (.overstate surplus)) => (.ok (offered.length + surplus), link)
  | .ok (some (.fail fault)) => (.error (.error (.transport watch.operation fault)), link)

def flush (watch : Watch) (link : Link) : Outcome Unit × Link :=
  let step := Race.run link.time { watch, source := link.flushes }
  let link := { link with time := step.time, flushes := step.race.source }
  match step.outcome with
  | .error halt => (.error halt, link)
  | .ok (some (.fail fault)) => (.error (.error (.transport watch.operation fault)), link)
  | .ok _ => (.ok (), { link with calls := link.calls ++ [.flushed] })

def shutdown (watch : Watch) (link : Link) : Outcome Unit × Link :=
  let step := Race.run link.time { watch, source := link.shutdowns }
  let link := { link with time := step.time, shutdowns := step.race.source }
  match step.outcome with
  | .error halt => (.error halt, link)
  | .ok (some (.fail fault)) => (.error (.error (.transport watch.operation fault)), link)
  | .ok _ => (.ok (), { link with calls := link.calls ++ [.shutDown] })

def readSize : ReadAction → Nat
  | .data bytes => bytes.length
  | .fail _ => 0

def unread (link : Link) : Nat := Script.weight readSize link.reads

def arrived : Outcome Bytes → Nat
  | .ok received => received.length
  | .error _ => 0

theorem unread_read (watch : Watch) (room : Nat) (link : Link) :
    (link.read watch room).2.unread + arrived (link.read watch room).1 ≤ link.unread := by
  have raced := Race.weight_run readSize link.time { watch, source := link.reads }
  unfold read unread arrived
  cases decided : (Race.run link.time { watch, source := link.reads }).verdict with
  | none => simp_all [Race.Step.outcome, Race.verdictWeight]
  | some verdict =>
      cases verdict with
      | timedOut => simp_all [Race.Step.outcome, Race.verdictWeight]
      | cancelled => simp_all [Race.Step.outcome, Race.verdictWeight]
      | ready value =>
          cases value with
          | none => simp_all [Race.Step.outcome, Race.verdictWeight]
          | some action =>
              cases action with
              | fail fault =>
                  simp_all [Race.Step.outcome, Race.verdictWeight]
                  omega
              | data bytes =>
                  simp only [decided, Race.Step.outcome, Race.verdictWeight, readSize] at raced ⊢
                  split
                  · rename_i fits
                    have taken : (bytes.take room).length ≤ bytes.length :=
                      List.length_take_le' room bytes
                    omega
                  · rename_i long
                    have taken : (bytes.take room).length ≤ room := List.length_take_le room bytes
                    simp only [Script.weight, readSize, List.length_drop]
                    omega

theorem unread_write (watch : Watch) (offered : Bytes) (link : Link) :
    (link.write watch offered).2.unread = link.unread := by
  unfold write unread
  dsimp only
  split <;> rfl

theorem unread_flush (watch : Watch) (link : Link) :
    (link.flush watch).2.unread = link.unread := by
  unfold flush unread
  dsimp only
  split <;> rfl

end Link

end FramedTransport
