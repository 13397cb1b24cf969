import FramedTransport.Bytes
import FramedTransport.Race

/-!
A datagram socket as the network makes it behave.
Datagrams arrive whole and in order, and a receive takes one of them, cut to the
room it has. Sends follow a script; what a socket takes of a datagram is all that
it ever sends of it.
-/

namespace FramedTransport

/-- Bytes that travel together, and the address at the other end. -/
structure Datagram where
  bytes : Bytes
  remote : SocketAddress
deriving DecidableEq, Repr

inductive Departure where
  | whole
  | cut (count : Nat)
  | fail (fault : Fault)
deriving DecidableEq, Repr

structure DatagramLink where
  time : Timeline := {}
  arrivals : Script (Except Fault Datagram) := []
  departures : Script Departure := []
  sent : List Datagram := []

namespace DatagramLink

/-- The next datagram, of which at most `room` bytes are seen. Peeking leaves it where it is. -/
def receive (watch : Watch) (room : Nat) (peek : Bool) (link : DatagramLink) :
    Outcome Datagram × DatagramLink :=
  let step := Race.run link.time { watch, source := link.arrivals.thenSilence }
  let rest := step.race.source.dropLast
  let link := { link with time := step.time }
  match step.outcome with
  | .error halt => (.error halt, { link with arrivals := rest })
  | .ok none => (.error .stalled, { link with arrivals := rest })
  | .ok (some (.error fault)) =>
      (.error (.error (.transport watch.operation fault)), { link with arrivals := rest })
  | .ok (some (.ok datagram)) =>
      let arrivals := if peek then { cue := .act (.ok datagram) } :: rest else rest
      (.ok { datagram with bytes := datagram.bytes.take room }, { link with arrivals })

/-- Offers a datagram to the socket; the answer is how much of it has been sent. -/
def send (watch : Watch) (datagram : Datagram) (link : DatagramLink) :
    Outcome Nat × DatagramLink :=
  let step := Race.run link.time { watch, source := link.departures }
  let link := { link with time := step.time, departures := step.race.source }
  let departs (count : Nat) : Outcome Nat × DatagramLink :=
    let bytes := datagram.bytes.take count
    (.ok bytes.length, { link with sent := link.sent ++ [{ datagram with bytes }] })
  match step.outcome with
  | .error halt => (.error halt, link)
  | .ok none | .ok (some .whole) => departs datagram.bytes.length
  | .ok (some (.cut count)) => departs count
  | .ok (some (.fail fault)) => (.error (.error (.transport watch.operation fault)), link)

end DatagramLink

end FramedTransport
