import FramedTransport.Address.Reader
import FramedTransport.Resources
import FramedTransport.Table
import FramedTransport.Timeline

/-!
A host without a network.
Sockets can be bound to any address that is free, but nothing that they send gets
anywhere and nothing ever arrives. What runs on the host shares its engines, each
with resources of its own, and its cancellation tokens.
-/

namespace FramedTransport

structure Host where
  engines : Table Resources
  cancellations : Cancellations := {}
  addresses : Table SocketAddress := {}
  nextPort : Nat := 32768
deriving DecidableEq, Repr

namespace Host

def unreachable : Fault := ⟨.networkUnreachable, "Network is unreachable (os error 101)"⟩

def addressInUse : Fault := ⟨.addressInUse, "Address already in use (os error 98)"⟩

def ofSettings (settings : List (String × Settings)) : Host where
  engines := { entries := settings.map fun (name, settings) => (name, Resources.ofSettings settings) }

/-- The resources of an engine; one that was never set up has the default settings. -/
def resources (name : String) (host : Host) : Resources :=
  (host.engines.find? name).getD (Resources.ofSettings {})

def setResources (name : String) (resources : Resources) (host : Host) : Host :=
  { host with engines := host.engines.insert name resources }

def resolve (text : String) (host : Host) : SocketAddress :=
  match host.addresses.find? text with
  | some address => address
  | none => (SocketAddress.ofText? text).getD { ip := IpAddress.loopback, port := 0 }

/-- The address that a socket gets: port zero asks for a port that nobody has. -/
def bindable (wanted : SocketAddress) (taken : List SocketAddress) (host : Host) :
    Except Fault SocketAddress × Host :=
  if wanted.port = 0 then
    (.ok { wanted with port := UInt16.ofNat host.nextPort },
      { host with nextPort := host.nextPort + 1 })
  else if taken.contains wanted then (.error addressInUse, host)
  else (.ok wanted, host)

def issueToken (host : Host) : CancelToken × Host :=
  let (token, cancellations) := host.cancellations.issue
  (token, { host with cancellations })

def cancel (token : CancelToken) (host : Host) : Host :=
  { host with cancellations := host.cancellations.cancel token }

def isCancelled (token : CancelToken) (host : Host) : Bool := host.cancellations.isCancelled token

def timeOf (token : CancelToken) (cancelAfter : Option Nat) (host : Host) : Timeline :=
  { cancelled := host.isCancelled token, cancelAt := cancelAfter }

def after (token : CancelToken) (time : Timeline) (host : Host) : Host :=
  if time.cancelled then host.cancel token else host

end Host

end FramedTransport
