import FramedTransport.Datagram.Server
import FramedTransport.Launch
import FramedTransport.Stream.Session

/-!
The service of the command line: every payload comes back as it went in.
One peer is served from the bytes it has sent, as a stream or as one datagram,
with the settings of a configuration.
-/

namespace FramedTransport

namespace Echo

def handler : Handler Unit := fun request state => (some request.payload, state)

/-- What a peer that sent `input` and then closed its side is sent back, and how that ended. -/
def stream (settings : Settings) (remote : SocketAddress) (input : Bytes) :
    Outcome SessionEnd × Bytes :=
  let cancel := ({} : Cancellations).issue.1
  let (session, resources) := Session.start remote cancel (Resources.ofSettings settings)
  let link : Link := { reads := [{ cue := .act (.data input) }] }
  let (outcome, _, exchange) := session.run handler () { resources, link }
  (outcome, exchange.link.written)

def datagram (settings : Settings) (address remote : SocketAddress) (input : Bytes) :
    List Datagram :=
  let endpoint : Endpoint := { address, cancel := ({} : Cancellations).issue.1 }
  let (server, resources) := DatagramServer.start endpoint 1 (Resources.ofSettings settings)
  let room := settings.maxDatagramSize + 1
  let arrival : Outcome Datagram := .ok { bytes := input.take room, remote }
  let (server, exchange) := server.complete 0 arrival { resources, link := {} }
  let (_, _, exchange) := server.join handler 0 () exchange
  exchange.link.sent

end Echo

def Configuration.reply (configuration : Configuration) (input : Bytes) : Bytes :=
  let { listenAddress, transport, settings, .. } := configuration
  match transport with
  | .stream => (Echo.stream settings listenAddress input).2
  | .datagram => (Echo.datagram settings listenAddress listenAddress input).flatMap (·.bytes)

end FramedTransport
