import FramedTransport.Address
import FramedTransport.Address.Reader
import FramedTransport.Buffer
import FramedTransport.Bytes
import FramedTransport.Cancellation
import FramedTransport.CommandLine
import FramedTransport.Datagram.Endpoint
import FramedTransport.Datagram.Host
import FramedTransport.Datagram.Link
import FramedTransport.Datagram.Server
import FramedTransport.Digits
import FramedTransport.Duration
import FramedTransport.Duration.Reader
import FramedTransport.Echo
import FramedTransport.Error
import FramedTransport.Frame
import FramedTransport.Frame.Delivery
import FramedTransport.Frame.Desk
import FramedTransport.Frame.Feed
import FramedTransport.Frame.Incoming
import FramedTransport.Frame.Outgoing
import FramedTransport.Handler
import FramedTransport.Handler.Behaviour
import FramedTransport.Handler.Roster
import FramedTransport.Handler.Router
import FramedTransport.Handler.Tree
import FramedTransport.Host
import FramedTransport.Launch
import FramedTransport.Main
import FramedTransport.Pool
import FramedTransport.Pool.Audit
import FramedTransport.Pool.Buffers
import FramedTransport.Pool.Holdings
import FramedTransport.Progress
import FramedTransport.Proofs.Buffers
import FramedTransport.Proofs.Pieces
import FramedTransport.Proofs.Reading
import FramedTransport.Proofs.Traffic
import FramedTransport.Proofs.Wire
import FramedTransport.Race
import FramedTransport.Resources
import FramedTransport.Resources.Custody
import FramedTransport.Script
import FramedTransport.Settings
import FramedTransport.Settings.Document
import FramedTransport.Settings.Quoted
import FramedTransport.Settings.Reader
import FramedTransport.Stream.Acceptance
import FramedTransport.Stream.Connection
import FramedTransport.Stream.Desk
import FramedTransport.Stream.Exchange
import FramedTransport.Stream.Host
import FramedTransport.Stream.Link
import FramedTransport.Stream.Receiver
import FramedTransport.Stream.Sender
import FramedTransport.Stream.Session
import FramedTransport.Stream.Transfer
import FramedTransport.Table
import FramedTransport.Ticket
import FramedTransport.Timeline
import FramedTransport.Proofs.Transfers
import FramedTransport.Proofs.Operations
import FramedTransport.Proofs.Halves
import FramedTransport.Proofs.Receiving
import FramedTransport.Proofs.Sending
import FramedTransport.Proofs.Serving
import FramedTransport.Proofs.Accounts
import FramedTransport.Proofs.Holders
import FramedTransport.Proofs.Repaying
import FramedTransport.Proofs.Deadlines
import FramedTransport.Proofs.Promptness
import FramedTransport.Proofs.Racing
import FramedTransport.Proofs.Budgets
import FramedTransport.Proofs.Pacing
import FramedTransport.Proofs.Horizon
import FramedTransport.Proofs.Sockets
import FramedTransport.Proofs.Endings
import FramedTransport.Proofs.Tracing
import FramedTransport.Proofs.Survival
import FramedTransport.Proofs.Dialogue
import FramedTransport.Proofs.Parting
import FramedTransport.Proofs.Silence
import FramedTransport.Proofs.Violations
import FramedTransport.Proofs.Codec
import FramedTransport.Proofs.Instances
import FramedTransport.Proofs.Conservation
import FramedTransport.Proofs.Tickets
import FramedTransport.Proofs.Datagrams
import FramedTransport.Proofs.Replenishing
import FramedTransport.Proofs.Outstanding
import FramedTransport.Proofs.Handling
import FramedTransport.Proofs.Attendance
import FramedTransport.Proofs.Bursts
import FramedTransport.Proofs.Admission
import FramedTransport.Proofs.Lifecycle
import FramedTransport.Proofs.Streams
import FramedTransport.Proofs.Recycled
import FramedTransport.Proofs.Twins
import FramedTransport.Proofs.Histories
import FramedTransport.Proofs.Routing
import FramedTransport.Proofs.Registry
import FramedTransport.Proofs.Departures
import FramedTransport.Proofs.Arrivals
import FramedTransport.Proofs.Rosters
import FramedTransport.Proofs.Nesting
import FramedTransport.Proofs.Usage
import FramedTransport.Proofs.Growth
import FramedTransport.Proofs.Exposure
import FramedTransport.Proofs.Returns
import FramedTransport.Proofs.Emission
import FramedTransport.Proofs.Retention
import FramedTransport.Proofs.Circulation
import FramedTransport.Proofs.Custodies
import FramedTransport.Proofs.Finishing
