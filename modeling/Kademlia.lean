import Kademlia.Address.Basic
import Kademlia.Address.Compact
import Kademlia.Address.Text
import Kademlia.Announce.Recency
import Kademlia.Announce.Secrets
import Kademlia.Announce.Store
import Kademlia.Bencode.Reader
import Kademlia.Bencode.Record
import Kademlia.Bencode.Token
import Kademlia.Bencode.Value
import Kademlia.Bytes
import Kademlia.Checksum
import Kademlia.Config
import Kademlia.Disk
import Kademlia.Entropy
import Kademlia.Error
import Kademlia.Host.Basic
import Kademlia.Host.Command
import Kademlia.Host.Notice
import Kademlia.Host.Setup
import Kademlia.Host.World
import Kademlia.Id
import Kademlia.Inflight
import Kademlia.Krpc.Codec
import Kademlia.Krpc.Envelope
import Kademlia.Krpc.Message
import Kademlia.Link
import Kademlia.Link.Graph
import Kademlia.Names
import Kademlia.Network.Basic
import Kademlia.Network.Connection
import Kademlia.Node
import Kademlia.Outbox
import Kademlia.Ports
import Kademlia.Program
import Kademlia.Proofs.Bencode.Reading
import Kademlia.Proofs.Bencode.Token
import Kademlia.Proofs.Text.Utf8
import Kademlia.Snapshot
import Kademlia.Stack.Answer
import Kademlia.Stack.Basic
import Kademlia.Stack.Interact
import Kademlia.Stack.Receive
import Kademlia.Stack.Run
import Kademlia.Stack.Send
import Kademlia.Stack.Wiring
import Kademlia.Table.Basic
import Kademlia.Table.Bucket
import Kademlia.Task
import Kademlia.Text.Blank
import Kademlia.Text.Quoted
import Kademlia.Text.Unprintable
import Kademlia.Text.Utf8
import Kademlia.TrackerClient
import Kademlia.Proofs.Krpc.Envelope
import Kademlia.Proofs.Node
import Kademlia.Proofs.Krpc.RoundTrip
import Kademlia.Proofs.Table.Bucket
import Kademlia.Proofs.Table.Lookup
import Kademlia.Proofs.Table.Invariant
import Kademlia.Proofs.Table.Nodes
import Kademlia.Proofs.Snapshot
import Kademlia.Proofs.Target
import Kademlia.Proofs.Corruption
import Kademlia.Proofs.Table.Run
import Kademlia.Proofs.Table.Refresh
import Kademlia.Proofs.Disk
import Kademlia.Proofs.Stack.Wiring
import Kademlia.Proofs.Stack.Reply
import Kademlia.Proofs.Host.Setup
import Kademlia.Proofs.Host.Restart
import Kademlia.Proofs.Table.Eviction
import Kademlia.Proofs.Stack.Expiry
import Kademlia.Proofs.Inflight
import Kademlia.Proofs.Network.Traffic
import Kademlia.Proofs.Stack.Frame
import Kademlia.Proofs.Stack.Queries
import Kademlia.Proofs.Host.Activation
import Kademlia.Proofs.Host.Commands
import Kademlia.Proofs.Host.Run
import Kademlia.Proofs.Host.Atomicity
import Kademlia.Proofs.Host.Lifecycle
import Kademlia.Proofs.Checksum
import Kademlia.Proofs.Announce.Secrets
import Kademlia.Proofs.Announce.Store
import Kademlia.Proofs.Stack.Service
import Kademlia.Proofs.Stack.Receiving
import Kademlia.Proofs.Stack.Round
import Kademlia.Proofs.Stack.Replacement
import Kademlia.Proofs.Stack.Classification
import Kademlia.Proofs.Stack.Provenance
import Kademlia.Proofs.Table.Holding
import Kademlia.Proofs.Stack.Course
import Kademlia.Proofs.Stack.Refresh
import Kademlia.Proofs.Stack.Portless
import Kademlia.Proofs.Bencode.Size
import Kademlia.Proofs.Krpc.Size
import Kademlia.Proofs.Stack.Fitting
import Kademlia.Proofs.Bencode.Prefix
import Kademlia.Proofs.Stack.Truncation
import Kademlia.Proofs.Krpc.NormalForm
import Kademlia.Proofs.Bencode.Extension
import Kademlia.Proofs.Krpc.Extension
import Kademlia.Proofs.Stack.Responsive
import Kademlia.Proofs.History
import Kademlia.Proofs.Announce.Recency
import Kademlia.Proofs.Announce.Course
import Kademlia.Proofs.Announce.History
import Kademlia.Proofs.Stack.Numbering
import Kademlia.Proofs.Stack.SharedSocket
import Kademlia.Proofs.Stack.Confinement
import Kademlia.Proofs.Host.Separation
import Kademlia.Proofs.Distance
import Kademlia.Proofs.Table.Nearest
import Kademlia.Proofs.Table.Order
import Kademlia.Host.Links
import Kademlia.Ownership
import Kademlia.Proofs.Host.Links
import Kademlia.Proofs.Network.Handles
import Kademlia.Proofs.Host.Ownership
import Kademlia.Proofs.Host.Moves
import Kademlia.Proofs.Host.Handles
import Kademlia.Proofs.Host.Vanished
import Kademlia.Proofs.Announce.Neighbours
import Kademlia.Proofs.Text.Pieces
import Kademlia.Proofs.Ports
import Kademlia.Proofs.Network.Candidates
import Kademlia.Proofs.Host.Negotiation
import Kademlia.Proofs.Stack.Alone
import Kademlia.Proofs.Host.Once
import Kademlia.Proofs.Host.Joining
import Kademlia.Proofs.Compact
import Kademlia.Proofs.Link
import Kademlia.Proofs.Network.Course
import Kademlia.Proofs.Stack.Scheduling
