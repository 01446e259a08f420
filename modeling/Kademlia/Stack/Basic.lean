import Kademlia.Announce.Secrets
import Kademlia.Announce.Store
import Kademlia.Inflight
import Kademlia.Network.Connection
import Kademlia.Outbox
import Kademlia.Table.Basic
import Kademlia.Task

/-!
# Stacks

A stack is a DHT node on one address family: the state of its parts, the wiring
between them, and which of them are gone.  A link to a part that is gone no
longer resolves.
-/

namespace Kademlia

/-- The state of a stack. -/
structure Stack where
  localNode : LocalNode
  connection : Connection
  table : RoutingTable
  inflight : Inflight
  outbox : Outbox
  nextTransaction : UInt16
  tasks : TaskQueue
  taskTimeout : Nat
  announces : AnnounceStore
  secrets : Secrets
  wiring : Wiring
  gone : List Part
deriving DecidableEq

namespace Stack

/-- The family of a stack. -/
def family (stack : Stack) : Family :=
  stack.connection.family

/-! ## Making a stack -/

/-- A stack around a socket, with nothing wired.  Its secrets and then its first
transaction id are drawn. -/
def assemble (localNode : LocalNode) (connection : Connection) (timeout now : Nat)
    (entropy : Entropy) : Stack × Entropy :=
  let (secrets, entropy) := Secrets.draw now entropy
  let (nextTransaction, entropy) := entropy.word
  ({ localNode
     connection
     table := .empty connection.family localNode.id
     inflight := []
     outbox := .empty timeout
     nextTransaction
     tasks := .empty
     taskTimeout := timeout
     announces := .empty
     secrets
     wiring := .none
     gone := [] }, entropy)

/-! ## Links -/

/-- Whether a part is still there. -/
def has (stack : Stack) (part : Part) : Bool :=
  part ∉ stack.gone

/-- A part, if it is still there. -/
def owned (stack : Stack) (part : Part) : Option Part :=
  if stack.has part then some part else none

/-- Lets go of a part; the connection takes its handle to the socket with it.  A
part that is gone already stays so, and nothing else happens. -/
def dropPart (stack : Stack) (network : Network) (part : Part) : Network × Stack :=
  if stack.has part then
    (if part = .connection then network.release stack.connection.localAddress else network,
      { stack with gone := part :: stack.gone })
  else (network, stack)

/-- Wires a link. -/
def wire (stack : Stack) (wire : Wire) : Except Error Stack :=
  (stack.wiring.connect wire).map fun wiring => { stack with wiring }

/-- Wires every link. -/
def wireAll (stack : Stack) : Except Error Stack :=
  Wire.all.foldlM Stack.wire stack

/-- Fails unless a link, in some copy of the wiring, gives its part. -/
def requireVia (stack : Stack) (links : Wiring) (owner target : Part) : Except Error Unit :=
  ((links.link ⟨owner, target⟩).require stack.owned).map fun _ => ()

/-- Fails unless a link gives its part. -/
def require (stack : Stack) (owner target : Part) : Except Error Unit :=
  stack.requireVia stack.wiring owner target

/-- Whether a link gives its part. -/
def resolves (stack : Stack) (owner target : Part) : Bool :=
  ((stack.wiring.link ⟨owner, target⟩).get stack.owned).isSome

/-! ## Tasks -/

/-- Makes a task, with a copy of the links as they are now. -/
def task (stack : Stack) (job : Job) : Task :=
  ⟨stack.wiring.ofPart .taskFactory, stack.taskTimeout, job⟩

/-- Queues tasks. -/
def addTasks (stack : Stack) (kind : QueueKind) (tasks : List Task) : Stack :=
  { stack with tasks := stack.tasks.add kind tasks }

/-- Makes a task and queues it. -/
def schedule (stack : Stack) (kind : QueueKind) (job : Job) : Stack :=
  stack.addTasks kind [stack.task job]

/-! ## The routing table -/

/-- Adds a node to the table; says whether it did.  When the bucket is full, its
oldest node is to be pinged. -/
def addNode (stack : Stack) (now : Nat) (node : Node) : Bool × Stack :=
  let (insertion, table) := stack.table.insert now node
  let stack := { stack with table }
  match insertion with
  | .stored => (true, stack)
  | .refused => (false, stack)
  | .deferred oldest =>
      if stack.resolves .table .taskQueue && stack.resolves .table .taskFactory then
        (false, stack.schedule .immediate (.ping oldest.address (some oldest.id)))
      else (false, stack)

/-- Removes a node from the table; says whether it was there. -/
def removeNode (stack : Stack) (id : Id) : Bool × Stack :=
  let (removed, table) := stack.table.remove id
  (removed, { stack with table })

/-! ## Queries that wait -/

/-- Takes out the queries that have waited for too long, and removes the nodes
that they asked from the table. -/
def expire (stack : Stack) (now : Nat) : List Query × Stack :=
  let (expired, inflight) := Inflight.expire now stack.inflight
  let stack := { stack with inflight }
  let evict (stack : Stack) (id : Id) := (stack.removeNode id).2
  if stack.resolves .tracker .table then
    (expired, (expired.filterMap Query.remote).foldl evict stack)
  else (expired, stack)

/-! ## Announced peers -/

/-- Looks for the peers of an info hash from now on. -/
def want (stack : Stack) (infoHash : InfoHash) : Except Error Unit × Stack :=
  let stack := { stack with announces := stack.announces.want infoHash }
  match
    do
      stack.require .announces .taskFactory
      stack.require .announces .taskQueue
  with
  | .error error => (.error error, stack)
  | .ok _ => (.ok (), stack.schedule .periodic2 (.peerLookup infoHash))

end Stack

end Kademlia
