import Kademlia.Stack.Wiring
import Kademlia.Id

/-!
# Tasks and their queues

A task is work to be done later on a stack.  It carries a copy of the links that
its maker had at that time.  Tasks wait in three queues, of which each gives up
its first one at a time.
-/

namespace Kademlia

/-- What a task does. -/
inductive Job
  | ping (destination : Address) (remote : Option Id)
  | nodeLookup (target : Id) (contacts : List Address)
  | bucketRefresh (force : Bool)
  | peerLookup (infoHash : InfoHash)
deriving DecidableEq

/-- The name of a kind of task. -/
def Job.name : Job → String
  | ping .. => "ping"
  | nodeLookup .. => "node_lookup"
  | bucketRefresh _ => "bucket_refresh"
  | peerLookup _ => "peer_lookup"

/-- Work with the links it is done by, and for how many milliseconds its queries
wait. -/
structure Task where
  links : Wiring
  timeout : Nat
  job : Job
deriving DecidableEq

/-- The queues that tasks wait in. -/
inductive QueueKind
  | periodic1
  | periodic2
  | immediate
deriving DecidableEq

/-- The tasks that wait, each queue in order. -/
structure TaskQueue where
  periodic1 : List Task
  periodic2 : List Task
  immediate : List Task
deriving DecidableEq

namespace TaskQueue

/-- No tasks. -/
def empty : TaskQueue :=
  ⟨[], [], []⟩

/-- The tasks in a queue. -/
def get (queue : TaskQueue) : QueueKind → List Task
  | .periodic1 => queue.periodic1
  | .periodic2 => queue.periodic2
  | .immediate => queue.immediate

/-- Appends tasks to a queue. -/
def add (queue : TaskQueue) (kind : QueueKind) (tasks : List Task) : TaskQueue :=
  match kind with
  | .periodic1 => { queue with periodic1 := queue.periodic1 ++ tasks }
  | .periodic2 => { queue with periodic2 := queue.periodic2 ++ tasks }
  | .immediate => { queue with immediate := queue.immediate ++ tasks }

/-- Takes the first task of each queue. -/
def takeReady (queue : TaskQueue) : List Task × TaskQueue :=
  (queue.periodic1.take 1 ++ queue.periodic2.take 1 ++ queue.immediate.take 1,
    ⟨queue.periodic1.drop 1, queue.periodic2.drop 1, queue.immediate.drop 1⟩)

/-- Whether no task waits. -/
def isEmpty (queue : TaskQueue) : Bool :=
  queue.periodic1.isEmpty && queue.periodic2.isEmpty && queue.immediate.isEmpty

end TaskQueue

end Kademlia
