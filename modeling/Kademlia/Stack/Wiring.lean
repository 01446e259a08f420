import Kademlia.Link

/-!
# The wiring of a stack

A stack has eleven parts, one of each kind, and each part has links to those it
works with.  Which links are wired and which parts are still there is all that
their resolution depends on.
-/

namespace Kademlia

/-- The parts of a stack. -/
inductive Part
  | localNode
  | connection
  | table
  | tracker
  | dispatcher
  | receiver
  | factory
  | taskQueue
  | taskFactory
  | announces
  | tokens
deriving DecidableEq

namespace Part

/-- The name of a part in messages. -/
def name : Part → String
  | localNode => "local_node"
  | connection => "connection"
  | table => "routing_table"
  | tracker => "message_tracker"
  | dispatcher => "message_dispatcher"
  | receiver => "message_receiver"
  | factory => "message_factory"
  | taskQueue => "task_queue"
  | taskFactory => "task_factory"
  | announces => "peer_announce_storage"
  | tokens => "token_tracker"

/-- The parts that a part works with, in the order in which its links are checked. -/
def partners : Part → List Part
  | table => [taskQueue, taskFactory]
  | tracker => [table]
  | dispatcher => [tracker]
  | receiver => [connection, factory, table, tracker]
  | factory => [table, dispatcher, announces, tokens, localNode]
  | taskFactory => [localNode, table, dispatcher, factory, taskQueue]
  | announces => [taskQueue, taskFactory]
  | _ => []

/-- The parts that have links, in the order in which a whole stack is checked. -/
def linked : List Part :=
  [table, tracker, dispatcher, receiver, factory, taskFactory, announces]

end Part

/-- A place for a link: from one part to another one that it works with. -/
structure Wire where
  owner : Part
  target : Part
deriving DecidableEq

namespace Wire

/-- The name of a link in messages. -/
def name (wire : Wire) : String :=
  wire.owner.name ++ "." ++ wire.target.name

/-- The links of a part. -/
def ofPart (part : Part) : List Wire :=
  part.partners.map (⟨part, ·⟩)

/-- All links of a stack. -/
def all : List Wire :=
  Part.linked.flatMap ofPart

end Wire

/-- The links that are wired. -/
structure Wiring where
  wired : List Wire
deriving DecidableEq

namespace Wiring

/-- No link is wired. -/
def none : Wiring :=
  ⟨[]⟩

/-- A link in its present condition. -/
def link (wiring : Wiring) (wire : Wire) : Link Part :=
  if wire ∈ wiring.wired then .wiredTo wire.name wire.target else .unwired wire.name

/-- Wires a link. -/
def connect (wiring : Wiring) (wire : Wire) : Except Error Wiring :=
  ((wiring.link wire).wire wire.target).map fun _ => ⟨wire :: wiring.wired⟩

/-- Fails for the first link of a part that is not wired. -/
def ensure (wiring : Wiring) (part : Part) : Except Error Unit :=
  (Wire.ofPart part).forM fun wire => (wiring.link wire).ensureWired

/-- Fails for the first link of a stack that is not wired. -/
def ensureAll (wiring : Wiring) : Except Error Unit :=
  Part.linked.forM wiring.ensure

/-- The links of one part only, as a copy of that part has them. -/
def ofPart (wiring : Wiring) (part : Part) : Wiring :=
  ⟨wiring.wired.filter (·.owner = part)⟩

@[simp]
theorem link_none (wire : Wire) : none.link wire = .unwired wire.name := by
  simp [link, none]

end Wiring

end Kademlia
