import Kademlia.Krpc.Message

/-!
# Messages to be sent
-/

namespace Kademlia

/-- A message to be sent; for a query, also which node is asked, if that is
known, and for how many milliseconds it may wait. -/
structure Outgoing where
  message : Message
  destination : Address
  remote : Option Id
  timeout : Nat
deriving DecidableEq

/-- The messages to be sent, in order, and how long a query waits when nothing
else is said. -/
structure Outbox where
  queue : List Outgoing
  timeout : Nat
deriving DecidableEq

namespace Outbox

/-- Nothing to be sent. -/
def empty (timeout : Nat) : Outbox :=
  ⟨[], timeout⟩

/-- Queues a message that waits for a given time. -/
def addWithTimeout (outbox : Outbox) (message : Message) (destination : Address)
    (remote : Option Id) (timeout : Nat) : Outbox :=
  { outbox with queue := outbox.queue ++ [⟨message, destination, remote, timeout⟩] }

/-- Queues a message that waits for as long as is usual. -/
def add (outbox : Outbox) (message : Message) (destination : Address) (remote : Option Id) :
    Outbox :=
  outbox.addWithTimeout message destination remote outbox.timeout

/-- How many messages are to be sent. -/
def count (outbox : Outbox) : Nat :=
  outbox.queue.length

end Outbox

end Kademlia
