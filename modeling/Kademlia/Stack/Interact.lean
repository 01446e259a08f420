import Kademlia.Stack.Receive
import Kademlia.Stack.Run
import Kademlia.Stack.Send
import Kademlia.TrackerClient

/-!
# One round of a stack

A round receives what waits on the socket, runs one task of each queue, gives up
on queries that have waited for too long, and sends what is queued.  What is no
message is offered to the tracker client, if the socket is shared with one.
-/

namespace Kademlia.Stack

/-- How many datagrams a round receives at most. -/
def maxReceived : Nat :=
  64

/-- Receives up to a number of datagrams. -/
def drain (now : Nat) :
    Nat → Network → Option TrackerClient → Stack → Network × Option TrackerClient × Stack
  | 0, network, client, stack => (network, client, stack)
  | budget + 1, network, client, stack =>
      match stack.receive now network with
      | (.error _, network, stack) => (network, client, stack)
      | (.ok .nothing, network, stack) => (network, client, stack)
      | (.ok (.foreign bytes source), network, stack) =>
          drain now budget network (client.map fun client => (client.claim bytes source).2) stack
      | (.ok _, network, stack) => drain now budget network client stack

/-- A round: receive, run tasks, expire, send. -/
def interact (stack : Stack) (now : Nat) (entropy : Entropy) (network : Network)
    (client : Option TrackerClient) : Entropy × Network × Option TrackerClient × Stack :=
  let (network, client, stack) := drain now maxReceived network client stack
  let (_, entropy, stack) := stack.runReady now entropy
  let (_, stack) := stack.expire now
  let (_, network, stack) := stack.sendAll now network
  (entropy, network, client.map (·.expire now), stack)

end Kademlia.Stack
