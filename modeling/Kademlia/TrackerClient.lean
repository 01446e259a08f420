import Kademlia.Error

/-!
# Replies of UDP trackers

A host asks UDP trackers over the socket of its IPv4 stack.  What arrives there
and is no DHT message may be a tracker's reply, which is known by its
transaction id and by where it comes from.
-/

namespace Kademlia

/-- A request to a tracker; the time is in milliseconds. -/
structure TrackerRequest where
  transactionId : Nat
  tracker : Address
  sentAt : Nat
deriving DecidableEq

/-- The requests that wait for a reply, one for each transaction id, and how many
replies were claimed so far. -/
structure TrackerClient where
  pending : List TrackerRequest
  replies : Nat
deriving DecidableEq

namespace TrackerClient

/-- How long a request waits, in milliseconds. -/
def timeout : Nat :=
  15000

/-- No requests. -/
def empty : TrackerClient :=
  ⟨[], 0⟩

/-- The requests other than the one of a transaction id. -/
def others (client : TrackerClient) (transactionId : Nat) : List TrackerRequest :=
  client.pending.filter (·.transactionId ≠ transactionId)

/-- Records a request, in place of any other one of its transaction id. -/
def request (client : TrackerClient) (now transactionId : Nat) (tracker : Address) :
    TrackerClient :=
  { client with pending := client.others transactionId ++ [⟨transactionId, tracker, now⟩] }

/-- The transaction id of a reply: its second four octets. -/
def transactionIdOf (reply : Bytes) : Nat :=
  Bytes.toNat ((reply.drop 4).take 4)

/-- Claims a datagram that is the reply to a request; says whether it was. -/
def claim (client : TrackerClient) (reply : Bytes) (source : Address) : Bool × TrackerClient :=
  let transactionId := transactionIdOf reply
  if 8 ≤ reply.length ∧
      client.pending.any fun request =>
        request.transactionId = transactionId && request.tracker = source then
    (true, ⟨client.others transactionId, client.replies + 1⟩)
  else (false, client)

/-- Forgets requests that have waited for too long. -/
def expire (client : TrackerClient) (now : Nat) : TrackerClient :=
  { client with pending := client.pending.filter fun request => now - request.sentAt < timeout }

end TrackerClient

end Kademlia
