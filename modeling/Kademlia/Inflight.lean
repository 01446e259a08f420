import Kademlia.Krpc.Message

/-!
# Queries that wait for an answer

The queries that were sent and not answered yet, the oldest first.  An answer
belongs to the first one with its transaction id that was sent to where it comes
from.
-/

namespace Kademlia

/-- A query that was sent; times are in milliseconds. -/
structure Query where
  transactionId : UInt16
  destination : Address
  remote : Option Id
  method : String
  sentAt : Nat
  timeout : Nat
deriving DecidableEq

namespace Query

/-- Whether a message with this transaction id, from this address, answers a
query.  A query to an unspecified IP may be answered from any. -/
def isAnsweredBy (query : Query) (transactionId : UInt16) (source : Address) : Bool :=
  query.transactionId = transactionId && query.destination.port = source.port &&
    (query.destination.ip.isUnspecified || query.destination.ip = source.ip)

/-- Whether a query has waited for as long as it may. -/
def isExpired (query : Query) (now : Nat) : Bool :=
  query.timeout ≤ now - query.sentAt

end Query

/-- The queries that wait, the oldest first. -/
abbrev Inflight := List Query

namespace Inflight

/-- Adds a query that was just sent. -/
def add (inflight : Inflight) (query : Query) : Inflight :=
  inflight ++ [query]

/-- Takes out the first query that a message answers. -/
def answer (transactionId : UInt16) (source : Address) : Inflight → Option (Query × Inflight)
  | [] => none
  | query :: rest =>
      if query.isAnsweredBy transactionId source then some (query, rest)
      else (answer transactionId source rest).map fun (found, others) => (found, query :: others)

/-- The queries that have waited for as long as they may, and the others. -/
def expire (now : Nat) (inflight : Inflight) : List Query × Inflight :=
  inflight.partition (·.isExpired now)

end Inflight

end Kademlia
