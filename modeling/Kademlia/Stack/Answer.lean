import Kademlia.Krpc.Codec
import Kademlia.Stack.Basic

/-!
# Queries made and answered

A stack numbers its own queries in turn.  It answers a query from the state of
its parts, an announce only under a token that it gave to the same address
before, and puts the answer among the messages to be sent.
-/

namespace Kademlia.Stack

/-- Numbers a query. -/
def query (stack : Stack) (request : Request) : Message × Stack :=
  (⟨stack.nextTransaction, .request request⟩,
    { stack with nextTransaction := stack.nextTransaction + 1 })

/-- Queues a message. -/
def enqueue (stack : Stack) (message : Message) (destination : Address) (remote : Option Id) :
    Stack :=
  { stack with outbox := stack.outbox.add message destination remote }

/-- The address that an announce is for: the one it comes from, or the same IP
with the port that it names. -/
def announcedPeer (source : Address) (port : UInt16) (impliedPort : Bool) : Address :=
  if impliedPort then source else ⟨source.ip, port⟩

/-- The answer to a query from an address. -/
def answer (stack : Stack) (now : Nat) (request : Request) (source : Address) :
    Except Error (Body × Stack) := do
  stack.require .factory .localNode
  let responder := stack.localNode.id
  match request with
  | .ping _ => pure (.response (.ping responder), stack)
  | .findNode _ target =>
      stack.require .factory .table
      pure (.response (.findNode responder (stack.table.closest target)), stack)
  | .getPeers _ infoHash =>
      stack.require .factory .tokens
      stack.require .factory .table
      stack.require .factory .announces
      let (peers, announces) := stack.announces.get infoHash
      pure
        (.response
          (.getPeers responder (stack.secrets.generate infoHash source)
            (stack.table.closest infoHash) peers),
          { stack with announces })
  | .announcePeer _ infoHash port impliedPort token =>
      stack.require .factory .tokens
      if stack.secrets.accepts infoHash source token then
        stack.require .factory .announces
        let peer := announcedPeer source port impliedPort
        pure
          (.response (.ping responder),
            { stack with announces := stack.announces.add now infoHash peer })
      else pure (.error 203 "Bad token", stack)

/-- Answers a query: the answer is queued under the query's transaction id. -/
def handleRequest (stack : Stack) (now : Nat) (request : Request) (transactionId : UInt16)
    (source : Address) : Except Error Unit × Stack :=
  match stack.answer now request source with
  | .error error => (.error error, stack)
  | .ok (body, stack) =>
      match stack.require .factory .dispatcher with
      | .error error => (.error error, stack)
      | .ok _ => (.ok (), stack.enqueue ⟨transactionId, body⟩ source none)

end Kademlia.Stack
