import Kademlia.Node

/-!
# KRPC messages

A message carries a transaction id and is a query, the response to one, or an
error.  Every query and every response names the node it comes from.
-/

namespace Kademlia

/-- What one node asks of another. -/
inductive Request
  | ping (requester : Id)
  | findNode (requester target : Id)
  | getPeers (requester : Id) (infoHash : InfoHash)
  | announcePeer (requester : Id) (infoHash : InfoHash) (port : UInt16) (impliedPort : Bool)
      (token : Bytes)
deriving DecidableEq

/-- What a node answers. -/
inductive Response
  | ping (responder : Id)
  | findNode (responder : Id) (nodes : List Node)
  | getPeers (responder : Id) (token : Bytes) (nodes : List Node) (values : List Address)
deriving DecidableEq

namespace Request

/-- The name of the method on the wire. -/
def method : Request → String
  | ping .. => "ping"
  | findNode .. => "find_node"
  | getPeers .. => "get_peers"
  | announcePeer .. => "announce_peer"

/-- The id of the node that asks. -/
def requester : Request → Id
  | ping requester => requester
  | findNode requester _ => requester
  | getPeers requester _ => requester
  | announcePeer requester .. => requester

end Request

/-- The id of the node that answers. -/
def Response.responder : Response → Id
  | ping responder => responder
  | findNode responder _ => responder
  | getPeers responder .. => responder

/-- A message without its transaction id. -/
inductive Body
  | request (asked : Request)
  | response (answered : Response)
  | error (code : Int64) (description : String)
deriving DecidableEq

/-- The id of the node a message comes from, if it says so. -/
def Body.author : Body → Option Id
  | request asked => some asked.requester
  | response answered => some answered.responder
  | error .. => none

/-- A KRPC message. -/
@[ext]
structure Message where
  transactionId : UInt16
  body : Body
deriving DecidableEq

end Kademlia
