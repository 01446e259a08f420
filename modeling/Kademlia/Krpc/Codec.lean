import Kademlia.Bencode.Value
import Kademlia.Krpc.Envelope
import Kademlia.Krpc.Message

/-!
# Writing and reading KRPC messages

Nodes travel in compact form under a key of their own for each family, so both
directions depend on the family of the stack.  What a response answers is not
written; it is told from the values that are there.
-/

namespace Kademlia

open Bencode Krpc

/-- The client version that every message carries. -/
def Message.version : Bytes :=
  [0x44, 0x42, 0x00, 0x01]

/-! ## Writing -/

/-- An id as a byte string. -/
def Id.toValue (id : Id) : Value :=
  .bytes id.bytes

/-- The arguments of a query. -/
def Request.toValue : Request → Value
  | .ping requester => .dict [(key "id", requester.toValue)]
  | .findNode requester target =>
      .dict [(key "id", requester.toValue), (key "target", target.toValue)]
  | .getPeers requester infoHash =>
      .dict [(key "id", requester.toValue), (key "info_hash", infoHash.toValue)]
  | .announcePeer requester infoHash port impliedPort token =>
      .ofFields
        [(key "id", some requester.toValue),
          (key "implied_port", if impliedPort then some (.int 1) else none),
          (key "info_hash", some infoHash.toValue),
          (key "port", some (.int (Int64.ofNat port.toNat))),
          (key "token", some (.bytes token))]

/-- The key that nodes of a family are written under. -/
def Family.nodesKey : Family → Bytes
  | .ipv4 => key "nodes"
  | .ipv6 => key "nodes6"

/-- The values of a response. -/
def Response.toValue (family : Family) : Response → Value
  | .ping responder => .dict [(key "id", responder.toValue)]
  | .findNode responder nodes =>
      .dict [(key "id", responder.toValue), (family.nodesKey, .bytes (Node.compactList nodes))]
  | .getPeers responder token nodes values =>
      .ofFields
        [(key "id", some responder.toValue),
          (family.nodesKey, some (.bytes (Node.compactList nodes))),
          (key "token", some (.bytes token)),
          (key "values",
            if values = [] then none
            else some (.list (values.map fun peer => .bytes peer.compact)))]

/-- A message as a dictionary, its keys in ascending order. -/
def Message.toValue (family : Family) (message : Message) : Value :=
  let transactionId := (key "t", Value.bytes (Bytes.bigEndian 2 message.transactionId.toNat))
  let version := (key "v", Value.bytes version)
  let type (name : String) := (key "y", Value.bytes (key name))
  match message.body with
  | .request request =>
      .dict
        [(key "a", request.toValue), (key "q", .bytes (key request.method)), transactionId, version,
          type "q"]
  | .response response =>
      .dict [(key "r", response.toValue family), transactionId, version, type "r"]
  | .error code description =>
      .dict
        [(key "e", .list [.int code, .bytes (Utf8.encode description)]), transactionId, version,
          type "e"]

/-- The datagram of a message. -/
def Message.encode (family : Family) (message : Message) : Bytes :=
  (message.toValue family).encode

/-! ## Reading -/

/-- A transaction id of one or two octets. -/
def Krpc.readTransactionId : Bytes → Except Error UInt16
  | [low] => .ok (UInt16.ofNat low.toNat)
  | [high, low] => .ok (UInt16.ofNat (high.toNat * 256 + low.toNat))
  | _ => .error (.message .transactionIdLength)

/-- A value that has to be there. -/
def Krpc.demand {α : Type} (value : Option α) (fault : MessageFault) : Except Error α :=
  match value with
  | some value => .ok value
  | none => .error (.message fault)

/-- An id that has to be there. -/
def Krpc.demandId (value : Option Bytes) (fault : MessageFault) : Except Error Id := do
  Id.ofBytes (← demand value fault)

/-- The query that a method and its arguments make. -/
def Request.ofArguments (method : Bytes) (arguments : Arguments) : Except Error Request := do
  let requester ← Id.ofBytes arguments.id
  if method = key "ping" then
    pure (.ping requester)
  else if method = key "find_node" then
    pure (.findNode requester (← demandId arguments.target .noTarget))
  else if method = key "get_peers" then
    pure (.getPeers requester (← demandId arguments.infoHash .getPeersWithoutInfoHash))
  else if method = key "announce_peer" then
    let infoHash ← demandId arguments.infoHash .announceWithoutInfoHash
    let token ← demand arguments.token .announceWithoutToken
    pure
      (.announcePeer requester infoHash (UInt16.ofNat (arguments.port.getD 0))
        (arguments.impliedPort.getD 0 != 0) token)
  else throw (.message .unknownMethod)

/-- An address in a list of peers. -/
def Krpc.readPeer (bytes : Bytes) : Except Error Address :=
  match Address.ofCompact? bytes with
  | some address => .ok address
  | none => .error .compactAddress

/-- The compact nodes of a family. -/
def Krpc.Arguments.nodesOf (arguments : Arguments) : Family → Option Bytes
  | .ipv4 => arguments.nodes
  | .ipv6 => arguments.nodes6

/-- The response that values make: with a token it answers for peers, else with
nodes for nodes, else for a ping. -/
def Response.ofArguments (family : Family) (arguments : Arguments) : Except Error Response := do
  let responder ← Id.ofBytes arguments.id
  let nodes ← (arguments.nodesOf family).mapM (Node.ofCompactList family)
  match arguments.token, nodes with
  | some token, nodes =>
      pure (.getPeers responder token (nodes.getD []) (← (arguments.values.getD []).mapM readPeer))
  | none, some nodes => pure (.findNode responder nodes)
  | none, none => pure (.ping responder)

/-- The error that a list makes: a number and a text, as far as they are there. -/
def Krpc.errorBody (items : List Reader.Item) : Body :=
  let code : Int64 :=
    match items with
    | .int code :: _ => code
    | _ => 0
  let description :=
    match items with
    | _ :: .bytes description :: _ => Utf8.decodeLossy description
    | _ => ""
  .error code description

/-- What a message on the wire says. -/
def Krpc.Envelope.toMessage (family : Family) (envelope : Envelope) : Except Error Message := do
  let transactionId ← readTransactionId envelope.transactionId
  if envelope.type = key "q" then
    let arguments ← demand envelope.arguments .noArguments
    let method ← demand envelope.method .noMethod
    pure ⟨transactionId, .request (← Request.ofArguments method arguments)⟩
  else if envelope.type = key "r" then
    let values ← demand envelope.values .noValues
    pure ⟨transactionId, .response (← Response.ofArguments family values)⟩
  else if envelope.type = key "e" then
    pure ⟨transactionId, errorBody (envelope.error.getD [])⟩
  else throw (.message .unknownType)

/-- The message in a datagram. -/
def Message.decode (family : Family) (datagram : Bytes) : Except Error Message :=
  match Envelope.ofBytes? datagram with
  | some envelope => envelope.toMessage family
  | none => .error .malformed

end Kademlia
