import Kademlia.Proofs.Krpc.Envelope
import Kademlia.Proofs.Node

/-!
# Messages are read as they are written

A message whose nodes are of the stack's family is recovered from its datagram, but for
the scope and the flow info of the addresses that it lists.  Nothing else is asked of it:
ids, ports and error codes are whatever their types allow, and tokens, lists and texts are
of any length.
-/

namespace Kademlia

open Bencode Krpc

/-- The nodes that a message lists. -/
def Body.nodes : Body → List Node
  | .response (.findNode _ nodes) => nodes
  | .response (.getPeers _ _ nodes _) => nodes
  | _ => []

/-- The peers that a message lists. -/
def Body.values : Body → List Address
  | .response (.getPeers _ _ _ values) => values
  | _ => []

/-- The addresses that a message lists. -/
def Body.addresses (body : Body) : List Address :=
  body.nodes.map Node.address ++ body.values

/-! ## What is not written -/

/-- A response that lists bare addresses in place of its own. -/
def Response.bare : Response → Response
  | .ping responder => .ping responder
  | .findNode responder nodes => .findNode responder (nodes.map Node.bare)
  | .getPeers responder token nodes values =>
      .getPeers responder token (nodes.map Node.bare) (values.map Address.bare)

/-- A body that lists bare addresses in place of its own. -/
def Body.bare : Body → Body
  | .response answered => .response answered.bare
  | body => body

/-- A message that lists bare addresses in place of its own. -/
def Message.bare (message : Message) : Message :=
  ⟨message.transactionId, message.body.bare⟩

@[simp]
theorem Body.author_bare (body : Body) : body.bare.author = body.author := by
  cases body with
  | request asked => rfl
  | response answered => cases answered <;> rfl
  | error code description => rfl

/-- Queries list nothing. -/
theorem Body.bare_eq_request_iff {body : Body} {asked : Request} :
    body.bare = .request asked ↔ body = .request asked := by
  cases body with
  | request asked => exact .rfl
  | response answered => exact iff_of_false nofun nofun
  | error code description => exact .rfl

/-- A message lists bare addresses only, or loses something. -/
theorem Message.bare_eq_self_iff {message : Message} :
    message.bare = message ↔ ∀ address ∈ message.body.addresses, address.Bare := by
  obtain ⟨transactionId, body⟩ := message
  cases body with
  | request asked => simp [bare, Body.bare, Body.addresses, Body.nodes, Body.values]
  | response answered =>
    cases answered with
    | ping responder =>
      simp [bare, Body.bare, Response.bare, Body.addresses, Body.nodes, Body.values]
    | findNode responder nodes =>
      simp [bare, Body.bare, Response.bare, Body.addresses, Body.nodes, Body.values,
        Node.map_bare_eq_self_iff]
    | getPeers responder token nodes values =>
      simp [bare, Body.bare, Response.bare, Body.addresses, Body.nodes, Body.values,
        map_eq_self_iff, Node.bare_eq_self_iff, Address.Bare, or_imp, forall_and]
  | error code description => simp [bare, Body.bare, Body.addresses, Body.nodes, Body.values]

/-! ## What the records say -/

/-- A transaction id is recovered from its two octets. -/
theorem Krpc.readTransactionId_bigEndian (transactionId : UInt16) :
    readTransactionId (Bytes.bigEndian 2 transactionId.toNat) = .ok transactionId := by
  have bound := transactionId.toNat_lt
  have value := Bytes.toNat_bigEndian 2 transactionId.toNat
  simp only [Bytes.bigEndian, Bytes.toNat_cons, Bytes.toNat_nil, List.length_cons, List.length_nil,
    Bytes.weight] at value
  simp only [Bytes.bigEndian, readTransactionId, Bytes.weight]
  congr 1
  apply UInt16.toNat_inj.1
  rw [UInt16.toNat_ofNat']
  omega

theorem Krpc.demand_some {α : Type} (value : α) (fault : MessageFault) :
    demand (some value) fault = .ok value :=
  rfl

theorem Krpc.demandId_some_bytes (id : Id) (fault : MessageFault) :
    demandId (some id.bytes) fault = .ok id :=
  Id.ofBytes_bytes id

/-- A query is recovered from its method and its arguments. -/
theorem Request.ofArguments_toArguments (request : Request) :
    Request.ofArguments (key request.method) request.toArguments = .ok request := by
  cases request with
  | ping requester =>
    simp [Request.ofArguments, toArguments, method, Arguments.ofId, key]
  | findNode requester target =>
    simp [Request.ofArguments, toArguments, method, Arguments.ofId, key, demandId_some_bytes]
  | getPeers requester infoHash =>
    simp [Request.ofArguments, toArguments, method, Arguments.ofId, key, demandId_some_bytes]
  | announcePeer requester infoHash port impliedPort token =>
    cases impliedPort <;>
      simp [Request.ofArguments, toArguments, method, Arguments.ofId, key, demandId_some_bytes,
        demand_some]

/-- The addresses of peers of either family are recovered from their compact forms, without
flow info and scope. -/
theorem Krpc.mapM_readPeer (peers : List Address) :
    (peers.map Address.compact).mapM readPeer = .ok (peers.map Address.bare) :=
  mapM_map_eq_ok fun peer _ => by rw [readPeer, Address.ofCompact?_compact]

/-- A peer is read exactly as the bare address it is written for. -/
theorem Krpc.readPeer_eq_ok_iff {bytes : Bytes} {peer : Address} :
    readPeer bytes = .ok peer ↔ bytes = peer.compact ∧ peer.Bare := by
  rw [← Address.ofCompact?_eq_some_iff, readPeer]
  cases Address.ofCompact? bytes with
  | none => simp
  | some address => simp

/-- A response is recovered from its values, but for what they leave out. -/
theorem Response.ofArguments_toArguments {family : Family} {response : Response}
    (confined : ∀ node ∈ (Body.response response).nodes, node.family = family) :
    Response.ofArguments family (response.toArguments family) = .ok response.bare := by
  cases response with
  | ping responder =>
    cases family <;>
      simp [Response.ofArguments, toArguments, Arguments.ofId, Arguments.nodesOf, bare]
  | findNode responder nodes =>
    have read : Node.ofCompactList family (Node.compactList nodes) = .ok (nodes.map Node.bare) :=
      Node.ofCompactList_compactList confined
    cases family <;>
      simp [Response.ofArguments, toArguments, Arguments.ofId, Arguments.withNodes,
        Arguments.nodesOf, read, bare]
  | getPeers responder token nodes values =>
    have read : Node.ofCompactList family (Node.compactList nodes) = .ok (nodes.map Node.bare) :=
      Node.ofCompactList_compactList confined
    have readPeers : ((if values = [] then none else some (values.map Address.compact)).getD
        []).mapM readPeer = .ok (values.map Address.bare) := by
      split
      · rename_i unlisted
        rw [unlisted]
        rfl
      · exact mapM_readPeer values
    cases family <;>
      simp [Response.ofArguments, toArguments, Arguments.ofId, Arguments.withNodes,
        Arguments.nodesOf, read, readPeers, bare]

/-- The nodes of a response that is read are of the stack's family, and its addresses are
bare. -/
theorem Response.confined_of_ofArguments {family : Family} {arguments : Arguments}
    {response : Response} (read : Response.ofArguments family arguments = .ok response) :
    (∀ node ∈ (Body.response response).nodes, node.family = family) ∧
      ∀ address ∈ (Body.response response).addresses, address.Bare := by
  rcases bind_eq_ok_iff.1 read with ⟨responder, -, read⟩
  rcases bind_eq_ok_iff.1 read with ⟨listed, taken, read⟩
  have fit : ∀ node ∈ listed.getD [], node.family = family ∧ node.address.Bare := by
    cases given : arguments.nodesOf family with
    | none =>
      rw [given] at taken
      cases taken
      exact nofun
    | some bytes =>
      rw [given] at taken
      rcases bind_eq_ok_iff.1 taken with ⟨nodes, compact, same⟩
      cases same
      exact (Node.ofCompactList_eq_ok_iff.1 compact).2
  have confined : ∀ node ∈ listed.getD [], node.family = family := fun node mem => (fit node mem).1
  have plain : ∀ address ∈ (listed.getD []).map Node.address, address.Bare :=
    List.forall_mem_map.2 fun node mem => (fit node mem).2
  split at read
  · rcases bind_eq_ok_iff.1 read with ⟨values, peers, same⟩
    cases same
    exact ⟨confined, List.forall_mem_append.2
      ⟨plain, ((mapM_eq_ok_iff readPeer_eq_ok_iff).1 peers).2⟩⟩
  · cases read
    exact ⟨confined, List.forall_mem_append.2 ⟨plain, nofun⟩⟩
  · cases read
    exact ⟨nofun, nofun⟩

/-! ## Whole messages -/

/-- What the record of a message says, by its type. -/
inductive Krpc.Envelope.Says (family : Family) (envelope : Envelope) : Message → Prop
  | request {transactionId : UInt16} {arguments : Arguments} {method : Bytes} {asked : Request}
      (read : readTransactionId envelope.transactionId = .ok transactionId)
      (made : Request.ofArguments method arguments = .ok asked) :
      Says family envelope ⟨transactionId, .request asked⟩
  | response {transactionId : UInt16} {values : Arguments} {answered : Response}
      (read : readTransactionId envelope.transactionId = .ok transactionId)
      (made : Response.ofArguments family values = .ok answered) :
      Says family envelope ⟨transactionId, .response answered⟩
  | error {transactionId : UInt16} {items : List Reader.Item}
      (read : readTransactionId envelope.transactionId = .ok transactionId) :
      Says family envelope ⟨transactionId, errorBody items⟩

theorem Krpc.Envelope.says_of_toMessage {family : Family} {envelope : Envelope} {message : Message}
    (made : envelope.toMessage family = .ok message) : envelope.Says family message := by
  rcases bind_eq_ok_iff.1 made with ⟨transactionId, read, made⟩
  split at made
  · rcases bind_eq_ok_iff.1 made with ⟨arguments, -, made⟩
    rcases bind_eq_ok_iff.1 made with ⟨method, -, made⟩
    rcases bind_eq_ok_iff.1 made with ⟨asked, taken, same⟩
    cases same
    exact .request read taken
  · split at made
    · rcases bind_eq_ok_iff.1 made with ⟨values, -, made⟩
      rcases bind_eq_ok_iff.1 made with ⟨answered, taken, same⟩
      cases same
      exact .response read taken
    · split at made
      · cases made
        exact .error read
      · cases made

/-- A message is recovered from its record, but for what that leaves out. -/
theorem Message.toMessage_toEnvelope {family : Family} {message : Message}
    (confined : ∀ node ∈ message.body.nodes, node.family = family) :
    (message.toEnvelope family).toMessage family = .ok message.bare := by
  obtain ⟨transactionId, body⟩ := message
  cases body with
  | request request =>
    simp [toEnvelope, Envelope.toMessage, readTransactionId_bigEndian, demand_some,
      Request.ofArguments_toArguments, bare, Body.bare]
  | response response =>
    simp [toEnvelope, Envelope.toMessage, readTransactionId_bigEndian, demand_some, key,
      Response.ofArguments_toArguments confined, bare, Body.bare]
  | error code description =>
    simp [toEnvelope, Envelope.toMessage, readTransactionId_bigEndian, errorBody, key, bare,
      Body.bare]

/-- A message whose nodes are of the stack's family is read from its datagram without the
scope and the flow info of the addresses that it lists. -/
theorem Message.decode_encode {family : Family} {message : Message}
    (confined : ∀ node ∈ message.body.nodes, node.family = family) :
    Message.decode family (message.encode family) = .ok message.bare := by
  rw [decode, Envelope.ofBytes?_encode]
  exact toMessage_toEnvelope confined

/-- A message whose nodes are of the stack's family, and whose addresses have neither scope
nor flow info, is recovered from its datagram. -/
theorem Message.decode_encode_of_family {family : Family} {message : Message}
    (confined : ∀ node ∈ message.body.nodes, node.family = family)
    (plain : ∀ address ∈ message.body.addresses, address.Bare) :
    Message.decode family (message.encode family) = .ok message := by
  rw [decode_encode confined, bare_eq_self_iff.2 plain]

/-- An empty token, a node of the stack's family, and peers of both families. -/
theorem Message.decode_encode_mixed_peers :
    let home : Address := ⟨.v6 (.zero 16) 0 0, 6881⟩
    let message : Message :=
      ⟨300, .response (.getPeers ⟨.zero 20⟩ [] [⟨⟨.zero 20⟩, home⟩] [home, ⟨.v4 (.zero 4), 80⟩])⟩
    (∀ node ∈ message.body.nodes, node.family = .ipv6) ∧
      (∀ address ∈ message.body.addresses, address.Bare) ∧
      Message.decode .ipv6 (message.encode .ipv6) = .ok message := by
  intro home message
  have confined : ∀ node ∈ message.body.nodes, node.family = .ipv6 := by decide
  have plain : ∀ address ∈ message.body.addresses, address.Bare := by decide
  exact ⟨confined, plain, decode_encode_of_family confined plain⟩

end Kademlia
