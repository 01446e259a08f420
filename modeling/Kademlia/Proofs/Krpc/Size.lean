import Kademlia.Network.Connection
import Kademlia.Proofs.Bencode.Size
import Kademlia.Proofs.Krpc.RoundTrip

/-!
# Messages that fit into a datagram

A message that lists no more nodes and peers than a node ever gives, with a token as
short as the tokens that are given, is written in few enough octets to be read whole.
-/

namespace Kademlia

open Bencode Krpc

/-! ## What is said -/

/-- What a node of a family says: a ping, a query for nodes or for peers, or a reply with
at most eight nodes, all of the family, with at most fifty peers, and with a token of at
most four octets. -/
inductive Body.Modest (family : Family) : Body → Prop
  | ping (requester : Id) : Modest family (.request (.ping requester))
  | findNode (requester target : Id) : Modest family (.request (.findNode requester target))
  | getPeers (requester : Id) (infoHash : InfoHash) :
      Modest family (.request (.getPeers requester infoHash))
  | pong (responder : Id) : Modest family (.response (.ping responder))
  | nodes {responder : Id} {nodes : List Node} (few : nodes.length ≤ 8)
      (confined : ∀ node ∈ nodes, node.family = family) :
      Modest family (.response (.findNode responder nodes))
  | peers {responder : Id} {token : Bytes} {nodes : List Node} {values : List Address}
      (short : token.length ≤ 4) (few : nodes.length ≤ 8)
      (confined : ∀ node ∈ nodes, node.family = family) (given : values.length ≤ 50) :
      Modest family (.response (.getPeers responder token nodes values))
  | refusal : Modest family (.error 203 "Bad token")

/-- A message that a node of a family reads as it was written: it fits into the buffer,
begins like a dictionary, and is decoded, but for the scope and the flow info of the
addresses that it lists. -/
structure Message.Fits (family : Family) (message : Message) : Prop where
  size : (message.encode family).length ≤ 2048
  head : (message.encode family).head? = some 0x64
  decoded : Message.decode family (message.encode family) = .ok message.bare

/-! ## Parts of a message -/

theorem Krpc.extent_nil_le : extent [] ≤ 0 :=
  Nat.le_refl 0

/-- An entry, with a name of nine letters at most. -/
theorem Krpc.extent_cons_le (name : String) {value : Value} {rest : List (Bytes × Value)}
    {bound others : Nat} (short : (key name).length ≤ 9) (within : value.encode.length ≤ bound)
    (followed : extent rest ≤ others) :
    extent ((key name, value) :: rest) ≤ 13 + bound + others := by
  have named : (Value.bytes (key name)).encode.length ≤ 9 + 4 :=
    Value.length_encode_bytes_le short (by decide)
  change (Value.bytes (key name)).encode.length + value.encode.length + extent rest ≤ _
  omega

theorem Krpc.length_encode_dict_le {entries : List (Bytes × Value)} {bound : Nat}
    (within : extent entries ≤ bound) : (Value.dict entries).encode.length ≤ bound + 2 := by
  rw [Value.length_encode_dict]
  exact Nat.add_le_add_right within 2

theorem Id.length_encode_toValue_le (id : Id) : id.toValue.encode.length ≤ 24 :=
  Value.length_encode_bytes_le (Nat.le_of_eq id.length_bytes) (by decide)

/-- The compact nodes of a family, of which there are eight at most. -/
theorem Krpc.length_encode_nodes_le {family : Family} {nodes : List Node}
    (few : nodes.length ≤ 8) (confined : ∀ node ∈ nodes, node.family = family) :
    (Value.bytes (Node.compactList nodes)).encode.length ≤ 308 := by
  have short : (Node.compactList nodes).length ≤ 304 := by
    rw [Node.length_compactList confined]
    cases family with
    | ipv4 => exact Nat.le_trans (Nat.mul_le_mul_left 26 few) (by decide)
    | ipv6 => exact Nat.mul_le_mul_left 38 few
  exact Value.length_encode_bytes_le short (by decide)

/-- The compact peers of either family, of which there are fifty at most. -/
theorem Krpc.length_encode_peers_le {values : List Address} (given : values.length ≤ 50) :
    (Value.list (values.map fun peer => .bytes peer.compact)).encode.length ≤ 1102 := by
  have each : ∀ item ∈ values.map fun peer => Value.bytes peer.compact,
      item.encode.length ≤ 22 := by
    intro item mem
    obtain ⟨peer, -, rfl⟩ := List.mem_map.1 mem
    have short : peer.compact.length ≤ 18 := by
      rw [Address.length_compact]
      cases peer.family with
      | ipv4 => decide
      | ipv6 => decide
    exact Value.length_encode_bytes_le short (by decide)
  have all := Value.length_encode_list_le each
  rw [List.length_map] at all
  omega

/-- What comes behind the part of a message that says something. -/
theorem Krpc.extent_rest_le (transactionId : UInt16) (type : String)
    (letter : (key type).length ≤ 1) :
    extent
        [(key "t", .bytes (Bytes.bigEndian 2 transactionId.toNat)),
          (key "v", .bytes Message.version), (key "y", .bytes (key type))] ≤ 58 := by
  have number : (Value.bytes (Bytes.bigEndian 2 transactionId.toNat)).encode.length ≤ 2 + 4 :=
    Value.length_encode_bytes_le (Nat.le_of_eq (Bytes.length_bigEndian 2 _)) (by decide)
  have version : (Value.bytes Message.version).encode.length ≤ 4 + 4 :=
    Value.length_encode_bytes_le (by decide) (by decide)
  have type : (Value.bytes (key type)).encode.length ≤ 1 + 4 :=
    Value.length_encode_bytes_le letter (by decide)
  exact extent_cons_le "t" (by decide) number
    (extent_cons_le "v" (by decide) version (extent_cons_le "y" (by decide) type extent_nil_le))

/-! ## Queries, responses and errors -/

theorem Request.length_method_le (asked : Request) : (key asked.method).length ≤ 13 := by
  have methods : ∀ name ∈ ["ping", "find_node", "get_peers", "announce_peer"],
      (key name).length ≤ 13 := by decide
  apply methods
  cases asked with
  | ping requester => simp [method]
  | findNode requester target => simp [method]
  | getPeers requester infoHash => simp [method]
  | announcePeer requester infoHash port impliedPort token => simp [method]

theorem Request.length_encode_toValue_le {family : Family} {asked : Request}
    (modest : Body.Modest family (.request asked)) : (asked.toValue).encode.length ≤ 76 := by
  have only (id : Id) : extent [(key "id", id.toValue)] ≤ 37 :=
    extent_cons_le "id" (by decide) id.length_encode_toValue_le extent_nil_le
  cases modest with
  | ping requester => exact Nat.le_trans (length_encode_dict_le (only requester)) (by decide)
  | findNode requester target =>
    exact length_encode_dict_le
      (extent_cons_le "id" (by decide) requester.length_encode_toValue_le
        (extent_cons_le "target" (by decide) target.length_encode_toValue_le extent_nil_le))
  | getPeers requester infoHash =>
    exact length_encode_dict_le
      (extent_cons_le "id" (by decide) requester.length_encode_toValue_le
        (extent_cons_le "info_hash" (by decide) infoHash.length_encode_toValue_le extent_nil_le))

/-- The nodes of a response, under the name that they have in the family. -/
theorem Krpc.extent_nodes_le {family : Family} {nodes : List Node} {rest : List (Bytes × Value)}
    {others : Nat} (few : nodes.length ≤ 8) (confined : ∀ node ∈ nodes, node.family = family)
    (followed : extent rest ≤ others) :
    extent ((family.nodesKey, .bytes (Node.compactList nodes)) :: rest) ≤ 321 + others := by
  have listed := length_encode_nodes_le few confined
  cases family with
  | ipv4 => exact extent_cons_le "nodes" (by decide) listed followed
  | ipv6 => exact extent_cons_le "nodes6" (by decide) listed followed

theorem Response.length_encode_toValue_le {family : Family} {answered : Response}
    (modest : Body.Modest family (.response answered)) :
    (answered.toValue family).encode.length ≤ 1496 := by
  cases modest with
  | pong responder =>
    have written : extent [(key "id", responder.toValue)] ≤ 37 :=
      extent_cons_le "id" (by decide) responder.length_encode_toValue_le extent_nil_le
    exact Nat.le_trans (length_encode_dict_le written) (by decide)
  | @nodes responder nodes few confined =>
    have written : extent [(key "id", responder.toValue),
        (family.nodesKey, .bytes (Node.compactList nodes))] ≤ 358 :=
      extent_cons_le "id" (by decide) responder.length_encode_toValue_le
        (extent_nodes_le few confined extent_nil_le)
    exact Nat.le_trans (length_encode_dict_le written) (by decide)
  | @peers responder token nodes values short few confined given =>
    have tokenLength : (Value.bytes token).encode.length ≤ 4 + 4 :=
      Value.length_encode_bytes_le short (by decide)
    -- the entry of the peers is left out when there are none
    cases values with
    | nil =>
      have written : extent [(key "id", responder.toValue),
          (family.nodesKey, .bytes (Node.compactList nodes)), (key "token", .bytes token)] ≤ 379 :=
        extent_cons_le "id" (by decide) responder.length_encode_toValue_le
          (extent_nodes_le few confined
            (extent_cons_le "token" (by decide) tokenLength extent_nil_le))
      exact Nat.le_trans (length_encode_dict_le written) (by decide)
    | cons peer peers =>
      have peersLength := length_encode_peers_le given
      have written : extent [(key "id", responder.toValue),
          (family.nodesKey, .bytes (Node.compactList nodes)), (key "token", .bytes token),
          (key "values", .list ((peer :: peers).map fun peer => .bytes peer.compact))] ≤ 1494 :=
        extent_cons_le "id" (by decide) responder.length_encode_toValue_le
          (extent_nodes_le few confined
            (extent_cons_le "token" (by decide) tokenLength
              (extent_cons_le "values" (by decide) peersLength extent_nil_le)))
      exact length_encode_dict_le written

/-- What a node says is written in no more octets than are read. -/
theorem Message.length_encode_le {family : Family} {message : Message}
    (modest : message.body.Modest family) : (message.encode family).length ≤ mtu := by
  obtain ⟨transactionId, body⟩ := message
  cases body with
  | request asked =>
    have arguments := Request.length_encode_toValue_le modest
    have method : (Value.bytes (key asked.method)).encode.length ≤ 13 + 4 :=
      Value.length_encode_bytes_le asked.length_method_le (by decide)
    have written := extent_cons_le "a" (by decide) arguments
      (extent_cons_le "q" (by decide) method (extent_rest_le transactionId "q" (by decide)))
    exact Nat.le_trans (length_encode_dict_le written) (by decide)
  | response answered =>
    have values := Response.length_encode_toValue_le modest
    have written := extent_cons_le "r" (by decide) values
      (extent_rest_le transactionId "r" (by decide))
    exact Nat.le_trans (length_encode_dict_le written) (by decide)
  | error code description =>
    cases modest with
    | refusal =>
      have error : (Value.list [.int 203, .bytes (Utf8.encode "Bad token")]).encode.length ≤ 20 := by
        decide +kernel
      have written := extent_cons_le "e" (by decide) error
        (extent_rest_le transactionId "e" (by decide))
      exact Nat.le_trans (length_encode_dict_le written) (by decide)

/-! ## Reading what is said -/

theorem Message.head?_encode (family : Family) (message : Message) :
    (message.encode family).head? = some 0x64 := by
  obtain ⟨transactionId, body⟩ := message
  cases body with
  | request asked => exact Value.head?_encode_dict _
  | response answered => exact Value.head?_encode_dict _
  | error code description => exact Value.head?_encode_dict _

theorem Body.Modest.confined {family : Family} {body : Body} (modest : body.Modest family) :
    ∀ node ∈ body.nodes, node.family = family := by
  cases modest with
  | ping requester => exact List.forall_mem_nil _
  | findNode requester target => exact List.forall_mem_nil _
  | getPeers requester infoHash => exact List.forall_mem_nil _
  | pong responder => exact List.forall_mem_nil _
  | nodes few confined => exact confined
  | peers short few confined given => exact confined
  | refusal => exact List.forall_mem_nil _

/-- What a node of a family says is read as it was written. -/
theorem Message.fits_of_modest {family : Family} {message : Message}
    (modest : message.body.Modest family) : message.Fits family where
  size := length_encode_le modest
  head := head?_encode family message
  decoded := decode_encode modest.confined

end Kademlia
