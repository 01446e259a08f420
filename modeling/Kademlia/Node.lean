import Kademlia.Address.Compact
import Kademlia.Id

/-!
# Nodes and compact node lists

A node is an id with the address it answers at.  A list of nodes is written as
the ids and compact addresses in a row.
-/

namespace Kademlia

/-- A remote node. -/
@[ext]
structure Node where
  id : Id
  address : Address
deriving DecidableEq

/-- The node that a stack itself is. -/
structure LocalNode where
  id : Id
  port : UInt16
deriving DecidableEq

namespace Node

/-- The family of a node's address. -/
def family (node : Node) : Family :=
  node.address.family

/-- The id and the compact address. -/
def compact (node : Node) : Bytes :=
  node.id.bytes ++ node.address.compact

/-- The compact form of a list of nodes. -/
def compactList (nodes : List Node) : Bytes :=
  nodes.flatMap compact

/-- The length of a compact node of a family. -/
def compactLength (family : Family) : Nat :=
  20 + family.compactLength

/-- The node a byte string is the compact form of. -/
def ofCompact (bytes : Bytes) : Except Error Node := do
  let id ← Id.ofBytes (bytes.take 20)
  match Address.ofCompact? (bytes.drop 20) with
  | some address => .ok ⟨id, address⟩
  | none => .error .compactAddress

/-- The nodes of a family in a byte string. -/
def ofCompactList (family : Family) (bytes : Bytes) : Except Error (List Node) :=
  if bytes.length % compactLength family = 0 then
    (Bytes.chunks (compactLength family) bytes).mapM ofCompact
  else .error .compactNodes

@[simp]
theorem length_compact (node : Node) : node.compact.length = compactLength node.family := by
  simp [compact, compactLength, family]

@[simp]
theorem compactList_nil : compactList [] = [] :=
  rfl

@[simp]
theorem compactList_cons (node : Node) (nodes : List Node) :
    compactList (node :: nodes) = node.compact ++ compactList nodes :=
  rfl

/-- The node of the same id at the bare address. -/
def bare (node : Node) : Node :=
  ⟨node.id, node.address.bare⟩

@[simp]
theorem id_bare (node : Node) : node.bare.id = node.id :=
  rfl

@[simp]
theorem family_bare (node : Node) : node.bare.family = node.family :=
  node.address.family_bare

theorem bare_eq_self_iff {node : Node} : node.bare = node ↔ node.address.Bare := by
  rw [Node.ext_iff]
  exact and_iff_right rfl

/-- Reading a compact node gives it back at its bare address. -/
@[simp]
theorem ofCompact_compact (node : Node) : ofCompact node.compact = .ok node.bare := by
  have length := Id.length_bytes node.id
  simp [ofCompact, compact, length, bind, Except.bind, bare]

end Node

end Kademlia
