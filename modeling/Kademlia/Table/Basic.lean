import Kademlia.Table.Bucket

/-!
# The routing table

A table sorts nodes into buckets by their distance from its own id.  A node that
finds its bucket full is kept as a replacement, and the table names the node
that has not been seen for longest, which is then to be asked whether it is
still there.
-/

namespace Kademlia

/-- The nodes a stack knows: buckets by distance, in ascending order. -/
structure RoutingTable where
  id : Id
  family : Family
  buckets : List (Nat × Bucket)
deriving DecidableEq

/-- What became of a node that was to be added. -/
inductive Insertion
  | refused
  | stored
  | deferred (oldest : Node)
deriving DecidableEq

namespace RoutingTable

/-- No nodes yet. -/
def empty (family : Family) (id : Id) : RoutingTable :=
  ⟨id, family, []⟩

/-! ## Buckets -/

/-- The bucket at a distance. -/
def bucket? (table : RoutingTable) (distance : Nat) : Option Bucket :=
  table.buckets.lookup distance

/-- Buckets with one of them set. -/
def put (distance : Nat) (bucket : Bucket) : List (Nat × Bucket) → List (Nat × Bucket)
  | [] => [(distance, bucket)]
  | (d, b) :: rest =>
      if distance < d then (distance, bucket) :: (d, b) :: rest
      else if distance = d then (distance, bucket) :: rest
      else (d, b) :: put distance bucket rest

/-- A table with a bucket set, or without it when that is empty. -/
def setBucket (table : RoutingTable) (distance : Nat) (bucket : Bucket) : RoutingTable :=
  if bucket.isEmpty then
    { table with buckets := table.buckets.filter fun (d, _) => d ≠ distance }
  else { table with buckets := put distance bucket table.buckets }

/-! ## Adding and removing -/

/-- Adds a node that was just seen. -/
def insert (table : RoutingTable) (now : Nat) (node : Node) : Insertion × RoutingTable :=
  let distance := table.id.distance node.id
  if node.family ≠ table.family ∨ distance = 0 then (.refused, table)
  else
    let bucket := (table.bucket? distance).getD (.empty now)
    if bucket.contains node.id ∨ bucket.nodes.length < Bucket.capacity then
      (.stored, table.setBucket distance (bucket.refresh now node))
    else
      match bucket.nodes with
      | [] => (.refused, table)
      | oldest :: _ => (.deferred oldest, table.setBucket distance (bucket.cache node))

/-- Removes the node of an id; says whether there was one. -/
def remove (table : RoutingTable) (id : Id) : Bool × RoutingTable :=
  let distance := table.id.distance id
  match table.bucket? distance with
  | some bucket =>
      if bucket.contains id then (true, table.setBucket distance (bucket.remove id))
      else (false, table)
  | none => (false, table)

/-! ## Asking -/

/-- All nodes, by ascending distance and then the least recently seen first. -/
def nodes (table : RoutingTable) : List Node :=
  table.buckets.flatMap fun (_, bucket) => bucket.nodes

/-- How many nodes there are. -/
def size (table : RoutingTable) : Nat :=
  table.buckets.foldl (fun count (_, bucket) => count + bucket.nodes.length) 0

/-- Whether there are no nodes. -/
def isEmpty (table : RoutingTable) : Bool :=
  table.buckets.all fun (_, bucket) => bucket.nodes.isEmpty

/-- Whether there is a node of this id. -/
def contains (table : RoutingTable) (id : Id) : Bool :=
  ((table.bucket? (table.id.distance id)).map (·.contains id)).getD false

/-- The nodes nearest to a target, the nearest first. -/
def closest (table : RoutingTable) (target : Id) : List Node :=
  (table.nodes.mergeSort fun a b => (a.id.xor target).toNat ≤ (b.id.xor target).toNat).take
    Bucket.capacity

/-! ## Looking after buckets -/

/-- The distances at which there are nodes. -/
def distances (table : RoutingTable) : List Nat :=
  (table.buckets.filter fun (_, bucket) => !bucket.nodes.isEmpty).map Prod.fst

/-- The distances of buckets that were last touched this long ago or longer. -/
def stale (table : RoutingTable) (now interval : Nat) : List Nat :=
  (table.buckets.filter fun (_, bucket) => interval ≤ now - bucket.touched).map Prod.fst

/-- Marks a bucket as looked after. -/
def touch (table : RoutingTable) (now distance : Nat) : RoutingTable :=
  { table with
    buckets := table.buckets.map fun (d, bucket) =>
      (d, if d = distance then bucket.touch now else bucket) }

end RoutingTable

end Kademlia
