import Kademlia.Node

/-!
# Buckets

A bucket holds up to eight nodes, the least recently seen one first, and up to
eight more that may replace them, the latest one last.
-/

namespace Kademlia

/-- The nodes at one distance; times are in milliseconds. -/
structure Bucket where
  nodes : List Node
  cached : List Node
  touched : Nat
deriving DecidableEq

namespace Bucket

/-- How many nodes a bucket holds. -/
def capacity : Nat :=
  8

/-- How many replacements a bucket holds. -/
def cacheCapacity : Nat :=
  8

/-- No nodes; touched when it is made. -/
def empty (now : Nat) : Bucket :=
  ⟨[], [], now⟩

/-- Some nodes without those of an id. -/
def without (id : Id) (nodes : List Node) : List Node :=
  nodes.filter (·.id ≠ id)

/-- Whether a bucket has a node of this id, not counting replacements. -/
def contains (bucket : Bucket) (id : Id) : Bool :=
  bucket.nodes.any (·.id = id)

/-- Whether a bucket holds neither nodes nor replacements. -/
def isEmpty (bucket : Bucket) : Bool :=
  bucket.nodes.isEmpty && bucket.cached.isEmpty

/-- Makes a node the most recently seen one of its id. -/
def refresh (bucket : Bucket) (now : Nat) (node : Node) : Bucket :=
  { bucket with nodes := without node.id bucket.nodes ++ [node], touched := now }

/-- Keeps a node as the latest replacement; when there is no room the oldest
one goes. -/
def cache (bucket : Bucket) (node : Node) : Bucket :=
  let others := without node.id bucket.cached
  let kept := if cacheCapacity ≤ others.length then others.drop 1 else others
  { bucket with cached := kept ++ [node] }

/-- Takes out the node of an id, and puts the latest replacement in its place. -/
def remove (bucket : Bucket) (id : Id) : Bucket :=
  { bucket with
    nodes := without id bucket.nodes ++ bucket.cached.getLast?.toList
    cached := bucket.cached.dropLast }

/-- Marks a bucket as looked after. -/
def touch (bucket : Bucket) (now : Nat) : Bucket :=
  { bucket with touched := now }

end Bucket

end Kademlia
