import Kademlia.Proofs.Table.Nodes

/-!
# A table made again from its nodes

All nodes of a table, added in their order to an empty one, give every bucket
its nodes again in the order they had.  Each of them finds room, so none ends
up among the replacements.  That the nodes come at their bare addresses makes no
difference to where they belong.
-/

namespace Kademlia.RoutingTable

variable {table : RoutingTable} {node : Node} {nodes : List Node}

/-- Those of some nodes that are at a distance from an id. -/
def atDistance (id : Id) (distance : Nat) (nodes : List Node) : List Node :=
  nodes.filter (id.distance ·.id = distance)

theorem atDistance_cons (id : Id) (distance : Nat) (node : Node) (nodes : List Node) :
    atDistance id distance (node :: nodes) =
      atDistance id distance [node] ++ atDistance id distance nodes := by
  rw [atDistance, List.filter_cons]
  by_cases here : id.distance node.id = distance <;> simp [atDistance, here]

/-- Where a node belongs does not depend on its address. -/
theorem atDistance_map_bare (id : Id) (distance : Nat) (nodes : List Node) :
    atDistance id distance (nodes.map Node.bare) = (atDistance id distance nodes).map Node.bare := by
  rw [atDistance, List.filter_map]
  rfl

/-- A table to which nodes were added in order. -/
def insertAll (now : Nat) (nodes : List Node) (table : RoutingTable) : RoutingTable :=
  nodes.foldl (fun table node => (table.insert now node).2) table

/-- Nodes that a table stores one after another: they belong into it, they differ
from each other and from those that are there, and there is room for all. -/
structure Admits (table : RoutingTable) (nodes : List Node) : Prop where
  ofFamily : ∀ node ∈ nodes, node.family = table.family
  apart : ∀ node ∈ nodes, table.id.distance node.id ≠ 0
  distinct : (nodes.map Node.id).Nodup
  fresh : ∀ node ∈ nodes, node.id ∉ (table.nodesAt (table.id.distance node.id)).map Node.id
  room : ∀ distance,
    (table.nodesAt distance).length + (atDistance table.id distance nodes).length ≤
      Bucket.capacity

namespace Admits

/-- The first of the nodes is stored. -/
theorem stored (admits : table.Admits (node :: nodes)) (now : Nat) :
    (table.insert now node).1 = .stored := by
  refine insert_eq_stored_iff.2
    ⟨admits.ofFamily node List.mem_cons_self, admits.apart node List.mem_cons_self, .inr ?_⟩
  have room := admits.room (table.id.distance node.id)
  rw [atDistance, List.filter_cons_of_pos (by simp), List.length_cons] at room
  exact Nat.lt_of_lt_of_le (Nat.lt_add_of_pos_right (Nat.succ_pos _)) room

/-- It comes after those that were there. -/
theorem nodesAt_insert (admits : table.Admits (node :: nodes)) (now distance : Nat) :
    (table.insert now node).2.nodesAt distance =
      table.nodesAt distance ++ atDistance table.id distance [node] := by
  rw [RoutingTable.nodesAt_insert, admits.stored now]
  by_cases here : distance = table.id.distance node.id
  · subst here
    have fresh := admits.fresh node List.mem_cons_self
    rw [if_pos ⟨rfl, rfl⟩, Bucket.without_eq_self fresh]
    simp [atDistance]
  · rw [if_neg fun both => here both.2]
    simp [atDistance, Ne.symm here]

/-- The others can still be stored. -/
theorem insert (admits : table.Admits (node :: nodes)) (now : Nat) :
    (table.insert now node).2.Admits nodes where
  ofFamily := by
    intro other mem
    rw [family_insert]
    exact admits.ofFamily other (List.mem_cons_of_mem node mem)
  apart := by
    intro other mem
    rw [id_insert]
    exact admits.apart other (List.mem_cons_of_mem node mem)
  distinct := (List.nodup_cons.1 admits.distinct).2
  fresh := by
    intro other mem
    have differs : other.id ≠ node.id := by
      intro same
      apply (List.nodup_cons.1 admits.distinct).1
      rw [← same]
      exact List.mem_map_of_mem mem
    rw [id_insert, admits.nodesAt_insert now, List.map_append, List.mem_append, not_or]
    constructor
    · exact admits.fresh other (List.mem_cons_of_mem node mem)
    · intro added
      obtain ⟨known, listed, same⟩ := List.mem_map.1 added
      rw [List.mem_singleton.1 (List.mem_filter.1 listed).1] at same
      exact differs same.symm
  room := by
    intro distance
    have room := admits.room distance
    rw [atDistance_cons, List.length_append, ← Nat.add_assoc] at room
    rwa [id_insert, admits.nodesAt_insert now, List.length_append]

/-- They can be stored at their bare addresses as well. -/
theorem map_bare (admits : table.Admits nodes) : table.Admits (nodes.map Node.bare) where
  ofFamily := by
    refine List.forall_mem_map.2 fun node mem => ?_
    rw [Node.family_bare]
    exact admits.ofFamily node mem
  apart := List.forall_mem_map.2 admits.apart
  distinct := by
    rw [List.map_map]
    exact admits.distinct
  fresh := List.forall_mem_map.2 admits.fresh
  room := by
    intro distance
    rw [atDistance_map_bare, List.length_map]
    exact admits.room distance

/-- All of them come in their order after those that were there. -/
theorem nodesAt_insertAll (admits : table.Admits nodes) (now distance : Nat) :
    (table.insertAll now nodes).nodesAt distance =
      table.nodesAt distance ++ atDistance table.id distance nodes := by
  induction nodes generalizing table with
  | nil => simp [insertAll, atDistance]
  | cons node nodes ih =>
    have others := ih (admits.insert now)
    rw [id_insert, admits.nodesAt_insert now, List.append_assoc, ← atDistance_cons] at others
    exact others

theorem cachedAt_insertAll (admits : table.Admits nodes) (now distance : Nat) :
    (table.insertAll now nodes).cachedAt distance = table.cachedAt distance := by
  induction nodes generalizing table with
  | nil => rfl
  | cons node nodes ih =>
    exact (ih (admits.insert now)).trans (cachedAt_insert_of_stored (admits.stored now) distance)

end Admits

/-! ## The nodes of a table -/

/-- A table made again from its nodes, at their bare addresses. -/
def reload (now : Nat) (table : RoutingTable) : RoutingTable :=
  (empty table.family table.id).insertAll now (table.nodes.map Node.bare)

/-- The nodes of buckets in order, by distance. -/
theorem atDistance_flatMap {id : Id} {buckets : List (Nat × Bucket)}
    (ascending : Ascending buckets)
    (placed : ∀ entry ∈ buckets, ∀ node ∈ entry.2.nodes, id.distance node.id = entry.1)
    (distance : Nat) :
    atDistance id distance (buckets.flatMap fun (_, bucket) => bucket.nodes) =
      ((buckets.lookup distance).map Bucket.nodes).getD [] := by
  induction buckets with
  | nil => rfl
  | cons entry buckets ih =>
    obtain ⟨d, bucket⟩ := entry
    obtain ⟨below, rest⟩ := List.pairwise_cons.1 ascending
    have others := ih rest fun entry mem => placed entry (List.mem_cons_of_mem _ mem)
    have here := placed (d, bucket) List.mem_cons_self
    change (bucket.nodes ++ buckets.flatMap _).filter _ = _
    rw [List.filter_append]
    change bucket.nodes.filter _ ++ atDistance id distance (buckets.flatMap _) = _
    by_cases same : distance = d
    · subst same
      have later :
          atDistance id distance (buckets.flatMap fun (_, bucket) => bucket.nodes) = [] := by
        apply List.filter_eq_nil_iff.2
        intro node mem
        obtain ⟨entry, listed, live⟩ := List.mem_flatMap.1 mem
        rw [placed entry (List.mem_cons_of_mem _ listed) node live, decide_eq_true_eq]
        exact Nat.ne_of_gt (below entry listed)
      rw [later, List.append_nil, List.lookup_cons_self]
      exact List.filter_eq_self.2 fun node live => decide_eq_true (here node live)
    · have none_here : bucket.nodes.filter (id.distance ·.id = distance) = [] := by
        apply List.filter_eq_nil_iff.2
        intro node live
        rw [here node live, decide_eq_true_eq]
        exact Ne.symm same
      rw [none_here, others, Association.lookup_cons_of_ne same]
      rfl

namespace WellFormed

variable (wf : table.WellFormed)

include wf

theorem atDistance_nodes (distance : Nat) :
    atDistance table.id distance table.nodes = table.nodesAt distance :=
  atDistance_flatMap wf.ascending
    (fun _ mem node live => (wf.buckets mem).distance_eq node (List.mem_append_left _ live))
    distance

theorem length_nodesAt_le (distance : Nat) : (table.nodesAt distance).length ≤ Bucket.capacity := by
  unfold nodesAt
  cases found : table.bucket? distance with
  | none => exact Nat.zero_le _
  | some bucket => exact (wf.of_bucket? found).length_nodes_le

theorem distance_ne_zero_of_mem_nodes (mem : node ∈ table.nodes) :
    table.id.distance node.id ≠ 0 := by
  obtain ⟨⟨distance, bucket⟩, listed, live⟩ := List.mem_flatMap.1 mem
  have good := wf.buckets listed
  rw [good.distance_eq node (List.mem_append_left _ live)]
  exact Nat.ne_of_gt good.distance_pos

/-- An empty table stores all nodes of another one. -/
theorem admits_nodes : (empty table.family table.id).Admits table.nodes where
  ofFamily node mem := (wf.of_mem_nodesAt (wf.mem_nodes_iff.1 mem)).1
  apart node mem := wf.distance_ne_zero_of_mem_nodes mem
  distinct := wf.distinct_nodes
  fresh _ _ := List.not_mem_nil
  room := by
    intro distance
    have room := wf.length_nodesAt_le distance
    rw [← wf.atDistance_nodes distance] at room
    rwa [← Nat.zero_add (atDistance _ _ _).length] at room

/-- A table made again has the same nodes in the same order, at their bare addresses, and no
replacements. -/
theorem nodesAt_reload (now distance : Nat) :
    (table.reload now).nodesAt distance = (table.nodesAt distance).map Node.bare := by
  rw [reload, wf.admits_nodes.map_bare.nodesAt_insertAll now distance]
  change atDistance table.id distance (table.nodes.map Node.bare) = _
  rw [atDistance_map_bare, wf.atDistance_nodes distance]

theorem cachedAt_reload (now distance : Nat) : (table.reload now).cachedAt distance = [] :=
  wf.admits_nodes.map_bare.cachedAt_insertAll now distance

end WellFormed

end Kademlia.RoutingTable
