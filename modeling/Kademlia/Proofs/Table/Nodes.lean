import Kademlia.Proofs.Table.Invariant

/-!
# The nodes of a table

What adding and removing do to the nodes and the replacements at each distance,
and what follows for all nodes together.
-/

namespace Kademlia.RoutingTable

variable {table : RoutingTable} {distance now : Nat} {node : Node} {id : Id}

/-! ## Adding -/

/-- A node is stored when it is fit for the table and known or there is room for it. -/
theorem insert_eq_stored_iff :
    (table.insert now node).1 = .stored ↔
      node.family = table.family ∧ table.id.distance node.id ≠ 0 ∧
        (node.id ∈ (table.nodesAt (table.id.distance node.id)).map Node.id ∨
          (table.nodesAt (table.id.distance node.id)).length < Bucket.capacity) := by
  rw [← nodes_bucketFor table now, ← Bucket.contains_iff]
  have inserted := table.inserted_insert now node
  generalize table.insert now node = result at inserted
  cases inserted with
  | refused unfit =>
    simp only [reduceCtorEq, false_iff]
    rintro ⟨ofFamily, apart, -⟩
    rcases unfit with other | same
    · exact other ofFamily
    · exact apart same
  | stored ofFamily apart fits =>
    simp only [true_iff]
    exact ⟨ofFamily, apart, fits⟩
  | deferred ofFamily apart absent nodes_eq full =>
    simp only [reduceCtorEq, false_iff]
    rintro ⟨-, -, present | room⟩
    · rw [present] at absent
      cases absent
    · exact Nat.not_lt.2 full room

/-- A node that is stored comes last at its distance; nothing else changes. -/
theorem nodesAt_insert (table : RoutingTable) (now : Nat) (node : Node) (distance : Nat) :
    (table.insert now node).2.nodesAt distance =
      if (table.insert now node).1 = .stored ∧ distance = table.id.distance node.id then
        Bucket.without node.id (table.nodesAt distance) ++ [node]
      else table.nodesAt distance := by
  have inserted := table.inserted_insert now node
  generalize table.insert now node = result at inserted
  cases inserted with
  | refused unfit => simp
  | stored ofFamily apart fits =>
    rw [nodesAt_setBucket]
    split
    · rename_i here
      rw [if_pos ⟨rfl, here⟩, here, ← nodes_bucketFor table now]
      rfl
    · rename_i elsewhere
      rw [if_neg fun both => elsewhere both.2]
  | deferred ofFamily apart absent nodes_eq full =>
    rw [nodesAt_setBucket]
    simp only [reduceCtorEq, false_and, if_false]
    split
    · rename_i here
      rw [here, ← nodes_bucketFor table now]
      rfl
    · rfl

/-- Storing a node leaves the replacements alone. -/
theorem cachedAt_insert_of_stored (stored : (table.insert now node).1 = .stored)
    (distance : Nat) : (table.insert now node).2.cachedAt distance = table.cachedAt distance := by
  have inserted := table.inserted_insert now node
  generalize table.insert now node = result at inserted stored
  cases inserted with
  | refused unfit => rfl
  | stored ofFamily apart fits =>
    rw [cachedAt_setBucket]
    split
    · rename_i here
      rw [here, ← cached_bucketFor table now]
      rfl
    · rfl
  | deferred ofFamily apart absent nodes_eq full => cases stored

/-- Adding a node takes no id out of the table. -/
theorem contains_insert {other : Id} (present : table.contains other = true) :
    (table.insert now node).2.contains other = true := by
  rw [contains_iff] at present ⊢
  obtain ⟨known, mem, rfl⟩ := present
  rw [id_insert, nodesAt_insert]
  split
  · by_cases seen : known.id = node.id
    · exact ⟨node, List.mem_append_right _ (List.mem_singleton_self node), seen.symm⟩
    · exact ⟨known, List.mem_append_left _ (Bucket.mem_without.2 ⟨mem, seen⟩), rfl⟩
  · exact ⟨known, mem, rfl⟩

/-! ## Removing -/

/-- Where an id is removed the latest replacement comes in last; nothing else changes. -/
theorem nodesAt_remove (table : RoutingTable) (id : Id) (distance : Nat) :
    (table.remove id).2.nodesAt distance =
      if table.contains id = true ∧ distance = table.id.distance id then
        Bucket.without id (table.nodesAt distance) ++ (table.cachedAt distance).getLast?.toList
      else table.nodesAt distance := by
  rcases table.remove_eq id with ⟨absent, same⟩ | ⟨bucket, found, present, changed⟩
  · rw [same, absent, if_neg (by simp)]
  · have contained : table.contains id = true := by simp [contains, found, present]
    rw [changed, nodesAt_setBucket]
    split
    · rename_i here
      rw [if_pos ⟨contained, here⟩, here, nodesAt_of_bucket? found, cachedAt_of_bucket? found]
      rfl
    · rename_i elsewhere
      rw [if_neg fun both => elsewhere both.2]

/-! ## All nodes -/

namespace WellFormed

variable (wf : table.WellFormed)

include wf

theorem of_mem_nodesAt (mem : node ∈ table.nodesAt distance) :
    node.family = table.family ∧ table.id.distance node.id = distance := by
  unfold nodesAt at mem
  cases found : table.bucket? distance with
  | none => simp [found] at mem
  | some bucket =>
    rw [found] at mem
    have live : node ∈ bucket.nodes ++ bucket.cached := List.mem_append_left _ mem
    exact ⟨(wf.of_bucket? found).family_eq node live, (wf.of_bucket? found).distance_eq node live⟩

theorem mem_nodes_iff : node ∈ table.nodes ↔ node ∈ table.nodesAt (table.id.distance node.id) := by
  rw [wf.ascending.mem_nodes_iff]
  constructor
  · rintro ⟨distance, mem⟩
    rwa [(wf.of_mem_nodesAt mem).2]
  · exact fun mem => ⟨_, mem⟩

theorem contains_iff_mem_nodes : table.contains id = true ↔ id ∈ table.nodes.map Node.id := by
  rw [contains_iff, List.mem_map]
  constructor
  · rintro ⟨node, mem, rfl⟩
    exact ⟨node, wf.mem_nodes_iff.2 mem, rfl⟩
  · rintro ⟨node, mem, rfl⟩
    exact ⟨node, wf.mem_nodes_iff.1 mem, rfl⟩

/-- Nodes of one bucket differ in their ids, those of two buckets in their distances. -/
theorem distinct_nodes : (table.nodes.map Node.id).Nodup := by
  rw [List.Nodup, List.pairwise_map, nodes, List.pairwise_flatMap]
  constructor
  · intro entry listed
    obtain ⟨distance, bucket⟩ := entry
    have distinct := (wf.buckets listed).distinct_nodes
    rwa [List.Nodup, List.pairwise_map] at distinct
  · apply wf.ascending.imp_of_mem
    intro first second firstListed secondListed before a inFirst b inSecond same
    obtain ⟨nearer, first⟩ := first
    obtain ⟨farther, second⟩ := second
    have atFirst := (wf.buckets firstListed).distance_eq a (List.mem_append_left _ inFirst)
    have atSecond := (wf.buckets secondListed).distance_eq b (List.mem_append_left _ inSecond)
    rw [same, atSecond] at atFirst
    exact Nat.ne_of_gt before atFirst

end WellFormed

/-- What removing an id may do to the nodes: that id goes and no other one, and
what comes in is the latest replacement at its distance. -/
structure Removes (before : RoutingTable) (id : Id) (after : RoutingTable) : Prop where
  gone : after.contains id = false
  kept : ∀ node ∈ before.nodes, node.id ≠ id → node ∈ after.nodes
  came : ∀ node ∈ after.nodes, node ∈ before.nodes ∨
    (before.cachedAt (before.id.distance id)).getLast? = some node

/-- A node that is there is no replacement. -/
theorem WellFormed.not_mem_cachedAt (wf : table.WellFormed) {id : Id}
    (live : table.contains id = true) :
    id ∉ (table.cachedAt (table.id.distance id)).map Node.id := by
  rw [contains_iff] at live
  cases found : table.bucket? (table.id.distance id) with
  | none =>
    rw [cachedAt, found]
    exact List.not_mem_nil
  | some bucket =>
    rw [nodesAt_of_bucket? found] at live
    rw [cachedAt_of_bucket? found]
    exact (wf.of_bucket? found).not_mem_cached (List.mem_map.2 live)

/-- The replacement that comes in does not have the id that goes. -/
theorem WellFormed.removes (wf : table.WellFormed) (id : Id) :
    Removes table id (table.remove id).2 where
  gone := by
    rw [Bool.eq_false_iff]
    intro present
    obtain ⟨node, mem, rfl⟩ := contains_iff.1 present
    rw [id_remove, nodesAt_remove] at mem
    split at mem
    · rename_i here
      rcases List.mem_append.1 mem with old | replacement
      · exact (Bucket.mem_without.1 old).2 rfl
      · rw [Option.mem_toList] at replacement
        exact wf.not_mem_cachedAt here.1
          (List.mem_map_of_mem (List.mem_of_getLast? replacement))
    · rename_i absent
      exact absent ⟨contains_iff.2 ⟨node, mem, rfl⟩, rfl⟩
  kept := by
    intro node mem other
    rw [(wf.remove id).mem_nodes_iff, id_remove, nodesAt_remove]
    have listed := wf.mem_nodes_iff.1 mem
    split
    · exact List.mem_append_left _ (Bucket.mem_without.2 ⟨listed, other⟩)
    · exact listed
  came := by
    intro node mem
    rw [(wf.remove id).mem_nodes_iff, id_remove, nodesAt_remove] at mem
    split at mem
    · rename_i here
      rcases List.mem_append.1 mem with old | replacement
      · exact .inl (wf.mem_nodes_iff.2 (Bucket.mem_without.1 old).1)
      · rw [here.2, Option.mem_toList] at replacement
        exact .inr replacement
    · exact .inl (wf.mem_nodes_iff.2 mem)

/-! ## The oldest node of a bucket -/

namespace WellFormed

variable {oldest : Node} {others : List Node} (wf : table.WellFormed)

include wf

/-- Nodes at one distance differ in their ids. -/
theorem distinct_nodesAt (distance : Nat) : ((table.nodesAt distance).map Node.id).Nodup := by
  unfold nodesAt
  cases found : table.bucket? distance with
  | none => exact List.nodup_nil
  | some bucket => exact (wf.of_bucket? found).distinct_nodes

theorem without_oldest (nodes : table.nodesAt distance = oldest :: others) :
    Bucket.without oldest.id (table.nodesAt distance) = others := by
  have distinct := wf.distinct_nodesAt distance
  rw [nodes] at distinct ⊢
  have rest := Bucket.without_eq_self (List.nodup_cons.1 distinct).1
  rw [Bucket.without] at rest
  rw [Bucket.without, List.filter_cons_of_neg (by simp), rest]

/-- A bucket with a node is at a distance that the own id does not have. -/
theorem distance_ne_zero (nodes : table.nodesAt distance = oldest :: others) : distance ≠ 0 := by
  unfold nodesAt at nodes
  cases found : table.bucket? distance with
  | none =>
    rw [found] at nodes
    cases nodes
  | some bucket => exact Nat.one_le_iff_ne_zero.1 (wf.of_bucket? found).distance_pos

/-- A newcomer to a full bucket waits for the oldest node there. -/
theorem insert_eq_of_full (ofFamily : node.family = table.family)
    (absent : table.contains node.id = false)
    (nodes : table.nodesAt (table.id.distance node.id) = oldest :: others)
    (full : Bucket.capacity ≤ (oldest :: others).length) (now : Nat) :
    table.insert now node =
      (.deferred oldest,
        table.setBucket (table.id.distance node.id)
          ((table.bucketFor now node.id).cache node)) := by
  have unknown : (table.insert now node).1 ≠ .stored := by
    rw [ne_eq, insert_eq_stored_iff]
    rintro ⟨-, -, present | room⟩
    · rw [Bool.eq_false_iff] at absent
      exact absent (contains_iff.2 (List.mem_map.1 present))
    · rw [nodes] at room
      exact Nat.not_lt.2 full room
  have inserted := table.inserted_insert now node
  generalize table.insert now node = result at inserted unknown ⊢
  cases inserted with
  | refused unfit =>
    rcases unfit with other | same
    · exact absurd ofFamily other
    · exact absurd same (wf.distance_ne_zero nodes)
  | stored ofFamily apart fits => exact absurd rfl unknown
  | deferred ofFamily apart absent nodes_eq full =>
    rw [nodes_bucketFor, nodes, List.cons.injEq] at nodes_eq
    rw [nodes_eq.1]

/-- No node moves for a newcomer to a full bucket, and that is the latest
replacement from then on. -/
theorem insert_of_full (ofFamily : node.family = table.family)
    (absent : table.contains node.id = false)
    (nodes : table.nodesAt (table.id.distance node.id) = oldest :: others)
    (full : Bucket.capacity ≤ (oldest :: others).length) (now : Nat) :
    (table.insert now node).1 = .deferred oldest ∧
      (∀ distance, (table.insert now node).2.nodesAt distance = table.nodesAt distance) ∧
      ((table.insert now node).2.cachedAt (table.id.distance node.id)).getLast? = some node := by
  have waits := wf.insert_eq_of_full ofFamily absent nodes full now
  refine ⟨by rw [waits], ?_, ?_⟩
  · intro distance
    rw [nodesAt_insert, waits, if_neg fun both => Insertion.noConfusion both.1]
  · rw [waits, cachedAt_setBucket, if_pos rfl, Bucket.cache, List.getLast?_concat]

/-- When the oldest node is removed the latest replacement comes in last. -/
theorem nodesAt_remove_oldest (nodes : table.nodesAt distance = oldest :: others)
    (last : (table.cachedAt distance).getLast? = some node) (other : Nat) :
    (table.remove oldest.id).2.nodesAt other =
      if other = distance then others ++ [node] else table.nodesAt other := by
  have live : oldest ∈ table.nodesAt distance := by
    rw [nodes]
    exact List.mem_cons_self
  obtain ⟨-, placed⟩ := wf.of_mem_nodesAt live
  have present : table.contains oldest.id = true := by
    rw [contains_iff, placed]
    exact ⟨oldest, live, rfl⟩
  rw [nodesAt_remove, placed]
  by_cases here : other = distance
  · rw [if_pos ⟨present, here⟩, if_pos here, here, wf.without_oldest nodes, last]
    rfl
  · rw [if_neg fun both => here both.2, if_neg here]

/-- When the oldest node is seen again it is the latest one. -/
theorem insert_oldest (nodes : table.nodesAt distance = oldest :: others) (now : Nat) :
    (table.insert now oldest).1 = .stored ∧
      ∀ other, (table.insert now oldest).2.nodesAt other =
        if other = distance then others ++ [oldest] else table.nodesAt other := by
  have live : oldest ∈ table.nodesAt distance := by
    rw [nodes]
    exact List.mem_cons_self
  obtain ⟨ofFamily, placed⟩ := wf.of_mem_nodesAt live
  have stored : (table.insert now oldest).1 = .stored := by
    rw [insert_eq_stored_iff, placed]
    exact ⟨ofFamily, wf.distance_ne_zero nodes, .inl (List.mem_map_of_mem live)⟩
  refine ⟨stored, ?_⟩
  intro other
  rw [nodesAt_insert, placed]
  by_cases here : other = distance
  · rw [if_pos ⟨stored, here⟩, if_pos here, here, wf.without_oldest nodes]
  · rw [if_neg fun both => here both.2, if_neg here]

end WellFormed

end Kademlia.RoutingTable
