import Kademlia.Table.Bucket
import Kademlia.Id

/-!
# What buckets keep

The nodes of a bucket and their replacements all have different ids, and there
are replacements only while the bucket is full.  Neither half survives alone:
a replacement moves up without meeting its own id because it was cached for a
node that was not there, and that is so because the bucket was full.
-/

namespace Kademlia.Bucket

/-! ## Taking out an id -/

section Without

variable {id : Id} {nodes : List Node}

theorem mem_without {node : Node} : node ∈ without id nodes ↔ node ∈ nodes ∧ node.id ≠ id := by
  simp [without]

theorem without_sublist (id : Id) (nodes : List Node) : (without id nodes).Sublist nodes :=
  List.filter_sublist

theorem without_eq_self (absent : id ∉ nodes.map Node.id) : without id nodes = nodes := by
  rw [without, List.filter_eq_self]
  intro node mem
  simp only [decide_eq_true_eq]
  rintro rfl
  exact absent (List.mem_map_of_mem mem)

/-- Among nodes with different ids, taking out an id that is there takes out one node. -/
theorem length_without (distinct : (nodes.map Node.id).Nodup) (present : id ∈ nodes.map Node.id) :
    (without id nodes).length + 1 = nodes.length := by
  induction nodes with
  | nil => simp at present
  | cons node nodes ih =>
    rw [List.map_cons, List.nodup_cons] at distinct
    by_cases here : node.id = id
    · have others := without_eq_self (here ▸ distinct.1)
      rw [without] at others
      rw [without, List.filter_cons_of_neg (by simpa using here), others, List.length_cons]
    · have later : id ∈ nodes.map Node.id := by
        rcases List.mem_cons.1 present with equal | later
        · exact absurd equal.symm here
        · exact later
      have shorter := ih distinct.2 later
      rw [without] at shorter
      rw [without, List.filter_cons_of_pos (by simpa using here), List.length_cons, shorter,
        List.length_cons]

end Without

theorem contains_iff {bucket : Bucket} {id : Id} :
    bucket.contains id = true ↔ id ∈ bucket.nodes.map Node.id := by
  simp [contains, List.any_eq_true]

/-- Caching puts a node last, behind some of the replacements of other ids. -/
theorem exists_cached_cache {bucket : Bucket} (bounded : bucket.cached.length ≤ cacheCapacity)
    (node : Node) :
    ∃ kept, (bucket.cache node).cached = kept ++ [node] ∧
      kept.Sublist (without node.id bucket.cached) ∧ kept.length < cacheCapacity := by
  have shorter := (without_sublist node.id bucket.cached).length_le
  refine ⟨_, rfl, ?_, ?_⟩
  · split
    · exact List.drop_sublist 1 _
    · exact List.Sublist.refl _
  · have positive : 0 < cacheCapacity := by decide
    split
    · rw [List.length_drop]
      omega
    · omega

/-- The latest replacement moves from one list to the other. -/
theorem remove_perm (bucket : Bucket) (id : Id) :
    ((bucket.remove id).nodes ++ (bucket.remove id).cached).Perm
      (without id bucket.nodes ++ bucket.cached) := by
  simp only [remove, List.append_assoc]
  apply List.Perm.append_left
  cases last : bucket.cached.getLast? with
  | none =>
    rw [List.getLast?_eq_none_iff.1 last]
    simp
  | some node =>
    obtain ⟨init, equal⟩ := List.getLast?_eq_some_iff.1 last
    rw [equal, List.dropLast_concat]
    exact (List.perm_append_singleton node init).symm

/-! ## The invariant -/

/-- What holds of every bucket of a table with this id and family: it is at a
distance that ids can have, its nodes belong there and no two have the same id,
replacements included, it has at least one and not too many, and it has
replacements only for want of room. -/
structure WellFormed (own : Id) (family : Family) (distance : Nat) (bucket : Bucket) : Prop where
  distance_pos : 1 ≤ distance
  distance_le : distance ≤ 160
  family_eq : ∀ node ∈ bucket.nodes ++ bucket.cached, node.family = family
  distance_eq : ∀ node ∈ bucket.nodes ++ bucket.cached, own.distance node.id = distance
  nodes_ne_nil : bucket.nodes ≠ []
  length_nodes_le : bucket.nodes.length ≤ capacity
  length_cached_le : bucket.cached.length ≤ cacheCapacity
  distinct : ((bucket.nodes ++ bucket.cached).map Node.id).Nodup
  full_of_cached : bucket.cached ≠ [] → bucket.nodes.length = capacity

variable {own : Id} {family : Family} {distance now : Nat} {bucket : Bucket} {node : Node}

theorem wellFormed_refresh_empty (near : 1 ≤ distance) (far : distance ≤ 160)
    (ofFamily : node.family = family) (atDistance : own.distance node.id = distance) :
    ((empty now).refresh now node).WellFormed own family distance where
  distance_pos := near
  distance_le := far
  family_eq := by simpa [refresh, empty, without] using ofFamily
  distance_eq := by simpa [refresh, empty, without] using atDistance
  nodes_ne_nil := by simp [refresh]
  length_nodes_le := by simp [refresh, empty, without, capacity]
  length_cached_le := by simp [refresh, empty]
  distinct := by simp [refresh, empty, without]
  full_of_cached := by simp [refresh, empty]

namespace WellFormed

variable (wf : bucket.WellFormed own family distance)

include wf

theorem distinct_nodes : (bucket.nodes.map Node.id).Nodup := by
  have distinct := wf.distinct
  rw [List.map_append] at distinct
  exact (List.nodup_append.1 distinct).1

/-- No node has a replacement of its own id. -/
theorem not_mem_cached {id : Id} (live : id ∈ bucket.nodes.map Node.id) :
    id ∉ bucket.cached.map Node.id := by
  have distinct := wf.distinct
  rw [List.map_append] at distinct
  intro cached
  exact (List.nodup_append.1 distinct).2.2 id live id cached rfl

/-- A node whose id is there already, or for which there is room, has no
replacement of its id. -/
theorem not_mem_cached_of_fits
    (fits : bucket.contains node.id = true ∨ bucket.nodes.length < capacity) :
    node.id ∉ bucket.cached.map Node.id := by
  rcases fits with present | room
  · exact wf.not_mem_cached (contains_iff.1 present)
  · by_cases none_cached : bucket.cached = []
    · simp [none_cached]
    · rw [wf.full_of_cached none_cached] at room
      exact absurd room (Nat.lt_irrefl capacity)

/-- Seeing a node again, or a new one while there is room. -/
theorem refresh (ofFamily : node.family = family) (atDistance : own.distance node.id = distance)
    (fits : bucket.contains node.id = true ∨ bucket.nodes.length < capacity) :
    (bucket.refresh now node).WellFormed own family distance := by
  have uncached := wf.not_mem_cached_of_fits fits
  have length : (without node.id bucket.nodes ++ [node]).length =
      if bucket.contains node.id then bucket.nodes.length else bucket.nodes.length + 1 := by
    rw [List.length_append, List.length_singleton]
    split
    · rename_i present
      exact length_without wf.distinct_nodes (contains_iff.1 present)
    · rename_i absent
      rw [without_eq_self (fun present => absent (contains_iff.2 present))]
  have kept : ∀ other ∈ (without node.id bucket.nodes ++ [node]) ++ bucket.cached,
      other ∈ bucket.nodes ++ bucket.cached ∨ other = node := by
    intro other mem
    simp only [List.mem_append, List.mem_singleton, mem_without] at mem ⊢
    grind
  constructor
  · exact wf.distance_pos
  · exact wf.distance_le
  · intro other mem
    rcases kept other mem with old | rfl
    · exact wf.family_eq other old
    · exact ofFamily
  · intro other mem
    rcases kept other mem with old | rfl
    · exact wf.distance_eq other old
    · exact atDistance
  · simp [Bucket.refresh]
  · have bound := wf.length_nodes_le
    simp only [Bucket.refresh, length]
    split
    · exact bound
    · rename_i absent
      rcases fits with present | room
      · exact absurd present absent
      · exact room
  · exact wf.length_cached_le
  · have shrunk : ((without node.id bucket.nodes ++ bucket.cached).map Node.id).Nodup :=
      (((without_sublist node.id bucket.nodes).append_right bucket.cached).map Node.id).nodup
        wf.distinct
    have fresh : node.id ∉ (without node.id bucket.nodes ++ bucket.cached).map Node.id := by
      simp only [List.map_append, List.mem_append, not_or]
      refine ⟨?_, uncached⟩
      simp [mem_without]
    have reordered : ((without node.id bucket.nodes ++ [node]) ++ bucket.cached).Perm
        (node :: (without node.id bucket.nodes ++ bucket.cached)) := by
      rw [List.append_assoc]
      exact List.perm_middle
    exact (reordered.map Node.id).nodup_iff.2 (List.nodup_cons.2 ⟨fresh, shrunk⟩)
  · intro cached
    have full := wf.full_of_cached cached
    simp only [Bucket.refresh, length]
    rcases fits with present | room
    · rw [if_pos present, full]
    · rw [full] at room
      exact absurd room (Nat.lt_irrefl capacity)

/-- Keeping a newcomer as a replacement while there is no room for it. -/
theorem cache (ofFamily : node.family = family) (atDistance : own.distance node.id = distance)
    (absent : bucket.contains node.id = false) (full : capacity ≤ bucket.nodes.length) :
    (bucket.cache node).WellFormed own family distance := by
  obtain ⟨kept, cached, older, room⟩ := exists_cached_cache wf.length_cached_le node
  have keptOld : ∀ other ∈ bucket.nodes ++ (kept ++ [node]),
      other ∈ bucket.nodes ++ bucket.cached ∨ other = node := by
    intro other mem
    simp only [List.mem_append, List.mem_singleton] at mem ⊢
    rcases mem with live | early | last
    · exact .inl (.inl live)
    · exact .inl (.inr (mem_without.1 (older.subset early)).1)
    · exact .inr last
  constructor
  · exact wf.distance_pos
  · exact wf.distance_le
  · intro other mem
    rw [cached] at mem
    rcases keptOld other mem with old | rfl
    · exact wf.family_eq other old
    · exact ofFamily
  · intro other mem
    rw [cached] at mem
    rcases keptOld other mem with old | rfl
    · exact wf.distance_eq other old
    · exact atDistance
  · exact wf.nodes_ne_nil
  · exact wf.length_nodes_le
  · rw [cached, List.length_append, List.length_singleton]
    exact room
  · have shrunk : ((bucket.nodes ++ kept).map Node.id).Nodup :=
      (((older.trans (without_sublist node.id bucket.cached)).append_left bucket.nodes).map
        Node.id).nodup wf.distinct
    have fresh : node.id ∉ (bucket.nodes ++ kept).map Node.id := by
      simp only [List.map_append, List.mem_append, not_or]
      constructor
      · intro live
        rw [contains_iff.2 live] at absent
        cases absent
      · intro early
        obtain ⟨other, mem, same⟩ := List.mem_map.1 early
        exact (mem_without.1 (older.subset mem)).2 same
    have reordered : (bucket.nodes ++ (kept ++ [node])).Perm (node :: (bucket.nodes ++ kept)) := by
      rw [← List.append_assoc]
      exact List.perm_append_singleton node (bucket.nodes ++ kept)
    change ((bucket.nodes ++ (bucket.cache node).cached).map Node.id).Nodup
    rw [cached]
    exact (reordered.map Node.id).nodup_iff.2 (List.nodup_cons.2 ⟨fresh, shrunk⟩)
  · intro _
    exact Nat.le_antisymm wf.length_nodes_le full

/-- Removing a node that is there; without a replacement the bucket may be left empty. -/
theorem remove {id : Id} (present : bucket.contains id = true) :
    (bucket.remove id).isEmpty = true ∨ (bucket.remove id).WellFormed own family distance := by
  have shorter := length_without wf.distinct_nodes (contains_iff.1 present)
  have sublist : (without id bucket.nodes ++ bucket.cached).Sublist
      (bucket.nodes ++ bucket.cached) := (without_sublist id bucket.nodes).append_right _
  have reordered := remove_perm bucket id
  have old : ∀ node ∈ (bucket.remove id).nodes ++ (bucket.remove id).cached,
      node ∈ bucket.nodes ++ bucket.cached := fun node mem =>
    sublist.subset (reordered.subset mem)
  have length : (bucket.remove id).nodes.length =
      if bucket.cached = [] then bucket.nodes.length - 1 else bucket.nodes.length := by
    simp only [Bucket.remove, List.length_append]
    cases last : bucket.cached.getLast? with
    | none =>
      rw [if_pos (List.getLast?_eq_none_iff.1 last)]
      simp only [Option.toList_none, List.length_nil]
      omega
    | some node =>
      obtain ⟨init, equal⟩ := List.getLast?_eq_some_iff.1 last
      rw [if_neg (by simp [equal])]
      exact shorter
  by_cases vacant : (bucket.remove id).nodes = []
  · left
    have uncached : bucket.cached = [] := by
      by_cases cached : bucket.cached = []
      · exact cached
      · rw [vacant, if_neg cached, wf.full_of_cached cached] at length
        exact absurd length (by decide)
    rw [isEmpty, vacant]
    simp [Bucket.remove, uncached]
  right
  constructor
  · exact wf.distance_pos
  · exact wf.distance_le
  · exact fun node mem => wf.family_eq node (old node mem)
  · exact fun node mem => wf.distance_eq node (old node mem)
  · exact vacant
  · have bound := wf.length_nodes_le
    rw [length]
    split
    · exact Nat.le_trans (Nat.sub_le _ _) bound
    · exact bound
  · have bound := wf.length_cached_le
    simp only [Bucket.remove, List.length_dropLast]
    exact Nat.le_trans (Nat.sub_le _ _) bound
  · exact (reordered.map Node.id).nodup_iff.2 ((sublist.map Node.id).nodup wf.distinct)
  · intro cached
    have some_cached : bucket.cached ≠ [] := by
      intro none_cached
      simp [Bucket.remove, none_cached] at cached
    rw [length, if_neg some_cached]
    exact wf.full_of_cached some_cached

end WellFormed

end Kademlia.Bucket
