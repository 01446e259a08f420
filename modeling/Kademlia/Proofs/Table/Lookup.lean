import Kademlia.Proofs.Association
import Kademlia.Table.Basic

/-!
# Buckets by distance

What an operation does to a table is said by what it does to the bucket at one
distance; the buckets at all others are as they were.
-/

namespace Kademlia.RoutingTable

variable {table : RoutingTable} {distance other : Nat} {bucket : Bucket}

/-! ## Setting a bucket -/

theorem lookup_put (distance : Nat) (bucket : Bucket) (buckets : List (Nat × Bucket))
    (other : Nat) :
    (put distance bucket buckets).lookup other =
      if other = distance then some bucket else buckets.lookup other := by
  induction buckets with
  | nil =>
    rw [put]
    split
    · rename_i here
      rw [here, List.lookup_cons_self]
    · rename_i elsewhere
      rw [Association.lookup_cons_of_ne elsewhere]
  | cons entry buckets ih =>
    obtain ⟨d, b⟩ := entry
    rw [put]
    by_cases before : distance < d
    · rw [if_pos before]
      split
      · rename_i here
        rw [here, List.lookup_cons_self]
      · rename_i elsewhere
        rw [Association.lookup_cons_of_ne elsewhere]
    rw [if_neg before]
    by_cases same : distance = d
    · subst same
      rw [if_pos rfl]
      split
      · rename_i here
        rw [here, List.lookup_cons_self]
      · rename_i elsewhere
        rw [Association.lookup_cons_of_ne elsewhere, Association.lookup_cons_of_ne elsewhere]
    · rw [if_neg same]
      by_cases there : other = d
      · rw [there, List.lookup_cons_self, List.lookup_cons_self, if_neg (Ne.symm same)]
      · rw [Association.lookup_cons_of_ne there, Association.lookup_cons_of_ne there, ih]

/-- A bucket is set at its distance, where an empty one is no bucket. -/
theorem bucket?_setBucket (table : RoutingTable) (distance : Nat) (bucket : Bucket) (other : Nat) :
    (table.setBucket distance bucket).bucket? other =
      if other = distance then (if bucket.isEmpty then none else some bucket)
      else table.bucket? other := by
  unfold setBucket
  split
  · exact Association.lookup_filter_ne distance table.buckets other
  · exact lookup_put distance bucket table.buckets other

@[simp]
theorem id_setBucket : (table.setBucket distance bucket).id = table.id := by
  unfold setBucket
  split <;> rfl

@[simp]
theorem family_setBucket : (table.setBucket distance bucket).family = table.family := by
  unfold setBucket
  split <;> rfl

/-! ## Buckets in order -/

/-- Buckets in ascending order of their distances. -/
def Ascending (buckets : List (Nat × Bucket)) : Prop :=
  buckets.Pairwise fun first second => first.1 < second.1

theorem mem_put {entry : Nat × Bucket} {buckets : List (Nat × Bucket)}
    (mem : entry ∈ put distance bucket buckets) :
    entry = (distance, bucket) ∨ entry ∈ buckets := by
  induction buckets with
  | nil => exact .inl (List.mem_singleton.1 mem)
  | cons head buckets ih =>
    obtain ⟨d, b⟩ := head
    rw [put] at mem
    split at mem
    · exact List.mem_cons.1 mem
    · split at mem
      · rcases List.mem_cons.1 mem with new | old
        · exact .inl new
        · exact .inr (List.mem_cons_of_mem _ old)
      · rcases List.mem_cons.1 mem with rfl | later
        · exact .inr List.mem_cons_self
        · rcases ih later with new | old
          · exact .inl new
          · exact .inr (List.mem_cons_of_mem _ old)

theorem Ascending.put {buckets : List (Nat × Bucket)} (ascending : Ascending buckets)
    (distance : Nat) (bucket : Bucket) : Ascending (put distance bucket buckets) := by
  induction buckets with
  | nil => exact List.pairwise_singleton _ _
  | cons head buckets ih =>
    obtain ⟨d, b⟩ := head
    obtain ⟨below, rest⟩ := List.pairwise_cons.1 ascending
    rw [RoutingTable.put]
    split
    · rename_i before
      apply List.pairwise_cons.2
      constructor
      · intro entry mem
        rcases List.mem_cons.1 mem with rfl | later
        · exact before
        · exact Nat.lt_trans before (below entry later)
      · exact ascending
    · rename_i notBefore
      split
      · rename_i same
        subst same
        exact List.pairwise_cons.2 ⟨below, rest⟩
      · rename_i different
        apply List.pairwise_cons.2
        constructor
        · intro entry mem
          rcases mem_put mem with rfl | old
          · exact Nat.lt_of_le_of_ne (Nat.le_of_not_lt notBefore) (Ne.symm different)
          · exact below entry old
        · exact ih rest

theorem Ascending.setBucket (ascending : Ascending table.buckets) (distance : Nat)
    (bucket : Bucket) : Ascending (table.setBucket distance bucket).buckets := by
  unfold RoutingTable.setBucket
  split
  · exact List.Pairwise.filter _ ascending
  · exact ascending.put distance bucket

/-- Among buckets in order, the one at a distance is the one listed with it. -/
theorem Ascending.bucket?_eq_some_iff (ascending : Ascending table.buckets) :
    table.bucket? distance = some bucket ↔ (distance, bucket) ∈ table.buckets := by
  unfold bucket?
  generalize table.buckets = buckets at ascending
  induction buckets with
  | nil => simp
  | cons head buckets ih =>
    obtain ⟨d, b⟩ := head
    obtain ⟨below, rest⟩ := List.pairwise_cons.1 ascending
    by_cases here : distance = d
    · subst here
      have later : (distance, bucket) ∉ buckets := fun mem =>
        Nat.lt_irrefl distance (below _ mem)
      rw [List.lookup_cons_self, List.mem_cons]
      simp [later, eq_comm]
    · rw [Association.lookup_cons_of_ne here, ih rest, List.mem_cons]
      simp [here]

/-! ## The nodes at a distance -/

/-- The nodes at a distance, the least recently seen one first. -/
def nodesAt (table : RoutingTable) (distance : Nat) : List Node :=
  ((table.bucket? distance).map Bucket.nodes).getD []

/-- The replacements at a distance, the latest one last. -/
def cachedAt (table : RoutingTable) (distance : Nat) : List Node :=
  ((table.bucket? distance).map Bucket.cached).getD []

theorem nodesAt_of_bucket? (found : table.bucket? distance = some bucket) :
    table.nodesAt distance = bucket.nodes := by
  rw [nodesAt, found]
  rfl

theorem cachedAt_of_bucket? (found : table.bucket? distance = some bucket) :
    table.cachedAt distance = bucket.cached := by
  rw [cachedAt, found]
  rfl

theorem nodesAt_setBucket (table : RoutingTable) (distance : Nat) (bucket : Bucket) (other : Nat) :
    (table.setBucket distance bucket).nodesAt other =
      if other = distance then bucket.nodes else table.nodesAt other := by
  rw [nodesAt, bucket?_setBucket]
  split
  · split
    · rename_i vacant
      simp only [Bucket.isEmpty, Bool.and_eq_true, List.isEmpty_iff] at vacant
      rw [vacant.1]
      rfl
    · rfl
  · rfl

theorem cachedAt_setBucket (table : RoutingTable) (distance : Nat) (bucket : Bucket)
    (other : Nat) :
    (table.setBucket distance bucket).cachedAt other =
      if other = distance then bucket.cached else table.cachedAt other := by
  rw [cachedAt, bucket?_setBucket]
  split
  · split
    · rename_i vacant
      simp only [Bucket.isEmpty, Bool.and_eq_true, List.isEmpty_iff] at vacant
      rw [vacant.2]
      rfl
    · rfl
  · rfl

/-! ## Touching a bucket -/

/-- Only the bucket that is touched is found changed. -/
theorem bucket?_touch (table : RoutingTable) (now touched distance : Nat) :
    (table.touch now touched).bucket? distance =
      (table.bucket? distance).map fun bucket =>
        if distance = touched then bucket.touch now else bucket :=
  Association.lookup_map
    (fun d (bucket : Bucket) => if d = touched then bucket.touch now else bucket) table.buckets
    distance

theorem nodesAt_touch (table : RoutingTable) (now touched distance : Nat) :
    (table.touch now touched).nodesAt distance = table.nodesAt distance := by
  rw [nodesAt, nodesAt, bucket?_touch, Option.map_map]
  congr 2
  funext bucket
  rw [Function.comp_apply]
  split
  · rfl
  · rfl

/-! ## The nodes of a table -/

/-- A table has a node of an id when there is one where that id belongs. -/
theorem contains_iff {id : Id} :
    table.contains id = true ↔ ∃ node ∈ table.nodesAt (table.id.distance id), node.id = id := by
  unfold contains nodesAt
  cases table.bucket? (table.id.distance id) with
  | none => simp
  | some bucket => simp [Bucket.contains]

/-- All nodes are those at the distances of the buckets. -/
theorem Ascending.mem_nodes_iff (ascending : Ascending table.buckets) {node : Node} :
    node ∈ table.nodes ↔ ∃ distance, node ∈ table.nodesAt distance := by
  simp only [nodes, List.mem_flatMap]
  constructor
  · rintro ⟨⟨distance, bucket⟩, listed, mem⟩
    refine ⟨distance, ?_⟩
    rwa [nodesAt_of_bucket? (ascending.bucket?_eq_some_iff.2 listed)]
  · rintro ⟨distance, mem⟩
    unfold nodesAt at mem
    cases found : table.bucket? distance with
    | none => simp [found] at mem
    | some bucket =>
      rw [found] at mem
      exact ⟨(distance, bucket), ascending.bucket?_eq_some_iff.1 found, mem⟩

/-- The size counts all nodes. -/
theorem size_eq_length_nodes (table : RoutingTable) : table.size = table.nodes.length := by
  have counted : ∀ (buckets : List (Nat × Bucket)) (start : Nat),
      buckets.foldl (fun count entry => count + entry.2.nodes.length) start =
        start + (buckets.flatMap fun entry => entry.2.nodes).length := by
    intro buckets
    induction buckets with
    | nil => simp
    | cons entry buckets ih =>
      intro start
      rw [List.foldl_cons, ih, List.flatMap_cons, List.length_append, Nat.add_assoc]
  calc
    table.size = 0 + table.nodes.length := counted table.buckets 0
    _ = table.nodes.length := Nat.zero_add _

end Kademlia.RoutingTable
