import Kademlia.Proofs.Table.Invariant

/-!
# Looking after buckets

A refresh asks a table for the distances of the buckets that need it, and marks those
buckets as looked after.  The buckets of a well-formed table all have nodes, so none is
looked after in vain, and nothing but the marks changes.
-/

namespace Kademlia.RoutingTable

variable {table : RoutingTable} {distance now : Nat} {wanted : Bucket → Bool}

/-! ## Which buckets -/

/-- The distances of the buckets that are wanted. -/
def distancesOf (table : RoutingTable) (wanted : Bucket → Bool) : List Nat :=
  (table.buckets.filter fun (_, bucket) => wanted bucket).map Prod.fst

theorem distances_eq (table : RoutingTable) :
    table.distances = table.distancesOf fun bucket => !bucket.nodes.isEmpty :=
  rfl

theorem stale_eq (table : RoutingTable) (now interval : Nat) :
    table.stale now interval =
      table.distancesOf fun bucket => interval ≤ now - bucket.touched :=
  rfl

theorem Ascending.mem_distancesOf_iff (ascending : Ascending table.buckets) :
    distance ∈ table.distancesOf wanted ↔
      ∃ bucket, table.bucket? distance = some bucket ∧ wanted bucket = true := by
  simp only [distancesOf, List.mem_map, List.mem_filter, ascending.bucket?_eq_some_iff]
  constructor
  · rintro ⟨⟨d, bucket⟩, ⟨listed, chosen⟩, rfl⟩
    exact ⟨bucket, listed, chosen⟩
  · rintro ⟨bucket, listed, chosen⟩
    exact ⟨(distance, bucket), ⟨listed, chosen⟩, rfl⟩

/-- They come in ascending order, each of them once. -/
theorem Ascending.distancesOf_pairwise (ascending : Ascending table.buckets)
    (wanted : Bucket → Bool) : (table.distancesOf wanted).Pairwise (· < ·) :=
  List.pairwise_map.2 (List.Pairwise.filter _ ascending)

theorem isEmpty_iff : table.isEmpty = true ↔ table.nodes = [] := by
  simp [isEmpty, nodes]

namespace WellFormed

variable (wf : table.WellFormed)

include wf

/-- Where there is a bucket, there are nodes. -/
theorem nodesAt_ne_nil {bucket : Bucket} (found : table.bucket? distance = some bucket) :
    table.nodesAt distance ≠ [] := by
  rw [nodesAt_of_bucket? found]
  exact (wf.of_bucket? found).nodes_ne_nil

/-- Without nodes there are no buckets. -/
theorem bucket?_of_nodes_nil (vacant : table.nodes = []) (distance : Nat) :
    table.bucket? distance = none := by
  refine Option.eq_none_iff_forall_ne_some.2 fun bucket found => ?_
  obtain ⟨node, mem⟩ := List.exists_mem_of_ne_nil _ (wf.nodesAt_ne_nil found)
  have listed : node ∈ table.nodes := wf.ascending.mem_nodes_iff.2 ⟨distance, mem⟩
  rw [vacant] at listed
  exact List.not_mem_nil listed

end WellFormed

/-! ## Marking them -/

/-- A table with the buckets at some distances marked as looked after. -/
def touchAll (table : RoutingTable) (now : Nat) (distances : List Nat) : RoutingTable :=
  distances.foldl (fun table distance => table.touch now distance) table

/-- Buckets that are touched one after another are all touched. -/
theorem touchAll_eq (table : RoutingTable) (now : Nat) (distances : List Nat) :
    table.touchAll now distances =
      { table with
        buckets := table.buckets.map fun (distance, bucket) =>
          (distance, if distance ∈ distances then bucket.touch now else bucket) } := by
  induction distances generalizing table with
  | nil => simp [touchAll]
  | cons touched distances ih =>
    have rest : table.touchAll now (touched :: distances) =
        (table.touch now touched).touchAll now distances := rfl
    rw [rest, ih, touch, List.map_map]
    congr 2
    funext entry
    rw [Function.comp_apply]
    by_cases here : entry.1 = touched
    · simp [here, Bucket.touch]
    · simp [here]

theorem bucket?_touchAll (table : RoutingTable) (now : Nat) (distances : List Nat)
    (distance : Nat) :
    (table.touchAll now distances).bucket? distance =
      (table.bucket? distance).map fun bucket =>
        if distance ∈ distances then bucket.touch now else bucket := by
  rw [touchAll_eq]
  exact Association.lookup_map
    (fun d (bucket : Bucket) => if d ∈ distances then bucket.touch now else bucket) table.buckets
    distance

theorem nodes_touchAll (table : RoutingTable) (now : Nat) (distances : List Nat) :
    (table.touchAll now distances).nodes = table.nodes := by
  rw [touchAll_eq, nodes, nodes, List.flatMap_map]
  congr 1
  funext entry
  dsimp only
  split
  · rfl
  · rfl

end Kademlia.RoutingTable
