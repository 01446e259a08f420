import Kademlia.Proofs.Table.Eviction
import Kademlia.Proofs.Table.Run

/-!
# Where the nodes of a table come from

A table holds a node as one that is seen or as a replacement.  Only adding brings a
node into it, only removing takes one out that is seen, and what a table is asked for is
among the nodes it holds.
-/

namespace Kademlia

namespace Bucket

variable {bucket : Bucket} {node other : Node} {now : Nat} {id : Id}

theorem mem_of_refresh
    (mem : other ∈ (bucket.refresh now node).nodes ++ (bucket.refresh now node).cached) :
    other = node ∨ other ∈ bucket.nodes ++ bucket.cached := by
  rw [refresh, List.mem_append, List.mem_append, List.mem_singleton] at mem
  rcases mem with (live | new) | cached
  · exact .inr (List.mem_append_left _ (mem_without.1 live).1)
  · exact .inl new
  · exact .inr (List.mem_append_right _ cached)

theorem mem_of_cache
    (mem : other ∈ (bucket.cache node).nodes ++ (bucket.cache node).cached) :
    other = node ∨ other ∈ bucket.nodes ++ bucket.cached := by
  rw [cache, List.mem_append, List.mem_append, List.mem_singleton] at mem
  rcases mem with live | kept | new
  · exact .inr (List.mem_append_left _ live)
  · have among : other ∈ without node.id bucket.cached := by
      split at kept
      · exact List.mem_of_mem_drop kept
      · exact kept
    exact .inr (List.mem_append_right _ (mem_without.1 among).1)
  · exact .inl new

theorem mem_of_remove (mem : other ∈ (bucket.remove id).nodes ++ (bucket.remove id).cached) :
    other ∈ bucket.nodes ++ bucket.cached := by
  rw [remove, List.mem_append, List.mem_append] at mem
  rcases mem with (live | replacement) | cached
  · exact List.mem_append_left _ (mem_without.1 live).1
  · exact List.mem_append_right _ (List.mem_of_getLast? (Option.mem_toList.1 replacement))
  · exact List.mem_append_right _ ((List.dropLast_sublist _).subset cached)

end Bucket

namespace RoutingTable

variable {table : RoutingTable} {node other : Node} {now distance : Nat} {id target : Id}
  {bucket : Bucket}

/-- A node is in one of the buckets, as one that is seen or as a replacement. -/
def Holds (table : RoutingTable) (node : Node) : Prop :=
  ∃ entry ∈ table.buckets, node ∈ entry.2.nodes ++ entry.2.cached

theorem not_holds_empty (family : Family) (id : Id) (node : Node) :
    ¬ (empty family id).Holds node := by
  rintro ⟨entry, listed, -⟩
  exact List.not_mem_nil listed

theorem holds_of_bucket? (found : table.bucket? distance = some bucket)
    (mem : node ∈ bucket.nodes ++ bucket.cached) : table.Holds node := by
  obtain ⟨before, after, parts, -⟩ := List.lookup_eq_some_iff.1 found
  refine ⟨(distance, bucket), ?_, mem⟩
  rw [parts]
  exact List.mem_append_right before List.mem_cons_self

theorem holds_of_bucketFor (mem : node ∈ (table.bucketFor now id).nodes ++
    (table.bucketFor now id).cached) : table.Holds node := by
  unfold bucketFor at mem
  cases found : table.bucket? (table.id.distance id) with
  | none =>
    rw [found] at mem
    exact absurd mem List.not_mem_nil
  | some bucket =>
    rw [found] at mem
    exact holds_of_bucket? found mem

/-- What a table holds once a bucket is set is in that bucket, or was held before. -/
theorem Holds.of_setBucket (holds : (table.setBucket distance bucket).Holds node) :
    node ∈ bucket.nodes ++ bucket.cached ∨ table.Holds node := by
  obtain ⟨entry, listed, mem⟩ := holds
  unfold setBucket at listed
  split at listed
  · exact .inr ⟨entry, (List.mem_filter.1 listed).1, mem⟩
  · rcases mem_put listed with rfl | old
    · exact .inl mem
    · exact .inr ⟨entry, old, mem⟩

theorem Holds.of_insert (holds : (table.insert now node).2.Holds other) :
    other = node ∨ table.Holds other := by
  have inserted := table.inserted_insert now node
  generalize table.insert now node = result at inserted holds
  cases inserted with
  | refused unfit => exact .inr holds
  | stored ofFamily apart fits =>
    rcases holds.of_setBucket with mem | before
    · exact (Bucket.mem_of_refresh mem).imp_right holds_of_bucketFor
    · exact .inr before
  | deferred ofFamily apart absent nodes_eq full =>
    rcases holds.of_setBucket with mem | before
    · exact (Bucket.mem_of_cache mem).imp_right holds_of_bucketFor
    · exact .inr before

theorem Holds.of_remove (holds : (table.remove id).2.Holds node) : table.Holds node := by
  rcases table.remove_eq id with ⟨-, same⟩ | ⟨bucket, found, -, changed⟩
  · rwa [same] at holds
  · rw [changed] at holds
    rcases holds.of_setBucket with mem | before
    · exact holds_of_bucket? found (Bucket.mem_of_remove mem)
    · exact before

theorem Holds.of_touch (holds : (table.touch now distance).Holds node) : table.Holds node := by
  obtain ⟨entry, listed, mem⟩ := holds
  obtain ⟨old, before, rfl⟩ := List.mem_map.1 listed
  refine ⟨old, before, ?_⟩
  dsimp only at mem
  split at mem
  · exact mem
  · exact mem

/-- What a table holds after some operations it held before, or one of them added it. -/
theorem Holds.of_run {operations : List Operation} (holds : (table.run operations).Holds node) :
    table.Holds node ∨ ∃ now, .insert now node ∈ operations := by
  induction operations generalizing table with
  | nil => exact .inl holds
  | cons operation operations ih =>
    rcases ih holds with first | ⟨now, later⟩
    · cases operation with
      | insert now added =>
        rcases first.of_insert with rfl | before
        · exact .inr ⟨now, List.mem_cons_self⟩
        · exact .inl before
      | remove id => exact .inl first.of_remove
      | touch now distance => exact .inl first.of_touch
    · exact .inr ⟨now, List.mem_cons_of_mem _ later⟩

theorem run_append (table : RoutingTable) (first second : List Operation) :
    table.run (first ++ second) = (table.run first).run second :=
  List.foldl_append

/-- Ids that are removed in order are some operations. -/
theorem evict_eq_run (table : RoutingTable) (ids : List Id) :
    table.evict ids = table.run (ids.map .remove) := by
  rw [evict, run, List.foldl_map]
  rfl

/-! ## What stays -/

theorem contains_touch (table : RoutingTable) (now distance : Nat) (id : Id) :
    (table.touch now distance).contains id = table.contains id := by
  rw [Bool.eq_iff_iff, contains_iff, contains_iff, nodesAt_touch]
  rfl

/-- A node that is there stays there through operations that do not remove it. -/
theorem contains_run {operations : List Operation} (present : table.contains id = true)
    (kept : .remove id ∉ operations) : (table.run operations).contains id = true := by
  induction operations generalizing table with
  | nil => exact present
  | cons operation operations ih =>
    rw [List.mem_cons, not_or] at kept
    apply ih _ kept.2
    cases operation with
    | insert now node => exact contains_insert present
    | remove removed =>
      have different : id ≠ removed := fun same => kept.1 (congrArg Operation.remove same)
      exact (table.contains_remove_iff different).2 (.inl present)
    | touch now distance => exact (table.contains_touch now distance id).trans present

/-! ## Asking -/

theorem holds_of_mem_nodes (mem : node ∈ table.nodes) : table.Holds node := by
  obtain ⟨entry, listed, live⟩ := List.mem_flatMap.1 mem
  exact ⟨entry, listed, List.mem_append_left _ live⟩

theorem mem_nodes_of_mem_closest (mem : node ∈ table.closest target) : node ∈ table.nodes :=
  List.mem_mergeSort.1 (List.mem_of_mem_take mem)

theorem length_closest_le (table : RoutingTable) (target : Id) :
    (table.closest target).length ≤ Bucket.capacity :=
  List.length_take_le _ _

end RoutingTable

end Kademlia
