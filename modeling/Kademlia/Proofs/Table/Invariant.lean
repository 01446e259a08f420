import Kademlia.Proofs.Table.Bucket
import Kademlia.Proofs.Table.Lookup

/-!
# The invariant of the routing table

Whatever is added to a table and removed from it, in whatever order and at
whatever times, its nodes are where they belong, their ids differ, and its
buckets stay within their bounds.  A node is lost to no other one that is added,
and by a removal only the id that was named goes.
-/

namespace Kademlia

theorem Id.distance_le (a b : Id) : a.distance b ≤ 160 :=
  Nat.sub_le 160 _

namespace RoutingTable

variable {table : RoutingTable} {distance now : Nat} {bucket : Bucket} {node : Node} {id : Id}

/-! ## What adding a node does -/

/-- The bucket that a node of this id goes into, before it does. -/
def bucketFor (table : RoutingTable) (now : Nat) (id : Id) : Bucket :=
  (table.bucket? (table.id.distance id)).getD (.empty now)

theorem nodes_bucketFor (table : RoutingTable) (now : Nat) (id : Id) :
    (table.bucketFor now id).nodes = table.nodesAt (table.id.distance id) := by
  unfold bucketFor nodesAt
  cases table.bucket? (table.id.distance id) <;> rfl

theorem cached_bucketFor (table : RoutingTable) (now : Nat) (id : Id) :
    (table.bucketFor now id).cached = table.cachedAt (table.id.distance id) := by
  unfold bucketFor cachedAt
  cases table.bucket? (table.id.distance id) <;> rfl

/-- The three ways in which adding a node can end. -/
inductive Inserted (table : RoutingTable) (now : Nat) (node : Node) :
    Insertion × RoutingTable → Prop
  | refused (unfit : node.family ≠ table.family ∨ table.id.distance node.id = 0) :
      Inserted table now node (.refused, table)
  | stored (ofFamily : node.family = table.family) (apart : table.id.distance node.id ≠ 0)
      (fits : (table.bucketFor now node.id).contains node.id = true ∨
        (table.bucketFor now node.id).nodes.length < Bucket.capacity) :
      Inserted table now node
        (.stored, table.setBucket (table.id.distance node.id)
          ((table.bucketFor now node.id).refresh now node))
  | deferred {oldest : Node} {others : List Node} (ofFamily : node.family = table.family)
      (apart : table.id.distance node.id ≠ 0)
      (absent : (table.bucketFor now node.id).contains node.id = false)
      (nodes_eq : (table.bucketFor now node.id).nodes = oldest :: others)
      (full : Bucket.capacity ≤ (table.bucketFor now node.id).nodes.length) :
      Inserted table now node
        (.deferred oldest, table.setBucket (table.id.distance node.id)
          ((table.bucketFor now node.id).cache node))

theorem inserted_insert (table : RoutingTable) (now : Nat) (node : Node) :
    Inserted table now node (table.insert now node) := by
  by_cases unfit : node.family ≠ table.family ∨ table.id.distance node.id = 0
  · rw [insert, if_pos unfit]
    exact .refused unfit
  have ofFamily : node.family = table.family :=
    Decidable.of_not_not fun other => unfit (.inl other)
  have apart : table.id.distance node.id ≠ 0 := fun same => unfit (.inr same)
  by_cases fits : (table.bucketFor now node.id).contains node.id = true ∨
      (table.bucketFor now node.id).nodes.length < Bucket.capacity
  · have stored : table.insert now node = (.stored, table.setBucket (table.id.distance node.id)
        ((table.bucketFor now node.id).refresh now node)) := by
      rw [insert, if_neg unfit]
      exact if_pos fits
    rw [stored]
    exact .stored ofFamily apart fits
  · have absent : (table.bucketFor now node.id).contains node.id = false :=
      Bool.eq_false_iff.2 fun present => fits (.inl present)
    have full : Bucket.capacity ≤ (table.bucketFor now node.id).nodes.length :=
      Nat.le_of_not_lt fun room => fits (.inr room)
    cases nodes_eq : (table.bucketFor now node.id).nodes with
    | nil =>
      rw [nodes_eq] at full
      exact absurd full (by decide)
    | cons oldest others =>
      have deferred : table.insert now node =
          (.deferred oldest, table.setBucket (table.id.distance node.id)
            ((table.bucketFor now node.id).cache node)) := by
        unfold bucketFor at fits nodes_eq
        rw [insert, if_neg unfit]
        dsimp only
        rw [if_neg fits, nodes_eq]
        rfl
      rw [deferred]
      exact .deferred ofFamily apart absent nodes_eq full

/-! ## The invariant -/

/-- What holds of every table: its buckets are in order of their distances, and
each is as a bucket should be. -/
structure WellFormed (table : RoutingTable) : Prop where
  ascending : Ascending table.buckets
  buckets : ∀ {distance : Nat} {bucket : Bucket}, (distance, bucket) ∈ table.buckets →
    bucket.WellFormed table.id table.family distance

theorem wellFormed_empty (family : Family) (id : Id) : (empty family id).WellFormed where
  ascending := List.Pairwise.nil
  buckets mem := absurd mem List.not_mem_nil

theorem id_insert (table : RoutingTable) (now : Nat) (node : Node) :
    (table.insert now node).2.id = table.id := by
  have inserted := table.inserted_insert now node
  generalize table.insert now node = result at inserted
  cases inserted <;> simp

theorem family_insert (table : RoutingTable) (now : Nat) (node : Node) :
    (table.insert now node).2.family = table.family := by
  have inserted := table.inserted_insert now node
  generalize table.insert now node = result at inserted
  cases inserted <;> simp

/-- What removing an id does: nothing, or what its bucket does. -/
theorem remove_eq (table : RoutingTable) (id : Id) :
    table.contains id = false ∧ table.remove id = (false, table) ∨
      ∃ bucket, table.bucket? (table.id.distance id) = some bucket ∧
        bucket.contains id = true ∧
        table.remove id = (true, table.setBucket (table.id.distance id) (bucket.remove id)) := by
  cases found : table.bucket? (table.id.distance id) with
  | none => exact .inl ⟨by simp [contains, found], by simp [remove, found]⟩
  | some bucket =>
    cases present : bucket.contains id with
    | false =>
      exact .inl ⟨by simp [contains, found, present], by simp [remove, found, present]⟩
    | true => exact .inr ⟨bucket, rfl, present, by simp [remove, found, present]⟩

theorem id_remove (table : RoutingTable) (id : Id) : (table.remove id).2.id = table.id := by
  rcases table.remove_eq id with ⟨-, same⟩ | ⟨bucket, -, -, changed⟩
  · rw [same]
  · rw [changed]
    exact id_setBucket

theorem family_remove (table : RoutingTable) (id : Id) :
    (table.remove id).2.family = table.family := by
  rcases table.remove_eq id with ⟨-, same⟩ | ⟨bucket, -, -, changed⟩
  · rw [same]
  · rw [changed]
    exact family_setBucket

namespace WellFormed

variable (wf : table.WellFormed)

include wf

theorem of_bucket? (found : table.bucket? distance = some bucket) :
    bucket.WellFormed table.id table.family distance :=
  wf.buckets (wf.ascending.bucket?_eq_some_iff.1 found)

/-- Setting one bucket, to a good one or to none. -/
theorem setBucket (good : bucket.isEmpty = true ∨
    bucket.WellFormed table.id table.family distance) :
    (table.setBucket distance bucket).WellFormed where
  ascending := wf.ascending.setBucket distance bucket
  buckets := by
    intro other present mem
    have found :=
      ((wf.ascending.setBucket distance bucket).bucket?_eq_some_iff).2 mem
    rw [id_setBucket, family_setBucket]
    rw [bucket?_setBucket] at found
    split at found
    · rename_i here
      split at found
      · cases found
      · rename_i occupied
        cases found
        rcases good with vacant | good
        · exact absurd vacant occupied
        · exact here ▸ good
    · exact wf.of_bucket? found

/-- A node may go into its bucket as one that is seen. -/
theorem refresh_bucketFor (ofFamily : node.family = table.family)
    (apart : table.id.distance node.id ≠ 0)
    (fits : (table.bucketFor now node.id).contains node.id = true ∨
      (table.bucketFor now node.id).nodes.length < Bucket.capacity) :
    ((table.bucketFor now node.id).refresh now node).WellFormed table.id table.family
      (table.id.distance node.id) := by
  unfold bucketFor at fits ⊢
  cases found : table.bucket? (table.id.distance node.id) with
  | none =>
    exact Bucket.wellFormed_refresh_empty (Nat.one_le_iff_ne_zero.2 apart) (Id.distance_le _ _)
      ofFamily rfl
  | some bucket =>
    rw [found] at fits
    exact (wf.of_bucket? found).refresh ofFamily rfl fits

/-- A node may go into its bucket as a replacement. -/
theorem cache_bucketFor (ofFamily : node.family = table.family)
    (absent : (table.bucketFor now node.id).contains node.id = false)
    (full : Bucket.capacity ≤ (table.bucketFor now node.id).nodes.length) :
    ((table.bucketFor now node.id).cache node).WellFormed table.id table.family
      (table.id.distance node.id) := by
  unfold bucketFor at absent full ⊢
  cases found : table.bucket? (table.id.distance node.id) with
  | none =>
    rw [found] at full
    exact absurd full (by decide : ¬Bucket.capacity ≤ 0)
  | some bucket =>
    rw [found] at absent full
    exact (wf.of_bucket? found).cache ofFamily rfl absent full

theorem insert (now : Nat) (node : Node) : (table.insert now node).2.WellFormed := by
  have inserted := table.inserted_insert now node
  generalize table.insert now node = result at inserted ⊢
  cases inserted with
  | refused unfit => exact wf
  | stored ofFamily apart fits =>
    exact wf.setBucket (.inr (wf.refresh_bucketFor ofFamily apart fits))
  | deferred ofFamily apart absent nodes_eq full =>
    exact wf.setBucket (.inr (wf.cache_bucketFor ofFamily absent full))

theorem remove (id : Id) : (table.remove id).2.WellFormed := by
  rcases table.remove_eq id with ⟨-, same⟩ | ⟨bucket, found, present, changed⟩
  · rw [same]
    exact wf
  · rw [changed]
    exact wf.setBucket ((wf.of_bucket? found).remove present)

theorem touch (now distance : Nat) : (table.touch now distance).WellFormed where
  ascending := by
    simp only [Ascending, RoutingTable.touch, List.pairwise_map]
    exact wf.ascending
  buckets := by
    intro other bucket mem
    simp only [RoutingTable.touch, List.mem_map, Prod.mk.injEq] at mem
    obtain ⟨⟨d, old⟩, listed, rfl, rfl⟩ := mem
    have good := wf.buckets listed
    split
    · exact { good with }
    · exact good

end WellFormed

end RoutingTable

end Kademlia
