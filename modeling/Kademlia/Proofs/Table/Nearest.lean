import Mathlib.Data.List.Nodup
import Kademlia.Proofs.Distance
import Kademlia.Proofs.Table.Holding

/-!
# The nodes nearest to a target

A table is asked for the nodes whose ids differ from a target by the least numbers.  How
its buckets lie around its own id plays no part in the answer: no two nodes differ from
the target by the same number, so there is one order of all nodes, and the answer is how
that order begins.
-/

namespace Kademlia

/-- The number by which the id of a node differs from a target. -/
def Node.gap (target : Id) (node : Node) : Nat :=
  node.id.toNat ^^^ target.toNat

namespace RoutingTable

variable {table other : RoutingTable} {target : Id} {node near : Node}

/-- All nodes, the nearest to a target first. -/
def ranked (table : RoutingTable) (target : Id) : List Node :=
  table.nodes.mergeSort fun a b => (a.id.xor target).toNat ≤ (b.id.xor target).toNat

theorem closest_eq_take (table : RoutingTable) (target : Id) :
    table.closest target = (table.ranked target).take Bucket.capacity :=
  rfl

theorem ranked_perm (table : RoutingTable) (target : Id) :
    (table.ranked target).Perm table.nodes :=
  List.mergeSort_perm _ _

/-- As many nodes are given as there are, up to eight. -/
theorem length_closest (table : RoutingTable) (target : Id) :
    (table.closest target).length = min 8 table.size := by
  rw [closest_eq_take, List.length_take, (table.ranked_perm target).length_eq,
    ← size_eq_length_nodes]
  rfl

/-- The order of numbers is that of the octets which spell them. -/
theorem ranked_eq_mergeSort_bytes (table : RoutingTable) (target : Id) :
    table.ranked target =
      table.nodes.mergeSort fun a b => (a.id.xor target).bytes ≤ (b.id.xor target).bytes := by
  have same (a b : Id) : a.toNat ≤ b.toNat ↔ a.bytes ≤ b.bytes := by
    rw [← Nat.not_lt, Id.toNat_lt_toNat_iff, List.not_lt]
  unfold ranked
  simp only [same]

namespace WellFormed

variable (wf : table.WellFormed)

include wf

theorem distinct_ranked (target : Id) : ((table.ranked target).map Node.id).Nodup :=
  ((table.ranked_perm target).map Node.id).nodup_iff.2 wf.distinct_nodes

/-- Each node is nearer to the target than those behind it. -/
theorem ranked_pairwise (target : Id) :
    (table.ranked target).Pairwise fun a b => a.gap target < b.gap target := by
  have sorted : (table.ranked target).Pairwise fun a b => a.gap target ≤ b.gap target := by
    have ordered : (table.ranked target).Pairwise fun a b =>
        decide ((a.id.xor target).toNat ≤ (b.id.xor target).toNat) = true := by
      refine List.pairwise_mergeSort ?_ ?_ table.nodes
      · intro a b c first second
        simp only [decide_eq_true_eq] at first second ⊢
        exact Nat.le_trans first second
      · intro a b
        simp only [Bool.or_eq_true, decide_eq_true_eq]
        exact Nat.le_total _ _
    refine ordered.imp fun {a b} before => ?_
    rw [decide_eq_true_eq, Id.toNat_xor, Id.toNat_xor] at before
    exact before
  have distinct := wf.distinct_ranked target
  rw [List.Nodup, List.pairwise_map] at distinct
  refine (sorted.and distinct).imp ?_
  rintro a b ⟨before, different⟩
  refine Nat.lt_of_le_of_ne before fun same => different ?_
  exact Id.toNat_inj.1 (Nat.xor_left_inj.1 same)

theorem distinct_closest (target : Id) : ((table.closest target).map Node.id).Nodup :=
  (((List.take_sublist _ _).map Node.id)).nodup (wf.distinct_ranked target)

theorem closest_pairwise (target : Id) :
    (table.closest target).Pairwise fun a b => a.gap target < b.gap target :=
  (wf.ranked_pairwise target).take

/-- A node that is left out is farther than every one that is given. -/
theorem gap_lt_of_not_mem_closest (live : node ∈ table.nodes)
    (left : node ∉ table.closest target) (given : near ∈ table.closest target) :
    near.gap target < node.gap target := by
  have ordered := wf.ranked_pairwise target
  rw [← List.take_append_drop Bucket.capacity (table.ranked target), List.pairwise_append]
    at ordered
  have listed := (table.ranked_perm target).mem_iff.2 live
  rw [← List.take_append_drop Bucket.capacity (table.ranked target), List.mem_append] at listed
  rcases listed with taken | dropped
  · exact absurd taken left
  · exact ordered.2.2 near given node dropped

/-- Tables with the same nodes rank them in the same way. -/
theorem ranked_congr (otherWf : other.WellFormed)
    (same : ∀ node, node ∈ other.nodes ↔ node ∈ table.nodes) (target : Id) :
    other.ranked target = table.ranked target := by
  have distinct := List.Nodup.of_map Node.id wf.distinct_nodes
  have otherDistinct := List.Nodup.of_map Node.id otherWf.distinct_nodes
  have nodes : other.nodes.Perm table.nodes :=
    (List.perm_ext_iff_of_nodup otherDistinct distinct).2 same
  have ranked : (other.ranked target).Perm (table.ranked target) :=
    ((other.ranked_perm target).trans nodes).trans (table.ranked_perm target).symm
  refine ranked.eq_of_pairwise ?_ (otherWf.ranked_pairwise target) (wf.ranked_pairwise target)
  intro a b _ _ before after
  exact absurd after (Nat.not_lt_of_gt before)

end WellFormed

/-- Whatever was done to a table, asked for the nodes nearest to a target it gives as
many as it has, up to eight: nodes of its own with different ids, each nearer to the
target than the next, and all of them nearer than any node that it does not give.  It
takes the order of the octets for that of the numbers.  Any other table with the same
nodes, however they got there and wherever its own id is, gives the same answer. -/
theorem closest_run_empty (family : Family) (id : Id) (operations : List Operation)
    (target : Id) :
    let table := run operations (empty family id)
    let answer := table.closest target
    answer.length = min 8 table.size ∧
      (∀ node ∈ answer, node ∈ table.nodes) ∧
      (answer.map Node.id).Nodup ∧
      answer.Pairwise (fun a b => a.gap target < b.gap target) ∧
      (∀ node ∈ table.nodes, node ∉ answer → ∀ near ∈ answer,
        near.gap target < node.gap target) ∧
      answer = (table.nodes.mergeSort fun a b =>
        (a.id.xor target).bytes ≤ (b.id.xor target).bytes).take 8 ∧
      ∀ (otherFamily : Family) (otherId : Id) (otherOperations : List Operation),
        let other := run otherOperations (empty otherFamily otherId)
        (∀ node, node ∈ other.nodes ↔ node ∈ table.nodes) → other.closest target = answer := by
  intro table answer
  have wf : table.WellFormed := (wellFormed_empty family id).run operations
  refine ⟨table.length_closest target, fun _ => mem_nodes_of_mem_closest,
    wf.distinct_closest target, wf.closest_pairwise target, ?farther, ?octets, ?others⟩
  case farther =>
    intro node live left near given
    exact wf.gap_lt_of_not_mem_closest live left given
  case octets => exact congrArg (List.take 8) (table.ranked_eq_mergeSort_bytes target)
  case others =>
    intro otherFamily otherId otherOperations other same
    have otherWf : other.WellFormed :=
      (wellFormed_empty otherFamily otherId).run otherOperations
    exact congrArg (List.take Bucket.capacity) (wf.ranked_congr otherWf same target)

end RoutingTable

end Kademlia
