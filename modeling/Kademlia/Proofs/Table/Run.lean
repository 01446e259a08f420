import Kademlia.Proofs.Table.Nodes

/-!
# Every table that can come about

A table is made empty, and from then on nodes are added, ids removed and buckets
touched, in any order and at any times.  Questions do not change it.
-/

namespace Kademlia.RoutingTable

variable {table : RoutingTable}

/-- What can be done to a table. -/
inductive Operation
  | insert (now : Nat) (node : Node)
  | remove (id : Id)
  | touch (now distance : Nat)
deriving DecidableEq

/-- A table after an operation. -/
def apply (table : RoutingTable) : Operation → RoutingTable
  | .insert now node => (table.insert now node).2
  | .remove id => (table.remove id).2
  | .touch now distance => table.touch now distance

/-- A table after some operations in order. -/
def run (operations : List Operation) (table : RoutingTable) : RoutingTable :=
  operations.foldl apply table

theorem WellFormed.apply (wf : table.WellFormed) (operation : Operation) :
    (table.apply operation).WellFormed := by
  cases operation with
  | insert now node => exact wf.insert now node
  | remove id => exact wf.remove id
  | touch now distance => exact wf.touch now distance

theorem apply_id_family (table : RoutingTable) (operation : Operation) :
    (table.apply operation).id = table.id ∧ (table.apply operation).family = table.family := by
  cases operation with
  | insert now node => exact ⟨table.id_insert now node, table.family_insert now node⟩
  | remove id => exact ⟨table.id_remove id, table.family_remove id⟩
  | touch now distance => exact ⟨rfl, rfl⟩

theorem WellFormed.run (wf : table.WellFormed) (operations : List Operation) :
    (table.run operations).WellFormed := by
  induction operations generalizing table with
  | nil => exact wf
  | cons operation operations ih => exact ih (wf.apply operation)

theorem run_id_family (operations : List Operation) (table : RoutingTable) :
    (table.run operations).id = table.id ∧ (table.run operations).family = table.family := by
  induction operations generalizing table with
  | nil => exact ⟨rfl, rfl⟩
  | cons operation operations ih =>
    obtain ⟨sameId, sameFamily⟩ := table.apply_id_family operation
    obtain ⟨id_eq, family_eq⟩ := ih (table.apply operation)
    exact ⟨id_eq.trans sameId, family_eq.trans sameFamily⟩

/-- A table of a family and an id that can come about. -/
def Reachable (family : Family) (id : Id) (table : RoutingTable) : Prop :=
  ∃ operations, table = run operations (empty family id)

namespace Reachable

variable {family : Family} {id : Id} (reached : table.Reachable family id)

include reached

theorem wellFormed : table.WellFormed := by
  obtain ⟨operations, rfl⟩ := reached
  exact (wellFormed_empty family id).run operations

theorem id_eq : table.id = id := by
  obtain ⟨operations, rfl⟩ := reached
  exact (run_id_family operations (empty family id)).1

theorem family_eq : table.family = family := by
  obtain ⟨operations, rfl⟩ := reached
  exact (run_id_family operations (empty family id)).2

end Reachable

/-- However a table came about, it is well formed; adding takes no id out of it,
removing takes out no other id and brings in at most the latest replacement; and
its size, its nodes and the ids it contains agree. -/
theorem wellFormed_run_empty (family : Family) (id : Id) (operations : List Operation) :
    let table := run operations (empty family id)
    table.id = id ∧ table.family = family ∧ table.WellFormed ∧
      (∀ now node other, table.contains other = true →
        (table.insert now node).2.contains other = true) ∧
      (∀ removed, Removes table removed (table.remove removed).2) ∧
      table.size = table.nodes.length ∧ (table.nodes.map Node.id).Nodup ∧
      ∀ other, table.contains other = true ↔ other ∈ table.nodes.map Node.id := by
  intro table
  have reached : table.Reachable family id := ⟨operations, rfl⟩
  have wf := reached.wellFormed
  exact ⟨reached.id_eq, reached.family_eq, wf, fun _ _ _ => contains_insert, wf.removes,
    table.size_eq_length_nodes, wf.distinct_nodes, fun _ => wf.contains_iff_mem_nodes⟩

end Kademlia.RoutingTable
