import Kademlia.Proofs.Table.Nodes

/-!
# Removing several ids in a row

Every removal that takes out a node lets the latest replacement at its distance
move up.  An id that is named while it is only a replacement stays one, and may
move up by a later removal of the same row.
-/

namespace Kademlia.RoutingTable

variable {table : RoutingTable} {id : Id} {ids : List Id}

/-- A table from which ids were removed in order. -/
def evict (table : RoutingTable) (ids : List Id) : RoutingTable :=
  ids.foldl (fun table id => (table.remove id).2) table

/-- How many of the removals of some ids in order take out a node at a distance. -/
def evictions (distance : Nat) : List Id → RoutingTable → Nat
  | [], _ => 0
  | id :: ids, table =>
      let others := evictions distance ids (table.remove id).2
      if table.contains id = true ∧ distance = table.id.distance id then others + 1 else others

theorem evict_append (table : RoutingTable) (first second : List Id) :
    table.evict (first ++ second) = (table.evict first).evict second :=
  List.foldl_append

theorem id_evict (table : RoutingTable) (ids : List Id) : (table.evict ids).id = table.id := by
  induction ids generalizing table with
  | nil => rfl
  | cons id ids ih => exact (ih (table.remove id).2).trans (table.id_remove id)

theorem WellFormed.evict (wf : table.WellFormed) (ids : List Id) :
    (table.evict ids).WellFormed := by
  induction ids generalizing table with
  | nil => exact wf
  | cons id ids ih => exact ih (wf.remove id)

/-! ## One removal -/

/-- Where an id is removed the latest replacement is one no longer. -/
theorem cachedAt_remove (table : RoutingTable) (id : Id) (distance : Nat) :
    (table.remove id).2.cachedAt distance =
      if table.contains id = true ∧ distance = table.id.distance id then
        (table.cachedAt distance).dropLast
      else table.cachedAt distance := by
  rcases table.remove_eq id with ⟨absent, same⟩ | ⟨bucket, found, present, changed⟩
  · rw [same, absent, if_neg (by simp)]
  · have contained : table.contains id = true := by simp [contains, found, present]
    rw [changed, cachedAt_setBucket]
    split
    · rename_i here
      rw [if_pos ⟨contained, here⟩, here, cachedAt_of_bucket? found]
      rfl
    · rename_i elsewhere
      rw [if_neg fun both => elsewhere both.2]

/-- After the removal of an id another one is there if it was, or if it is the id
of the replacement that moved up. -/
theorem contains_remove_iff (table : RoutingTable) {id other : Id} (different : other ≠ id) :
    (table.remove id).2.contains other = true ↔
      table.contains other = true ∨
        (table.contains id = true ∧ table.id.distance other = table.id.distance id) ∧
          ∃ node, (table.cachedAt (table.id.distance other)).getLast? = some node ∧
            node.id = other := by
  rw [contains_iff, contains_iff, id_remove, nodesAt_remove]
  split
  · rename_i here
    simp only [here, List.mem_append, Option.mem_toList, Bucket.mem_without, true_and]
    constructor
    · rintro ⟨node, ⟨old, -⟩ | new, named⟩
      · exact .inl ⟨node, old, named⟩
      · exact .inr ⟨node, new, named⟩
    · rintro (⟨node, old, named⟩ | ⟨node, new, named⟩)
      · exact ⟨node, .inl ⟨old, named ▸ different⟩, named⟩
      · exact ⟨node, .inr new, named⟩
  · rename_i elsewhere
    simp only [elsewhere, false_and, or_false]

/-! ## A row of removals -/

/-- An id that is there stays there if it is not named. -/
theorem contains_evict_of_not_mem (present : table.contains id = true) (unnamed : id ∉ ids) :
    (table.evict ids).contains id = true := by
  induction ids generalizing table with
  | nil => exact present
  | cons named ids ih =>
    rw [List.mem_cons, not_or] at unnamed
    exact ih ((table.contains_remove_iff unnamed.1).2 (.inl present)) unnamed.2

/-- The ids of the latest replacements at a distance, the latest one first: those
that move up when so many nodes are taken out there. -/
def nextUp (table : RoutingTable) (distance count : Nat) : List Id :=
  ((table.cachedAt distance).reverse.take count).map Node.id

/-- An id that is neither there nor named comes in exactly if it is the id of one
of the replacements that move up. -/
theorem contains_evict_iff_of_absent (absent : table.contains id = false) (unnamed : id ∉ ids) :
    (table.evict ids).contains id = true ↔
      id ∈ table.nextUp (table.id.distance id) (evictions (table.id.distance id) ids table) := by
  induction ids generalizing table with
  | nil => simp [evict, absent, evictions, nextUp]
  | cons named ids ih =>
    rw [List.mem_cons, not_or] at unnamed
    have moved := table.contains_remove_iff unnamed.1
    have cached := table.cachedAt_remove named (table.id.distance id)
    rw [absent] at moved
    change ((table.remove named).2.evict ids).contains id = true ↔ _
    rw [evictions]
    by_cases taken : table.contains named = true ∧ table.id.distance id = table.id.distance named
    · rw [if_pos taken] at cached ⊢
      cases last : (table.cachedAt (table.id.distance id)).getLast? with
      | none =>
        have none_cached := List.getLast?_eq_none_iff.1 last
        have still : (table.remove named).2.contains id = false := by
          rw [Bool.eq_false_iff]
          intro present
          simp [moved, last] at present
        rw [ih still unnamed.2, id_remove, nextUp, nextUp, cached, none_cached]
        simp
      | some node =>
        obtain ⟨older, split⟩ := List.getLast?_eq_some_iff.1 last
        have next (count : Nat) : table.nextUp (table.id.distance id) (count + 1) =
            node.id :: (older.reverse.take count).map Node.id := by
          rw [nextUp, split, List.reverse_concat, List.take_succ_cons, List.map_cons]
        rw [next, List.mem_cons]
        by_cases same : id = node.id
        · have present : (table.remove named).2.contains id = true :=
            moved.2 (.inr ⟨taken, node, last, same.symm⟩)
          exact iff_of_true (contains_evict_of_not_mem present unnamed.2) (.inl same)
        · have still : (table.remove named).2.contains id = false := by
            rw [Bool.eq_false_iff]
            intro present
            obtain no | ⟨-, other, found, own⟩ := moved.1 present
            · cases no
            · rw [last, Option.some.injEq] at found
              exact same (found ▸ own.symm)
          rw [ih still unnamed.2, id_remove, nextUp, cached, split, List.dropLast_concat]
          exact (or_iff_right same).symm
    · rw [if_neg taken] at cached ⊢
      have still : (table.remove named).2.contains id = false := by
        rw [Bool.eq_false_iff]
        intro present
        obtain no | ⟨here, -⟩ := moved.1 present
        · cases no
        · exact taken here
      rw [ih still unnamed.2, id_remove, nextUp, nextUp, cached]

/-- What is not a replacement does not become one. -/
theorem cachedAt_evict_subset (table : RoutingTable) (ids : List Id) (distance : Nat) :
    (table.evict ids).cachedAt distance ⊆ table.cachedAt distance := by
  induction ids generalizing table with
  | nil => exact List.Subset.refl _
  | cons id ids ih =>
    apply List.Subset.trans (ih (table.remove id).2)
    rw [cachedAt_remove]
    split
    · exact List.dropLast_subset _
    · exact List.Subset.refl _

namespace WellFormed

variable (wf : table.WellFormed)

include wf

/-- An id that is named for the last time is there in the end exactly if it is
among the replacements that move up from then on. -/
theorem contains_evict_iff {first later : List Id} (last : id ∉ later) :
    (table.evict (first ++ id :: later)).contains id = true ↔
      id ∈ (table.evict (first ++ [id])).nextUp (table.id.distance id)
        (evictions (table.id.distance id) later (table.evict (first ++ [id]))) := by
  have absent : (table.evict (first ++ [id])).contains id = false := by
    rw [evict_append]
    exact ((wf.evict first).removes id).gone
  rw [List.append_cons, evict_append, contains_evict_iff_of_absent absent last, id_evict]

/-- An id that is named, and is no replacement before, is not there in the end. -/
theorem contains_evict_of_not_cached {first later : List Id} (last : id ∉ later)
    (uncached : id ∉ (table.cachedAt (table.id.distance id)).map Node.id) :
    (table.evict (first ++ id :: later)).contains id = false := by
  rw [Bool.eq_false_iff]
  intro present
  obtain ⟨node, mem, own⟩ := List.mem_map.1 ((wf.contains_evict_iff last).1 present)
  have cached := List.mem_reverse.1 (List.mem_of_mem_take mem)
  apply uncached
  rw [← own]
  apply List.mem_map_of_mem
  rw [own]
  exact cachedAt_evict_subset table (first ++ [id]) _ cached

/-- An id that is there stays there exactly if it is not named. -/
theorem contains_evict_iff_of_contains (live : table.contains id = true) :
    (table.evict ids).contains id = true ↔ id ∉ ids := by
  constructor
  · intro present named
    rcases List.eq_append_cons_of_mem (List.mem_reverse.2 named) with
      ⟨later, first, reversed, last⟩
    have parts : ids = first.reverse ++ id :: later.reverse := by
      rw [← List.reverse_reverse ids, reversed]
      simp
    have last : id ∉ later.reverse := fun mem => last (List.mem_reverse.1 mem)
    rw [parts, wf.contains_evict_of_not_cached last (wf.not_mem_cachedAt live)] at present
    cases present
  · exact contains_evict_of_not_mem live

end WellFormed

end Kademlia.RoutingTable
