import Kademlia.Node
import Kademlia.Proofs.Outcome

/-!
# Compact node lists are read as they are written

Nothing else is read either: a byte string that is read is the compact list of what it
is read as.
-/

namespace Kademlia

/-- A list is kept by a change exactly if its items are. -/
theorem map_eq_self_iff {α : Type} {change : α → α} {items : List α} :
    items.map change = items ↔ ∀ item ∈ items, change item = item := by
  have alike : items.map change = items.map (fun item => item) ↔ _ := List.map_inj_left
  rwa [List.map_id'] at alike

namespace Node

variable {family : Family} {nodes : List Node}

theorem compactLength_pos (family : Family) : 0 < compactLength family :=
  Nat.lt_of_lt_of_le (by decide) (Nat.le_add_right 20 _)

theorem compactLength_inj {a b : Family} : compactLength a = compactLength b ↔ a = b := by
  cases a <;> cases b <;> decide

theorem length_compactList (confined : ∀ node ∈ nodes, node.family = family) :
    (compactList nodes).length = compactLength family * nodes.length := by
  induction nodes with
  | nil => rfl
  | cons node nodes ih =>
    rw [compactList_cons, List.length_append, length_compact, confined node List.mem_cons_self,
      ih fun other mem => confined other (List.mem_cons_of_mem node mem), List.length_cons,
      Nat.mul_succ, Nat.add_comm]

/-- The pieces of a compact list are the compact nodes. -/
theorem chunks_compactList (confined : ∀ node ∈ nodes, node.family = family) :
    Bytes.chunks (compactLength family) (compactList nodes) = nodes.map compact := by
  induction nodes with
  | nil => exact Bytes.chunks_nil _
  | cons node nodes ih =>
    have length : node.compact.length = compactLength family := by
      rw [length_compact, confined node List.mem_cons_self]
    rw [compactList_cons, Bytes.chunks_append (compactLength_pos family) length,
      ih fun other mem => confined other (List.mem_cons_of_mem node mem), List.map_cons]

/-- Flow info and scope are not written. -/
@[simp]
theorem compactList_map_bare (nodes : List Node) :
    compactList (nodes.map bare) = compactList nodes := by
  induction nodes with
  | nil => rfl
  | cons node nodes ih =>
    rw [List.map_cons, compactList_cons, compactList_cons, ih, compact, compact, bare,
      Address.compact_bare]

/-- The nodes of a family are read from their compact form in order, at their bare
addresses. -/
theorem ofCompactList_compactList (confined : ∀ node ∈ nodes, node.family = family) :
    ofCompactList family (compactList nodes) = .ok (nodes.map bare) := by
  rw [ofCompactList, length_compactList confined, Nat.mul_mod_right, if_pos rfl,
    chunks_compactList confined]
  exact mapM_map_eq_ok fun node _ => ofCompact_compact node

theorem map_bare_eq_self_iff :
    nodes.map bare = nodes ↔ ∀ node ∈ nodes, node.address.Bare := by
  simp only [map_eq_self_iff, bare_eq_self_iff]

/-- A byte string is read exactly as the node at a bare address it is the compact form of. -/
theorem ofCompact_eq_ok_iff {bytes : Bytes} {node : Node} :
    ofCompact bytes = .ok node ↔ bytes = node.compact ∧ node.address.Bare := by
  constructor
  · intro taken
    rcases bind_eq_ok_iff.1 taken with ⟨id, front, taken⟩
    rw [Id.ofBytes_eq_ok_iff] at front
    split at taken
    · rename_i address back
      cases taken
      obtain ⟨written, plain⟩ := Address.ofCompact?_eq_some_iff.1 back
      rw [compact, ← front, ← written, List.take_append_drop]
      exact ⟨rfl, plain⟩
    · cases taken
  · rintro ⟨rfl, plain⟩
    rw [ofCompact_compact, bare_eq_self_iff.2 plain]

/-- A byte string is read exactly as the nodes of the family at bare addresses that it is the
compact list of. -/
theorem ofCompactList_eq_ok_iff {bytes : Bytes} :
    ofCompactList family bytes = .ok nodes ↔
      bytes = compactList nodes ∧ ∀ node ∈ nodes, node.family = family ∧ node.address.Bare := by
  constructor
  · intro taken
    unfold ofCompactList at taken
    split at taken
    · rename_i even
      obtain ⟨pieces, plain⟩ := (mapM_eq_ok_iff ofCompact_eq_ok_iff).1 taken
      refine ⟨?_, fun node mem => ⟨?_, plain node mem⟩⟩
      · rw [← Bytes.flatten_chunks (compactLength_pos family) bytes, pieces, compactList,
          List.flatMap_def]
      · have length := Bytes.length_of_mem_chunks even node.compact
          (pieces ▸ List.mem_map_of_mem mem)
        rw [length_compact] at length
        exact compactLength_inj.1 length
    · cases taken
  · rintro ⟨rfl, fit⟩
    rw [ofCompactList_compactList fun node mem => (fit node mem).1,
      map_bare_eq_self_iff.2 fun node mem => (fit node mem).2]

end Node

end Kademlia
