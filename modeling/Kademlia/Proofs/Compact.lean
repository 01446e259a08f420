import Kademlia.Proofs.Node
import Mathlib.Data.Set.Function

/-!
# What compact forms there are

The compact addresses are the byte strings of two lengths, and the compact lists of nodes of
a family are those whose length is a multiple of that of one node.  Each of them is written
for one bare address or one list of such only, and that is what it is read as.
-/

namespace Kademlia

variable {family : Family} {bytes : Bytes}

theorem Family.compactLength_eq (family : Family) :
    family.compactLength = 6 ∨ family.compactLength = 18 := by
  cases family with
  | ipv4 => exact .inl rfl
  | ipv6 => exact .inr rfl

namespace Address

theorem ofCompact?_eq_none_iff :
    ofCompact? bytes = none ↔ ¬(bytes.length = 6 ∨ bytes.length = 18) := by
  unfold ofCompact?
  split
  · rename_i short
    exact iff_of_false (Option.some_ne_none _) fun neither => neither (.inl short)
  · rename_i longer
    split
    · rename_i long
      exact iff_of_false (Option.some_ne_none _) fun neither => neither (.inr long)
    · rename_i other
      exact iff_of_true rfl (not_or.2 ⟨longer, other⟩)

/-- A byte string of one of the two lengths is the compact form of a bare address. -/
theorem exists_compact_eq (length : bytes.length = 6 ∨ bytes.length = 18) :
    ∃ address : Address, address.Bare ∧ address.compact = bytes := by
  cases taken : ofCompact? bytes with
  | none => exact absurd length (ofCompact?_eq_none_iff.1 taken)
  | some address =>
    obtain ⟨written, plain⟩ := ofCompact?_eq_some_iff.1 taken
    exact ⟨address, plain, written.symm⟩

/-- The length of a compact address tells the family. -/
theorem length_compact_iff {address : Address} :
    address.compact.length = family.compactLength ↔ address.family = family := by
  rw [length_compact]
  cases address.family <;> cases family <;> decide

/-- The compact addresses are the byte strings of six and of eighteen octets, each that of
one bare address. -/
theorem compact_bijOn :
    Set.BijOn compact {address | address.Bare} {bytes | bytes.length = 6 ∨ bytes.length = 18} := by
  refine ⟨?_, ?_, ?_⟩
  · rintro address -
    change address.compact.length = 6 ∨ address.compact.length = 18
    rw [length_compact]
    exact address.family.compactLength_eq
  · intro first firstPlain second secondPlain same
    rwa [compact_inj, firstPlain, secondPlain] at same
  · intro bytes length
    obtain ⟨address, plain, same⟩ := exists_compact_eq length
    exact ⟨address, plain, same⟩

end Address

namespace Node

/-- A byte string as long as the nodes of a family is the compact form of one at a bare
address. -/
theorem exists_compact_eq (length : bytes.length = compactLength family) :
    ∃ node : Node, (node.family = family ∧ node.address.Bare) ∧ node.compact = bytes := by
  have front : (bytes.take 20).length = 20 := by
    rw [List.length_take, length, compactLength]
    omega
  have back : (bytes.drop 20).length = family.compactLength := by
    rw [List.length_drop, length, compactLength]
    omega
  have either : (bytes.drop 20).length = 6 ∨ (bytes.drop 20).length = 18 := by
    rw [back]
    exact family.compactLength_eq
  obtain ⟨address, plain, same⟩ := Address.exists_compact_eq either
  refine ⟨⟨⟨bytes.take 20, front⟩, address⟩,
    ⟨Address.length_compact_iff.1 (same ▸ back), plain⟩, ?_⟩
  rw [compact, same]
  exact List.take_append_drop 20 bytes

/-- Pieces as long as the nodes of a family are the compact forms of some. -/
theorem exists_map_compact_eq {pieces : List Bytes}
    (lengths : ∀ piece ∈ pieces, piece.length = compactLength family) :
    ∃ nodes : List Node, (∀ node ∈ nodes, node.family = family ∧ node.address.Bare) ∧
      nodes.map compact = pieces := by
  induction pieces with
  | nil => exact ⟨[], nofun, rfl⟩
  | cons piece pieces ih =>
    obtain ⟨own, others⟩ := List.forall_mem_cons.1 lengths
    obtain ⟨node, fit, same⟩ := exists_compact_eq own
    obtain ⟨nodes, allFit, rest⟩ := ih others
    refine ⟨node :: nodes, List.forall_mem_cons.2 ⟨fit, allFit⟩, ?_⟩
    rw [List.map_cons, same, rest]

/-- The compact lists of nodes of a family at bare addresses are the byte strings that are
cut evenly. -/
theorem compactList_bijOn (family : Family) :
    Set.BijOn compactList {nodes | ∀ node ∈ nodes, node.family = family ∧ node.address.Bare}
      {bytes | bytes.length % compactLength family = 0} := by
  refine ⟨?_, ?_, ?_⟩
  · intro nodes fit
    change (compactList nodes).length % compactLength family = 0
    rw [length_compactList fun node mem => (fit node mem).1, Nat.mul_mod_right]
  · intro first firstFit second secondFit same
    have read := ofCompactList_eq_ok_iff.2 ⟨rfl, firstFit⟩
    rw [same, ofCompactList_eq_ok_iff.2 ⟨rfl, secondFit⟩] at read
    exact (Except.ok.inj read).symm
  · intro bytes even
    obtain ⟨nodes, fit, pieces⟩ := exists_map_compact_eq (Bytes.length_of_mem_chunks even)
    refine ⟨nodes, fit, ?_⟩
    rw [compactList, List.flatMap_def, pieces, Bytes.flatten_chunks (compactLength_pos family)]

/-- A byte string that is not cut evenly is refused, and no other one is. -/
theorem ofCompactList_eq_error_iff {error : Error} :
    ofCompactList family bytes = .error error ↔
      bytes.length % compactLength family ≠ 0 ∧ error = .compactNodes := by
  by_cases even : bytes.length % compactLength family = 0
  · obtain ⟨nodes, fit, rfl⟩ := (compactList_bijOn family).surjOn even
    rw [ofCompactList_eq_ok_iff.2 ⟨rfl, fit⟩]
    exact iff_of_false nofun fun refused => refused.1 even
  · rw [ofCompactList, if_neg even, Except.error.injEq]
    exact ⟨fun same => ⟨even, same.symm⟩, fun refused => refused.2.symm⟩

/-- Writing is a bijection from the lists of nodes of a family at bare addresses to the byte
strings whose length is a multiple of 26 or of 38, and from the bare addresses to those of 6
and of 18 octets.  Reading gives back what was written, nodes of the family only, and refuses
all else. -/
theorem compact_forms_biject (family : Family) :
    let size := match family with
      | .ipv4 => 26
      | .ipv6 => 38
    Set.BijOn compactList {nodes | ∀ node ∈ nodes, node.family = family ∧ node.address.Bare}
        {bytes | bytes.length % size = 0} ∧
      (∀ bytes nodes, ofCompactList family bytes = .ok nodes ↔
        (∀ node ∈ nodes, node.family = family ∧ node.address.Bare) ∧ compactList nodes = bytes) ∧
      (∀ bytes error, ofCompactList family bytes = .error error ↔
        bytes.length % size ≠ 0 ∧ error = .compactNodes) ∧
      Set.BijOn Address.compact {address | address.Bare}
        {bytes | bytes.length = 6 ∨ bytes.length = 18} ∧
      (∀ bytes address, Address.ofCompact? bytes = some address ↔
        address.Bare ∧ address.compact = bytes) ∧
      ∀ bytes, Address.ofCompact? bytes = none ↔ ¬(bytes.length = 6 ∨ bytes.length = 18) := by
  intro size
  have same : size = compactLength family := by cases family <;> rfl
  rw [same]
  refine ⟨compactList_bijOn family, fun bytes nodes => ?_,
    fun bytes error => ofCompactList_eq_error_iff, Address.compact_bijOn, fun bytes address => ?_,
    fun bytes => Address.ofCompact?_eq_none_iff⟩
  · rw [ofCompactList_eq_ok_iff, and_comm, eq_comm]
  · rw [Address.ofCompact?_eq_some_iff, and_comm, eq_comm]

end Node

end Kademlia
