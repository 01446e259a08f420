import Kademlia.Proofs.Checksum
import Kademlia.Proofs.Snapshot

/-!
# State files that were damaged

The checksum tells a file from one that differs from it in a few octets in a row, be they
of one field or of two.  It does not tell where the id ends and the nodes begin; that is
known from the lengths that both can have.
-/

namespace Kademlia

namespace StateFile

variable {file first second : StateFile} {family : Family}

/-! ## What the checksum is taken of -/

theorem length_numberBytes (n : Int64) : (numberBytes n).length = 8 :=
  Bytes.length_bigEndian 8 _

theorem length_payload (file : StateFile) :
    file.payload.length = file.id.length + file.nodes.length + 24 := by
  simp only [payload, List.length_append, length_numberBytes]
  omega

/-- Every checksum of 32 bits is a number of its own in a file. -/
theorem expectedChecksum_inj :
    first.expectedChecksum = second.expectedChecksum ↔
      Checksum.crc32c first.payload = Checksum.crc32c second.payload := by
  have value (checksum : UInt32) : (Int64.ofNat checksum.toNat).toInt = checksum.toNat :=
    Int64.toInt_ofNat_of_lt (Nat.lt_trans checksum.toNat_lt (by decide))
  rw [expectedChecksum, expectedChecksum, ← Int64.toInt_inj, value, value, Int.natCast_inj,
    UInt32.toNat_inj]

/-- A file that has another checksum than it should have is refused, whatever its id and its
nodes are. -/
theorem exists_fault (wrong : file.checksum ≠ file.expectedChecksum) (family : Family) :
    ∃ fault, file.snapshot family = .error (.stateFile fault) := by
  rw [snapshot_eq, if_pos wrong]
  split
  · exact ⟨.version, rfl⟩
  · split
    · exact ⟨.family, rfl⟩
    · exact ⟨.checksum, rfl⟩

/-- A file that differs from an accepted one in up to four octets in a row of what the
checksum is taken of, but not in the checksum, is refused. -/
theorem exists_fault_of_window {start : Nat} (sound : file.checksum = file.expectedChecksum)
    (sameId : second.id.length = file.id.length)
    (sameNodes : second.nodes.length = file.nodes.length)
    (kept : second.checksum = file.checksum) (changed : second.payload ≠ file.payload)
    (outside : ∀ i, i < start ∨ start + 4 ≤ i → second.payload[i]? = file.payload[i]?)
    (family : Family) : ∃ fault, second.snapshot family = .error (.stateFile fault) := by
  apply exists_fault
  intro right
  rw [kept, sound, expectedChecksum_inj] at right
  have same : second.payload.length = file.payload.length := by
    rw [length_payload, length_payload, sameId, sameNodes]
  exact changed (Checksum.eq_of_crc32c_eq same outside right.symm)

/-! ## Where the id ends -/

namespace Holds

variable {snapshot : Snapshot}

theorem length_id (holds : file.Holds family snapshot) :
    file.id.length = 0 ∨ file.id.length = 20 := by
  rw [holds.id]
  cases snapshot.localNode with
  | none => exact .inl rfl
  | some localNode => exact .inr localNode.id.length_bytes

theorem length_nodes (holds : file.Holds family snapshot) :
    file.nodes.length = Node.compactLength family * snapshot.nodes.length := by
  rw [holds.nodes, Node.length_compactList fun node mem => (holds.confined node mem).1]

/-- No number of nodes takes as many octets as an id and some nodes. -/
theorem eq_of_append_eq {other : Snapshot} (holds : first.Holds family snapshot)
    (others : second.Holds family other)
    (same : first.id ++ first.nodes = second.id ++ second.nodes) :
    first.id = second.id ∧ first.nodes = second.nodes := by
  have width : Node.compactLength family = 26 ∨ Node.compactLength family = 38 := by
    cases family with
    | ipv4 => exact .inl rfl
    | ipv6 => exact .inr rfl
  have whole := congrArg List.length same
  rw [List.length_append, List.length_append, holds.length_nodes, others.length_nodes] at whole
  have ids : first.id.length = second.id.length := by
    have firstId := holds.length_id
    have secondId := others.length_id
    rcases width with four | six
    · rw [four] at whole
      omega
    · rw [six] at whole
      omega
  exact List.append_inj same ids

end Holds

end StateFile

namespace Snapshot

variable {family : Family} {localNode : LocalNode} {nodes : List Node} {wallClock : Int}
  {record : StateFile}

/-- A file that is written is one that is accepted. -/
theorem holds_of_save (written : record.encode = save family localNode nodes wallClock) :
    record.Holds family
      ⟨some ⟨localNode.id, 0⟩, (nodes.filter (·.family = family)).map Node.bare⟩ := by
  rw [StateFile.encode_inj.1 written]
  exact StateFile.snapshot_eq_ok_iff.1 (StateFile.snapshot_ofNodes family localNode.id nodes _)

/-- A file is refused, for whatever family it is loaded, if it differs from one that was
written in up to four octets in a row of what the checksum is taken of, or in nothing but the
checksum.  Accepted files that differ at most in where the id ends and the nodes begin do not
differ at all. -/
theorem corruption_refused
    (written : record.encode = save family localNode nodes wallClock) :
    (∀ damaged : StateFile, damaged.id.length = record.id.length →
        damaged.nodes.length = record.nodes.length → damaged.checksum = record.checksum →
        damaged.payload ≠ record.payload →
        (∃ start, ∀ i, i < start ∨ start + 4 ≤ i → damaged.payload[i]? = record.payload[i]?) →
        ∀ reader, ∃ fault, load reader damaged.encode = .error (.stateFile fault)) ∧
      (∀ checksum, checksum ≠ record.checksum →
        ∀ reader, ∃ fault,
          load reader { record with checksum }.encode = .error (.stateFile fault)) ∧
      ∀ (first second : StateFile) reader other loaded reloaded,
        first.id ++ first.nodes = second.id ++ second.nodes →
        first.version = second.version → first.family = second.family →
        first.savedAt = second.savedAt → first.checksum = second.checksum →
        load reader first.encode = .ok loaded → load other second.encode = .ok reloaded →
        first.id = second.id ∧ first.nodes = second.nodes ∧ loaded = reloaded := by
  have sound := (holds_of_save written).checksum
  refine ⟨?_, ?_, ?_⟩
  · rintro damaged sameId sameNodes kept changed ⟨start, outside⟩ reader
    rw [load_encode]
    exact StateFile.exists_fault_of_window sound sameId sameNodes kept changed outside reader
  · intro checksum wrong reader
    rw [load_encode]
    apply StateFile.exists_fault
    intro right
    have right : checksum = record.expectedChecksum := right
    exact wrong (right.trans sound.symm)
  · intro first second reader other loaded reloaded joined version ofFamily savedAt checksum
      accepted again
    rw [load_encode] at accepted again
    have holds := StateFile.snapshot_eq_ok_iff.1 accepted
    have others := StateFile.snapshot_eq_ok_iff.1 again
    obtain rfl : reader = other := by
      rw [← StateFile.familyNumber_inj, ← holds.ofFamily, ← others.ofFamily, ofFamily]
    obtain ⟨sameId, sameNodes⟩ := holds.eq_of_append_eq others joined
    obtain rfl : first = second := by
      cases first
      cases second
      cases version
      cases ofFamily
      cases sameId
      cases sameNodes
      cases savedAt
      cases checksum
      rfl
    exact ⟨rfl, rfl, Except.ok.inj (accepted.symm.trans again)⟩

/-- The last octet of the id and the first one of the nodes are changed at once, or a bit of
the checksum is. -/
theorem corruption_refused_across_fields :
    let node : Node := ⟨.ofNat 1, ⟨.v4 (.zero 4), 6881⟩⟩
    let record := StateFile.ofNodes .ipv4 (.ofNat 9) [node] 1700000000
    let damaged :=
      { record with id := (Id.ofNat 10).bytes, nodes := 1 :: record.nodes.drop 1 }
    record.encode = save .ipv4 ⟨.ofNat 9, 6881⟩ [node] 1700000000000 ∧
      damaged.payload ≠ record.payload ∧
      (∀ i, i < 34 ∨ 38 ≤ i → damaged.payload[i]? = record.payload[i]?) ∧
      (∃ fault, load .ipv4 damaged.encode = .error (.stateFile fault)) ∧
      (∃ fault, load .ipv4 { record with checksum := record.checksum ^^^ 1 }.encode =
        .error (.stateFile fault)) ∧
      load .ipv4 record.encode = .ok ⟨some ⟨.ofNat 9, 0⟩, [node]⟩ ∧
      ∀ shifted : StateFile, shifted.id ++ shifted.nodes = record.id ++ record.nodes →
        shifted = { record with id := shifted.id, nodes := shifted.nodes } →
        (∃ loaded, load .ipv4 shifted.encode = .ok loaded) → shifted.id = record.id := by
  intro node record damaged
  have written : record.encode = save .ipv4 ⟨.ofNat 9, 6881⟩ [node] 1700000000000 := rfl
  have width : damaged.payload.length = 70 ∧ record.payload.length = 70 := by decide
  have changed : damaged.payload ≠ record.payload := by decide
  have inside : ∀ i < 70, i < 34 ∨ 38 ≤ i → damaged.payload[i]? = record.payload[i]? := by
    decide
  have outside : ∀ i, i < 34 ∨ 38 ≤ i → damaged.payload[i]? = record.payload[i]? := by
    intro i far
    by_cases within : i < 70
    · exact inside i within far
    · rw [List.getElem?_eq_none (by omega), List.getElem?_eq_none (by omega)]
  have flipped : record.checksum ^^^ 1 ≠ record.checksum := by
    intro same
    have zero : (1 : Int64) = 0 :=
      (Int64.xor_right_inj record.checksum).1 (same.trans Int64.xor_zero.symm)
    exact absurd zero (by decide)
  have accepted : load .ipv4 record.encode = .ok ⟨some ⟨.ofNat 9, 0⟩, [node]⟩ :=
    written ▸ load_save .ipv4 ⟨.ofNat 9, 6881⟩ [node] 1700000000000
  obtain ⟨window, checksum, boundary⟩ := corruption_refused written
  refine ⟨written, changed, outside, ?_, ?_, accepted, ?_⟩
  · exact window damaged (by decide) (by decide) rfl changed ⟨34, outside⟩ .ipv4
  · exact checksum _ flipped .ipv4
  · rintro shifted joined others ⟨loaded, again⟩
    rw [others] at again
    have unchanged := boundary { record with id := shifted.id, nodes := shifted.nodes } record
      .ipv4 .ipv4 _ _ joined rfl rfl rfl rfl again accepted
    exact unchanged.1

end Snapshot

end Kademlia
