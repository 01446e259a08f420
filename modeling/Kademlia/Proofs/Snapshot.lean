import Kademlia.Proofs.Bencode.Reading
import Kademlia.Proofs.Disk
import Kademlia.Proofs.Node
import Kademlia.Snapshot

/-!
# State files are read as they are written

A file is recovered from its bytes, and what was saved in it, an id and the nodes
of the family at bare addresses, from the file.  A file is accepted only if it holds what is loaded from it,
so that saving this again leads to the same.
-/

namespace Kademlia

open Bencode Bencode.Reader Bencode.Record

namespace StateFile

/-- A file is recovered from its bytes. -/
theorem ofBytes?_encode (file : StateFile) : ofBytes? file.encode = some file := by
  have number (n : Int64) (name : String) : Accepts (intField name).read (.int n) (.int n) :=
    (accepts_int n).map Entry.int
  have octets (value : Bytes) (name : String) :
      Accepts (bytesField name).read (.bytes value) (.bytes value) :=
    (accepts_bytes value).map Entry.bytes
  have spelled : Entries fields
      [(Utf8.encode "c", .int file.checksum), (Utf8.encode "f", .int file.family),
        (Utf8.encode "id", .bytes file.id), (Utf8.encode "n", .bytes file.nodes),
        (Utf8.encode "t", .int file.savedAt), (Utf8.encode "v", .int file.version)]
      [(Utf8.encode "c", .int file.checksum), (Utf8.encode "f", .int file.family),
        (Utf8.encode "id", .bytes file.id), (Utf8.encode "n", .bytes file.nodes),
        (Utf8.encode "t", .int file.savedAt), (Utf8.encode "v", .int file.version)] :=
    .field rfl rfl (number _ "c") (.field rfl rfl (number _ "f")
      (.field rfl rfl (octets _ "id") (.field rfl rfl (octets _ "n")
        (.field rfl rfl (number _ "t") (.field rfl rfl (number _ "v") .nil)))))
  have taken := spelled.accepts_dict rfl []
  rw [List.append_nil] at taken
  change (Record.read fields (Token.tokens file.toValue.encode)).bind _ = _
  rw [Value.tokens_encode, toValue, taken]
  rfl

theorem encode_inj {first second : StateFile} : first.encode = second.encode ↔ first = second := by
  constructor
  · intro same
    have read := ofBytes?_encode first
    rw [same, ofBytes?_encode] at read
    exact (Option.some.inj read).symm
  · rintro rfl
    rfl

theorem familyNumber_inj {first second : Family} :
    Int64.ofInt first.code = Int64.ofInt second.code ↔ first = second := by
  cases first <;> cases second <;> decide

/-! ## Files that are accepted -/

/-- A file that is valid for a family, and what it holds. -/
structure Holds (family : Family) (file : StateFile) (snapshot : Snapshot) : Prop where
  version : file.version = currentVersion
  ofFamily : file.family = Int64.ofInt family.code
  checksum : file.checksum = file.expectedChecksum
  id : file.id = (snapshot.localNode.map (·.id.bytes)).getD []
  port : ∀ localNode ∈ snapshot.localNode, localNode.port = 0
  nodes : file.nodes = Node.compactList snapshot.nodes
  confined : ∀ node ∈ snapshot.nodes, node.family = family ∧ node.address.Bare

variable {family : Family} {file : StateFile} {snapshot : Snapshot}

/-- The id that a file has, if it has any octets for one. -/
def readId (bytes : Bytes) : Except Error (Option Id) :=
  if bytes = [] then .ok none else some <$> Id.ofBytes bytes

theorem readId_eq_ok_iff {bytes : Bytes} {id : Option Id} :
    readId bytes = .ok id ↔ bytes = (id.map Id.bytes).getD [] := by
  have some_bytes (id : Id) : id.bytes ≠ [] := by
    intro none_there
    have length := id.length_bytes
    rw [none_there] at length
    cases length
  unfold readId
  split
  · rename_i empty
    subst empty
    cases id with
    | none => simp
    | some id => simp [(some_bytes id).symm]
  · rename_i given
    cases id with
    | none => simp [given, map_eq_ok_iff]
    | some id => simp [map_eq_ok_iff, Id.ofBytes_eq_ok_iff]

/-- The version, the family and the checksum are checked in turn; then the id and the
nodes are read. -/
theorem snapshot_eq (family : Family) (file : StateFile) :
    file.snapshot family =
      if file.version ≠ currentVersion then .error (.stateFile .version)
      else if file.family ≠ Int64.ofInt family.code then .error (.stateFile .family)
      else if file.checksum ≠ file.expectedChecksum then .error (.stateFile .checksum)
      else (do
        let id ← readId file.id
        let nodes ← Node.ofCompactList family file.nodes
        pure ⟨id.map (⟨·, 0⟩), nodes⟩) := by
  unfold StateFile.snapshot readId
  by_cases version : file.version = currentVersion
  · by_cases ofFamily : file.family = Int64.ofInt family.code
    · by_cases checksum : file.checksum = file.expectedChecksum
      · by_cases empty : file.id = []
        · simp [version, ofFamily, checksum, empty]
        · simp [version, ofFamily, checksum, empty]
      · simp [version, ofFamily, checksum]
    · simp [version, ofFamily]
  · simp [version]

/-- A file is accepted exactly if it is valid, and as what it holds. -/
theorem snapshot_eq_ok_iff : file.snapshot family = .ok snapshot ↔ file.Holds family snapshot := by
  rw [snapshot_eq]
  constructor
  · intro taken
    split at taken
    · cases taken
    rename_i version
    split at taken
    · cases taken
    rename_i ofFamily
    split at taken
    · cases taken
    rename_i checksum
    obtain ⟨id, identified, taken⟩ := bind_eq_ok_iff.1 taken
    obtain ⟨nodes, listed, taken⟩ := bind_eq_ok_iff.1 taken
    cases taken
    obtain ⟨compact, confined⟩ := Node.ofCompactList_eq_ok_iff.1 listed
    exact
      { version := Decidable.of_not_not version
        ofFamily := Decidable.of_not_not ofFamily
        checksum := Decidable.of_not_not checksum
        id := by
          rw [readId_eq_ok_iff.1 identified, Option.map_map]
          rfl
        port := by
          intro localNode given
          obtain ⟨_, -, rfl⟩ := Option.map_eq_some_iff.1 given
          rfl
        nodes := compact
        confined }
  · intro holds
    have spelled : file.id = ((snapshot.localNode.map LocalNode.id).map Id.bytes).getD [] := by
      rw [holds.id, Option.map_map]
      rfl
    have identified := readId_eq_ok_iff.2 spelled
    have listed := Node.ofCompactList_eq_ok_iff.2 ⟨holds.nodes, holds.confined⟩
    have localNode : (snapshot.localNode.map LocalNode.id).map (⟨·, 0⟩) = snapshot.localNode := by
      cases given : snapshot.localNode with
      | none => rfl
      | some localNode =>
        have port := holds.port localNode given
        cases localNode
        cases port
        rfl
    rw [if_neg (not_not_intro holds.version), if_neg (not_not_intro holds.ofFamily),
      if_neg (not_not_intro holds.checksum), identified, ok_bind, listed, ok_bind, localNode]
    rfl

/-- A file of another family is refused as such. -/
theorem snapshot_of_family_ne (version : file.version = currentVersion)
    (other : file.family ≠ Int64.ofInt family.code) :
    file.snapshot family = .error (.stateFile .family) := by
  rw [snapshot_eq, if_neg (not_not_intro version), if_pos other]

/-- What was saved for a family is recovered from its file, the nodes at their bare
addresses. -/
theorem snapshot_ofNodes (family : Family) (id : Id) (nodes : List Node) (savedAt : Int64) :
    (ofNodes family id nodes savedAt).snapshot family =
      .ok ⟨some ⟨id, 0⟩, (nodes.filter (·.family = family)).map Node.bare⟩ :=
  snapshot_eq_ok_iff.2
    { version := rfl
      ofFamily := rfl
      -- the checksum is taken of everything but itself, so sealing a file does not change it
      checksum := rfl
      id := rfl
      port := by
        rintro _ ⟨⟩
        rfl
      nodes := (Node.compactList_map_bare _).symm
      confined := by
        intro node mem
        obtain ⟨kept, listed, rfl⟩ := List.mem_map.1 mem
        rw [Node.family_bare]
        exact ⟨of_decide_eq_true (List.mem_filter.1 listed).2, kept.address.bare_bare⟩ }

end StateFile

namespace Snapshot

theorem load_encode (family : Family) (file : StateFile) :
    load family file.encode = file.snapshot family := by
  rw [load, StateFile.ofBytes?_encode]

/-- What is loaded from a file is what was saved in it, the nodes at their bare addresses. -/
theorem load_save (family : Family) (localNode : LocalNode) (nodes : List Node)
    (wallClock : Int) :
    load family (save family localNode nodes wallClock) =
      .ok ⟨some ⟨localNode.id, 0⟩, (nodes.filter (·.family = family)).map Node.bare⟩ := by
  rw [save, load_encode]
  exact StateFile.snapshot_ofNodes family localNode.id nodes (seconds wallClock)

theorem load_eq_ok_iff {family : Family} {input : Bytes} {snapshot : Snapshot} :
    load family input = .ok snapshot ↔
      ∃ file, StateFile.ofBytes? input = some file ∧ file.Holds family snapshot := by
  unfold load
  cases StateFile.ofBytes? input with
  | none => simp
  | some file => simp [StateFile.snapshot_eq_ok_iff]

/-- A family's file is refused for the other one. -/
theorem load_save_of_ne {family other : Family} (different : other ≠ family)
    (localNode : LocalNode) (nodes : List Node) (wallClock : Int) :
    load other (save family localNode nodes wallClock) = .error (.stateFile .family) := by
  rw [save, load_encode]
  exact StateFile.snapshot_of_family_ne rfl fun same =>
    different (StateFile.familyNumber_inj.1 same).symm

/-- The file of a family is, once it has replaced the one at its path, read as it was
written.  It is loaded as the id, without a port, and the nodes of that family in order, if
their addresses have neither scope nor flow info, and it is refused for the other family.
Whatever is loaded from any accepted file with an id is loaded again from the file that it is
saved in. -/
theorem load_save_round_trip (family : Family) :
    (∀ localNode nodes wallClock,
      (∀ disk path after,
        Disk.replace disk path (save family localNode nodes wallClock) = (.ok (), after) →
          after.read path = .ok (save family localNode nodes wallClock)) ∧
      ((∀ node ∈ nodes, node.address.Bare) →
        load family (save family localNode nodes wallClock) =
          .ok ⟨some ⟨localNode.id, 0⟩, nodes.filter (·.family = family)⟩) ∧
      ∀ other, other ≠ family →
        load other (save family localNode nodes wallClock) = .error (.stateFile .family)) ∧
      StateFault.text .family = "address family mismatch" ∧
      ∀ input snapshot localNode,
        load family input = .ok snapshot → snapshot.localNode = some localNode →
          ∀ wallClock, load family (save family localNode snapshot.nodes wallClock) =
            .ok snapshot := by
  refine ⟨?_, rfl, ?_⟩
  · intro localNode nodes wallClock
    refine ⟨fun _ _ _ replaced => Disk.read_of_replace replaced, fun plain => ?_,
      fun _ different => load_save_of_ne different localNode nodes wallClock⟩
    have kept := Node.map_bare_eq_self_iff.2 fun node mem =>
      plain node (List.mem_filter (p := (·.family = family)).1 mem).1
    rw [load_save, kept]
  · intro input snapshot localNode loaded given wallClock
    obtain ⟨file, -, holds⟩ := load_eq_ok_iff.1 loaded
    obtain ⟨id, port⟩ := localNode
    obtain rfl : port = 0 := holds.port ⟨id, port⟩ given
    have confined : snapshot.nodes.filter (·.family = family) = snapshot.nodes := by
      rw [List.filter_eq_self]
      intro node mem
      exact decide_eq_true (holds.confined node mem).1
    have plain := Node.map_bare_eq_self_iff.2 fun node mem => (holds.confined node mem).2
    rw [load_save, confined, plain, ← given]

/-- A file with a node of each family. -/
theorem load_save_round_trip_two_families :
    let localNode : LocalNode := ⟨.ofNat 9, 6881⟩
    let near : Node := ⟨.ofNat 1, ⟨.v4 (.zero 4), 1⟩⟩
    let far : Node := ⟨.ofNat 2, ⟨.v6 (.zero 16) 0 0, 2⟩⟩
    let contents := save .ipv4 localNode [far, near, far, near] (-1)
    let after : Disk := ⟨[("dht.dat", .file contents)]⟩
    Disk.empty.replace "dht.dat" contents = (.ok (), after) ∧
      after.read "dht.dat" = .ok contents ∧
      (∀ node ∈ [far, near, far, near], node.address.Bare) ∧
      load .ipv4 contents = .ok ⟨some ⟨.ofNat 9, 0⟩, [near, near]⟩ ∧
      load .ipv6 contents = .error (.stateFile .family) ∧
      load .ipv4 (save .ipv4 ⟨.ofNat 9, 0⟩ [near, near] 1700000000000) =
        .ok ⟨some ⟨.ofNat 9, 0⟩, [near, near]⟩ := by
  intro localNode near far contents after
  have replaced : Disk.empty.replace "dht.dat" contents = (.ok (), after) := rfl
  have plain : ∀ node ∈ [far, near, far, near], node.address.Bare := by decide
  obtain ⟨saved, -, again⟩ := load_save_round_trip .ipv4
  obtain ⟨read, loaded, refused⟩ := saved localNode [far, near, far, near] (-1)
  exact ⟨replaced, read _ _ _ replaced, plain, loaded plain, refused .ipv6 (by decide),
    again contents _ _ (loaded plain) rfl _⟩

end Snapshot

end Kademlia
