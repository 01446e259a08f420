import Kademlia.Proofs.Announce.Secrets

/-!
# Which requests a token tells apart

A token is a checksum of the info hash, the address and the secret in a row.  So under every
secret, requests that differ in up to four octets in a row have different tokens.  Five
octets are too many: every info hash has another one, which differs from it in the first
five octets alone, with the same tokens under all secrets.
-/

namespace Kademlia

/-- What a token is asked for: an info hash, by an address. -/
structure TokenRequest where
  infoHash : InfoHash
  peer : Address
deriving DecidableEq

namespace TokenRequest

variable {first second : TokenRequest}

/-- What a token is the checksum of, but for the secret. -/
def bytes (request : TokenRequest) : Bytes :=
  request.infoHash.bytes ++ request.peer.compact

theorem length_bytes (request : TokenRequest) :
    request.bytes.length = 20 + request.peer.family.compactLength := by
  simp [bytes]

/-- Requests are written alike exactly if they have the info hash, the IP and the port in
common. -/
theorem bytes_inj :
    first.bytes = second.bytes ↔
      first.infoHash = second.infoHash ∧ first.peer.bare = second.peer.bare := by
  rw [← Address.compact_inj]
  constructor
  · intro same
    obtain ⟨ids, addresses⟩ := List.append_inj same (by simp)
    exact ⟨Id.ext (Octets.ext ids), addresses⟩
  · rintro ⟨infoHash, peer⟩
    rw [bytes, bytes, infoHash, peer]

/-- Requests by addresses of one family that differ at most in four octets in a row. -/
structure Neighbours (first second : TokenRequest) : Prop where
  sameFamily : first.peer.family = second.peer.family
  window : ∃ start, ∀ i, i < start ∨ start + 4 ≤ i → first.bytes[i]? = second.bytes[i]?

/-- Whatever follows, neighbours go on to differ in those octets at most. -/
theorem Neighbours.append (near : Neighbours first second) (rest : Bytes) :
    ∃ start, ∀ i, i < start ∨ start + 4 ≤ i →
      (first.bytes ++ rest)[i]? = (second.bytes ++ rest)[i]? := by
  obtain ⟨start, outside⟩ := near.window
  have same : first.bytes.length = second.bytes.length := by
    rw [length_bytes, length_bytes, near.sameFamily]
  refine ⟨start, fun i far => ?_⟩
  rw [List.getElem?_append, List.getElem?_append, same, outside i far]

/-- Octets that only the middle of two byte strings may differ in. -/
theorem getElem?_middle {before between other : Bytes} {width : Nat}
    (length : between.length = width) (otherLength : other.length = width) (after : Bytes) (i : Nat)
    (far : i < before.length ∨ before.length + width ≤ i) :
    (before ++ between ++ after)[i]? = (before ++ other ++ after)[i]? := by
  rcases far with early | late
  · rw [List.append_assoc, List.append_assoc, List.getElem?_append_left early,
      List.getElem?_append_left early]
  · have reach : (before ++ between).length = (before ++ other).length := by
      rw [List.length_append, List.length_append, length, otherLength]
    have past : (before ++ other).length ≤ i := by
      rw [List.length_append, otherLength]
      exact late
    rw [List.getElem?_append_right (reach ▸ past), List.getElem?_append_right past, reach]

/-- The same info hash and port, asked for from two IPv4 addresses. -/
theorem neighbours_of_ipv4 (infoHash : InfoHash) (port : UInt16) (first second : Octets 4) :
    Neighbours ⟨infoHash, ⟨.v4 first, port⟩⟩ ⟨infoHash, ⟨.v4 second, port⟩⟩ where
  sameFamily := rfl
  window := by
    refine ⟨infoHash.bytes.length, fun i far => ?_⟩
    simp only [bytes, Address.compact, Address.ip, Locator.ip, Ip.bytes, ← List.append_assoc]
    exact getElem?_middle first.length_toList second.length_toList _ i far

/-- The same info hash and IP, asked for from two ports. -/
theorem neighbours_of_port (infoHash : InfoHash) (locator : Locator) (first second : UInt16) :
    Neighbours ⟨infoHash, ⟨locator, first⟩⟩ ⟨infoHash, ⟨locator, second⟩⟩ where
  sameFamily := rfl
  window := by
    refine ⟨(infoHash.bytes ++ locator.ip.bytes).length, fun i far => ?_⟩
    simp only [bytes, Address.compact, Address.ip, ← List.append_assoc]
    have width (port : UInt16) : (Bytes.bigEndian 2 port.toNat).length = 2 :=
      Bytes.length_bigEndian 2 _
    have far : i < (infoHash.bytes ++ locator.ip.bytes).length ∨
        (infoHash.bytes ++ locator.ip.bytes).length + 2 ≤ i := by omega
    have middle := getElem?_middle (width first) (width second) [] i far
    rwa [List.append_nil, List.append_nil] at middle

/-- The same address, asking for info hashes that differ at most in four octets in a row. -/
theorem neighbours_of_infoHash {first second : InfoHash} {start : Nat}
    (outside : ∀ i, i < start ∨ start + 4 ≤ i → first.bytes[i]? = second.bytes[i]?)
    (peer : Address) : Neighbours ⟨first, peer⟩ ⟨second, peer⟩ where
  sameFamily := rfl
  window := by
    refine ⟨start, fun i far => ?_⟩
    rw [bytes, bytes, List.getElem?_append, List.getElem?_append, Id.length_bytes, Id.length_bytes,
      outside i far]

end TokenRequest

namespace Secrets

open TokenRequest

variable {first second : TokenRequest}

theorem generate_eq_iff_of_neighbours (near : Neighbours first second) (secrets : Secrets) :
    secrets.generate first.infoHash first.peer = secrets.generate second.infoHash second.peer ↔
      first.bytes = second.bytes := by
  rw [generate, generate, token_eq_iff]
  constructor
  · intro checksums
    obtain ⟨start, outside⟩ := near.append secrets.current.toList
    have length : (first.bytes ++ secrets.current.toList).length =
        (second.bytes ++ secrets.current.toList).length := by
      rw [List.length_append, List.length_append, length_bytes, length_bytes, near.sameFamily]
    exact List.append_cancel_right (Checksum.eq_of_crc32c_eq length outside checksums)
  · intro same
    exact congrArg (fun bytes => Checksum.crc32c (bytes ++ secrets.current.toList)) same

/-- Under every secret, requests of one family that differ in at most four octets in a row have
the same token exactly if they have the info hash, the IP and the port in common: only the
scope or the flow info of an IPv6 address is told by no token.  Requests are near each other in
that way if only the IPv4 address is another one, or only the port, or if of the info hash only
octets within four in a row are. -/
theorem neighbours_told_apart (secrets : Secrets) :
    (∀ first second : TokenRequest, Neighbours first second →
        (secrets.generate first.infoHash first.peer =
            secrets.generate second.infoHash second.peer ↔
          first.infoHash = second.infoHash ∧ first.peer.ip = second.peer.ip ∧
            first.peer.port = second.peer.port)) ∧
      (∀ infoHash port, ∀ first second : Octets 4, first ≠ second →
        secrets.generate infoHash ⟨.v4 first, port⟩ ≠
          secrets.generate infoHash ⟨.v4 second, port⟩) ∧
      (∀ infoHash locator, ∀ first second : UInt16, first ≠ second →
        secrets.generate infoHash ⟨locator, first⟩ ≠
          secrets.generate infoHash ⟨locator, second⟩) ∧
      ∀ peer, ∀ first second : InfoHash, first ≠ second →
        (∃ start, ∀ i, i < start ∨ start + 4 ≤ i → first.bytes[i]? = second.bytes[i]?) →
        secrets.generate first peer ≠ secrets.generate second peer := by
  have apart (first second : TokenRequest) (near : Neighbours first second) :
      secrets.generate first.infoHash first.peer =
          secrets.generate second.infoHash second.peer ↔
        first.infoHash = second.infoHash ∧ first.peer.ip = second.peer.ip ∧
          first.peer.port = second.peer.port := by
    rw [generate_eq_iff_of_neighbours near, bytes_inj, Address.bare_inj]
  refine ⟨apart, ?_, ?_, ?_⟩
  · intro infoHash port first second different same
    obtain ⟨-, ips, -⟩ := (apart _ _ (neighbours_of_ipv4 infoHash port first second)).1 same
    exact different (Ip.v4.inj ips)
  · intro infoHash locator first second different same
    obtain ⟨-, -, ports⟩ := (apart _ _ (neighbours_of_port infoHash locator first second)).1 same
    exact different ports
  · rintro peer first second different ⟨start, outside⟩ same
    obtain ⟨infoHashes, -⟩ := (apart _ _ (neighbours_of_infoHash outside peer)).1 same
    exact different infoHashes

/-- Two neighbouring addresses, and the last octet of an info hash with the first three of the
address that asks for it. -/
theorem neighbours_told_apart_across_fields :
    let secrets : Secrets := ⟨.zero 4, .zero 4, 0⟩
    let first : TokenRequest := ⟨.ofNat 9, ⟨.v4 ⟨[10, 0, 0, 5], rfl⟩, 6881⟩⟩
    let second : TokenRequest := ⟨.ofNat 10, ⟨.v4 ⟨[11, 0, 1, 5], rfl⟩, 6881⟩⟩
    Neighbours first second ∧
      secrets.generate first.infoHash first.peer ≠
        secrets.generate second.infoHash second.peer ∧
      secrets.generate first.infoHash ⟨.v4 ⟨[10, 0, 0, 5], rfl⟩, 6881⟩ ≠
        secrets.generate first.infoHash ⟨.v4 ⟨[10, 0, 0, 6], rfl⟩, 6881⟩ ∧
      secrets.generate first.infoHash ⟨first.peer.locator, 6881⟩ ≠
        secrets.generate first.infoHash ⟨first.peer.locator, 6882⟩ ∧
      secrets.generate (.ofNat 9) first.peer ≠ secrets.generate (.ofNat 10) first.peer := by
  intro secrets first second
  have outside : ∀ i < 26, i < 19 ∨ 23 ≤ i → first.bytes[i]? = second.bytes[i]? := by decide
  have near : Neighbours first second := by
    refine ⟨rfl, 19, fun i far => ?_⟩
    by_cases within : i < 26
    · exact outside i within far
    · have length : first.bytes.length = 26 ∧ second.bytes.length = 26 := by decide
      rw [List.getElem?_eq_none (by omega), List.getElem?_eq_none (by omega)]
  have hashes : ∀ i, i < 16 ∨ 20 ≤ i → (Id.ofNat 9).bytes[i]? = (Id.ofNat 10).bytes[i]? := by
    have inside : ∀ i < 16, (Id.ofNat 9).bytes[i]? = (Id.ofNat 10).bytes[i]? := by decide
    rintro i (early | late)
    · exact inside i early
    · rw [List.getElem?_eq_none (by simpa using late), List.getElem?_eq_none (by simpa using late)]
  obtain ⟨general, ips, ports, infoHashes⟩ := neighbours_told_apart secrets
  have apart : first.infoHash ≠ second.infoHash := by decide
  exact ⟨near, fun same => apart ((general first second near).1 same).1,
    ips _ _ _ _ (by decide), ports _ _ _ _ (by decide),
    infoHashes _ _ _ (by decide) ⟨16, hashes⟩⟩

/-- The same IPv6 address in two scopes: neighbours that are not the same, with one token. -/
theorem neighbours_in_two_scopes :
    let secrets : Secrets := ⟨.zero 4, .zero 4, 0⟩
    let first : TokenRequest := ⟨.ofNat 9, ⟨.v6 (.zero 16) 0 1, 6881⟩⟩
    let second : TokenRequest := ⟨.ofNat 9, ⟨.v6 (.zero 16) 0 2, 6881⟩⟩
    Neighbours first second ∧ first ≠ second ∧
      secrets.generate first.infoHash first.peer =
        secrets.generate second.infoHash second.peer := by
  intro secrets first second
  exact ⟨⟨rfl, 0, fun _ _ => rfl⟩, by decide, rfl⟩

/-! ## Five octets -/

/-- Every info hash has the tokens of another one that differs from it in five octets in a
row, whoever asks and under whatever secret. -/
theorem exists_same_tokens (infoHash : InfoHash) :
    ∃ other : InfoHash, other ≠ infoHash ∧
      (∀ i, 5 ≤ i → other.bytes[i]? = infoHash.bytes[i]?) ∧
      ∀ (secrets : Secrets) (peer : Address),
        secrets.generate other peer = secrets.generate infoHash peer := by
  let front := infoHash.bytes.take 5
  have five : front.length = 5 := by simp [front]
  let moved := front.zipWith (· ^^^ ·) Checksum.blindSpot
  have length : moved.length = 5 := by simp [moved, five, Checksum.blindSpot]
  let other : InfoHash := ⟨⟨moved ++ infoHash.bytes.drop 5, by simp [length]⟩⟩
  have split : infoHash.bytes = front ++ infoHash.bytes.drop 5 :=
    (List.take_append_drop 5 infoHash.bytes).symm
  refine ⟨other, ?_, ?_, ?_⟩
  · intro same
    have octets : moved ++ infoHash.bytes.drop 5 = front ++ infoHash.bytes.drop 5 :=
      (congrArg Id.bytes same).trans split
    have head : moved[0]? = front[0]? := by rw [List.append_cancel_right octets]
    obtain ⟨octet, rest, parts⟩ := List.exists_cons_of_length_eq_add_one five
    rw [show moved = front.zipWith (· ^^^ ·) Checksum.blindSpot from rfl, parts] at head
    simp only [Checksum.blindSpot, List.zipWith_cons_cons, List.getElem?_cons_zero,
      Option.some.injEq] at head
    exact absurd (UInt8.xor_right_inj octet |>.1 (head.trans UInt8.xor_zero.symm)) (by decide)
  · intro i late
    change (moved ++ infoHash.bytes.drop 5)[i]? = _
    rw [List.getElem?_append_right (length ▸ late), List.getElem?_drop, length,
      Nat.add_sub_cancel' late]
  · intro secrets peer
    apply token_eq_iff.2
    rw [List.append_assoc, List.append_assoc infoHash.bytes, split]
    have blind := Checksum.crc32c_zipWith_blindSpot five []
      (infoHash.bytes.drop 5 ++ (peer.compact ++ secrets.current.toList))
    simpa [other, Id.bytes] using blind

end Secrets

end Kademlia
