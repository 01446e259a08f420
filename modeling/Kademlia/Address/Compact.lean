import Kademlia.Address.Basic

/-!
# Compact addresses

Six octets for IPv4 and eighteen for IPv6: the IP and then the port, most
significant octet first.  The length tells the family.  Flow info and scope have no
place in it, so reading and writing are inverse to each other on addresses without.
-/

namespace Kademlia.Address

/-- The compact form of an address. -/
def compact (address : Address) : Bytes :=
  address.ip.bytes ++ Bytes.bigEndian 2 address.port.toNat

/-- The port that two octets spell. -/
def portOf (bytes : Bytes) : UInt16 :=
  UInt16.ofNat (Bytes.toNat bytes)

/-- The address a byte string is the compact form of. -/
def ofCompact? (bytes : Bytes) : Option Address :=
  if h : bytes.length = 6 then
    some ⟨.v4 ⟨bytes.take 4, by simp [h]⟩, portOf (bytes.drop 4)⟩
  else if h : bytes.length = 18 then
    some ⟨.v6 ⟨bytes.take 16, by simp [h]⟩ 0 0, portOf (bytes.drop 16)⟩
  else none

@[simp]
theorem length_compact (address : Address) :
    address.compact.length = address.family.compactLength := by
  simp [compact, Family.compactLength, family]

@[simp]
theorem portOf_bigEndian (port : UInt16) : portOf (Bytes.bigEndian 2 port.toNat) = port := by
  have := port.toNat_lt
  apply UInt16.toNat_inj.1
  rw [portOf, Bytes.toNat_bigEndian, show Bytes.weight 2 = 65536 from rfl]
  simp only [UInt16.toNat_ofNat']
  omega

theorem bigEndian_portOf {bytes : Bytes} (length : bytes.length = 2) :
    Bytes.bigEndian 2 (portOf bytes).toNat = bytes := by
  have bound := Bytes.toNat_lt bytes
  rw [length, show Bytes.weight 2 = 65536 from rfl] at bound
  have exact : (portOf bytes).toNat = Bytes.toNat bytes := by
    simp only [portOf, UInt16.toNat_ofNat']
    omega
  rw [exact, ← length, Bytes.bigEndian_toNat]

/-- Flow info and scope are not written. -/
@[simp]
theorem compact_bare (address : Address) : address.bare.compact = address.compact := by
  rw [compact, compact, ip_bare, port_bare]

/-- Reading a compact address gives back what was written, without flow info and scope. -/
@[simp]
theorem ofCompact?_compact (address : Address) :
    ofCompact? address.compact = some address.bare := by
  obtain ⟨locator, port⟩ := address
  cases locator with
  | v4 octets =>
    have length := octets.length_toList
    simp [ofCompact?, compact, ip, Locator.ip, Ip.bytes, length, bare, Locator.ofIp]
  | v6 octets flow scope =>
    have length := octets.length_toList
    simp [ofCompact?, compact, ip, Locator.ip, Ip.bytes, length, bare, Locator.ofIp]

/-- Compact forms are the same exactly if IP and port are. -/
theorem compact_inj {first second : Address} :
    first.compact = second.compact ↔ first.bare = second.bare := by
  constructor
  · intro same
    have read := ofCompact?_compact first
    rw [same, ofCompact?_compact] at read
    exact (Option.some.inj read).symm
  · intro same
    rw [← compact_bare first, same, compact_bare]

/-- A byte string is read exactly as the bare address it is the compact form of. -/
theorem ofCompact?_eq_some_iff {bytes : Bytes} {address : Address} :
    ofCompact? bytes = some address ↔ bytes = address.compact ∧ address.Bare := by
  constructor
  · unfold ofCompact?
    split
    · rintro ⟨⟩
      rename_i length
      refine ⟨?_, rfl⟩
      simp [compact, ip, Locator.ip, Ip.bytes, bigEndian_portOf, length]
    · split
      · rintro ⟨⟩
        rename_i length
        refine ⟨?_, rfl⟩
        simp [compact, ip, Locator.ip, Ip.bytes, bigEndian_portOf, length]
      · simp
  · rintro ⟨rfl, bare⟩
    rw [ofCompact?_compact, bare]

end Kademlia.Address
