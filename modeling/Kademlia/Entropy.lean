import Kademlia.Bytes

/-!
# Random bytes

A linear congruential sequence of 64-bit states, of which each gives its most
significant octet.  Everything drawn is a byte string of it.
-/

namespace Kademlia

/-- The state random bytes are drawn from. -/
structure Entropy where
  state : UInt64
deriving DecidableEq

namespace Entropy

/-- Draws one octet. -/
def byte (entropy : Entropy) : UInt8 × Entropy :=
  let state := entropy.state * 6364136223846793005 + 1442695040888963407
  ((state >>> 56).toUInt8, ⟨state⟩)

/-- Draws a byte string, its first octet first. -/
def octets : (n : Nat) → Entropy → Octets n × Entropy
  | 0, entropy => (⟨[], rfl⟩, entropy)
  | n + 1, entropy =>
      let (first, entropy) := entropy.byte
      let (rest, entropy) := octets n entropy
      (⟨first :: rest.toList, by simp [rest.length_toList]⟩, entropy)

/-- Draws a number below 65536, its high octet first. -/
def word (entropy : Entropy) : UInt16 × Entropy :=
  let (bytes, entropy) := octets 2 entropy
  (UInt16.ofNat (Bytes.toNat bytes.toList), entropy)

end Entropy

end Kademlia
