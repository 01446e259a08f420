import Kademlia.Address.Compact
import Kademlia.Checksum
import Kademlia.Id

/-!
# Announce tokens

A token binds an info hash to the address that asked for it by a secret.  It is
accepted while its secret is the current one or the one before.
-/

namespace Kademlia

/-- The current secret, the one before, and when they last changed. -/
structure Secrets where
  current : Octets 4
  previous : Octets 4
  rotatedAt : Nat
deriving DecidableEq

namespace Secrets

/-- Draws two secrets. -/
def draw (now : Nat) (entropy : Entropy) : Secrets × Entropy :=
  let (current, entropy) := entropy.octets 4
  let (previous, entropy) := entropy.octets 4
  (⟨current, previous, now⟩, entropy)

/-- The token of an info hash and an address under a secret. -/
def token (infoHash : InfoHash) (peer : Address) (secret : Octets 4) : Bytes :=
  Bytes.bigEndian 4
    (Checksum.crc32c (infoHash.bytes ++ peer.compact ++ secret.toList)).toNat

/-- The token to give to an address that asks for an info hash. -/
def generate (secrets : Secrets) (infoHash : InfoHash) (peer : Address) : Bytes :=
  token infoHash peer secrets.current

/-- Whether a token is accepted from an address for an info hash. -/
def accepts (secrets : Secrets) (infoHash : InfoHash) (peer : Address) (given : Bytes) : Bool :=
  given = token infoHash peer secrets.current || given = token infoHash peer secrets.previous

/-- Draws a new current secret; the current one becomes the one before. -/
def rotate (secrets : Secrets) (now : Nat) (entropy : Entropy) : Secrets × Entropy :=
  let (current, entropy) := entropy.octets 4
  (⟨current, secrets.current, now⟩, entropy)

end Secrets

end Kademlia
