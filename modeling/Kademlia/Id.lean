import Kademlia.Entropy
import Kademlia.Error

/-!
# Node ids

An id is a string of twenty octets, read as a 160-bit number.  The distance of
two ids counts the bits from the first one in which they differ.
-/

namespace Kademlia

/-- The id of a node, an info hash, or the target of a lookup. -/
@[ext]
structure Id where
  octets : Octets 20
deriving DecidableEq

namespace Id

/-- The octets of an id. -/
def bytes (id : Id) : Bytes :=
  id.octets.toList

/-- The number an id spells. -/
def toNat (id : Id) : Nat :=
  Bytes.toNat id.bytes

@[simp]
theorem length_bytes (id : Id) : id.bytes.length = 20 :=
  id.octets.length_toList

/-- The id of a byte string of the right length. -/
def ofBytes (bytes : Bytes) : Except Error Id :=
  match Octets.ofList? 20 bytes with
  | some octets => .ok ⟨octets⟩
  | none => .error (.idLength bytes.length)

/-- The id that the 160 low bits of a number spell. -/
def ofNat (n : Nat) : Id :=
  ⟨Bytes.bigEndian 20 n, Bytes.length_bigEndian 20 n⟩

/-- The hexadecimal digits of an id. -/
def hex (id : Id) : String :=
  Bytes.hex id.bytes

/-- Draws an id. -/
def random (entropy : Entropy) : Id × Entropy :=
  let (octets, entropy) := entropy.octets 20
  (⟨octets⟩, entropy)

@[simp]
theorem ofBytes_bytes (id : Id) : ofBytes id.bytes = .ok id := by
  simp [ofBytes, bytes]

theorem ofBytes_eq_ok_iff {bytes : Bytes} {id : Id} :
    ofBytes bytes = .ok id ↔ bytes = id.bytes := by
  constructor
  · unfold ofBytes
    split
    · rename_i octets found
      rintro ⟨⟩
      exact Octets.ofList?_eq_some_iff.1 found
    · simp
  · rintro rfl
    exact ofBytes_bytes id

/-! ## Distance -/

/-- The octets of two ids, added without carry. -/
def xor (a b : Id) : Id :=
  ⟨List.zipWith (· ^^^ ·) a.bytes b.bytes, by simp⟩

/-- How many zero bits a byte string begins with. -/
def leadingZeros : Bytes → Nat
  | [] => 0
  | byte :: rest => if byte = 0 then 8 + leadingZeros rest else 7 - byte.toNat.log2

/-- The distance of two ids: 0 for equal ones, up to 160. -/
def distance (a b : Id) : Nat :=
  160 - leadingZeros (a.xor b).bytes

/-- An id at distance `min d 160` from a given one, for `d` not zero: it differs
in the bit that this distance names, and in the lower ones as a draw says. -/
def atDistance (id : Id) (d : Nat) (draw : Octets 20) : Id :=
  let high := 1 <<< (min d 160 - 1)
  id.xor (ofNat (high + Bytes.toNat draw.toList % high))

/-- An id at a distance from a given one; nothing is drawn for distance zero. -/
def randomAtDistance (id : Id) (d : Nat) (entropy : Entropy) : Id × Entropy :=
  if d = 0 then (id, entropy)
  else
    let (draw, entropy) := entropy.octets 20
    (id.atDistance d draw, entropy)

end Id

/-- What a stack downloads or announces is named like a node. -/
abbrev InfoHash := Id

end Kademlia
