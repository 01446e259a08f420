import Mathlib.Algebra.Group.Nat.Defs
import Mathlib.Data.Nat.Bitwise
import Mathlib.Data.Nat.Size
import Kademlia.Id

/-!
# Distances as numbers

The distance of two ids is the bit length of the number that they differ by, bit for
bit.  So it is an ultrametric, and it is coarser than the order of these numbers, by
which the nodes nearest to a target are chosen.
-/

namespace Kademlia

namespace Bytes

variable {first second : Bytes}

/-! ## Numbers, bit by bit -/

theorem weight_eq_two_pow (width : Nat) : weight width = 2 ^ (8 * width) := by
  induction width with
  | zero => rfl
  | succ width ih => rw [weight_succ, ih, Nat.mul_succ, Nat.pow_add, Nat.mul_comm]

theorem toNat_lt_two_pow (bytes : Bytes) : toNat bytes < 2 ^ (8 * bytes.length) := by
  rw [← weight_eq_two_pow]
  exact toNat_lt bytes

/-- The bits of an octet stand above those of all octets behind it. -/
theorem testBit_toNat_cons (byte : UInt8) (rest : Bytes) (i : Nat) :
    (toNat (byte :: rest)).testBit i =
      if i < 8 * rest.length then (toNat rest).testBit i
      else byte.toNat.testBit (i - 8 * rest.length) := by
  rw [toNat_cons, weight_eq_two_pow, Nat.mul_comm,
    Nat.testBit_two_pow_mul_add byte.toNat (toNat_lt_two_pow rest)]

/-- Octets added without carry spell the sum without carry. -/
theorem toNat_zipWith_xor (same : first.length = second.length) :
    toNat (List.zipWith (· ^^^ ·) first second) = toNat first ^^^ toNat second := by
  induction first generalizing second with
  | nil =>
    obtain rfl := List.length_eq_zero_iff.1 same.symm
    rfl
  | cons a first ih =>
    cases second with
    | nil => cases same
    | cons b second =>
      have same : first.length = second.length := Nat.succ.inj same
      have width : (List.zipWith (· ^^^ ·) first second).length = second.length := by
        rw [List.length_zipWith, same, Nat.min_self]
      apply Nat.eq_of_testBit_eq
      intro i
      rw [List.zipWith_cons_cons, Nat.testBit_xor]
      simp only [testBit_toNat_cons, width, same]
      split
      · rw [ih same, Nat.testBit_xor]
      · rw [UInt8.toNat_xor, Nat.testBit_xor]

/-- Byte strings of one length are ordered like the numbers that they spell. -/
theorem toNat_lt_toNat_iff (same : first.length = second.length) :
    toNat first < toNat second ↔ first < second := by
  induction first generalizing second with
  | nil =>
    obtain rfl := List.length_eq_zero_iff.1 same.symm
    exact iff_of_false (Nat.lt_irrefl 0) (List.not_lt_nil [])
  | cons a first ih =>
    cases second with
    | nil => cases same
    | cons b second =>
      have same : first.length = second.length := Nat.succ.inj same
      have firstBelow := toNat_lt first
      have secondBelow := toNat_lt second
      rw [List.cons_lt_cons_iff, ← ih same, toNat_cons, toNat_cons, same, UInt8.lt_iff_toNat_lt,
        ← UInt8.toNat_inj]
      rw [same] at firstBelow
      rcases Nat.lt_trichotomy a.toNat b.toNat with less | equal | more
      · have room := Nat.mul_le_mul_right (weight second.length) less
        rw [Nat.succ_mul] at room
        simp only [less, true_or, iff_true]
        omega
      · rw [equal]
        simp
      · have room := Nat.mul_le_mul_right (weight second.length) more
        rw [Nat.succ_mul] at room
        have apart : a.toNat ≠ b.toNat := Nat.ne_of_gt more
        have notLess : ¬ a.toNat < b.toNat := Nat.not_lt_of_gt more
        simp only [notLess, apart, false_and, or_false, iff_false]
        omega

end Bytes

namespace Id

variable {a b c : Id}

/-! ## Ids as numbers -/

theorem toNat_inj : a.toNat = b.toNat ↔ a = b := by
  constructor
  · intro equal
    have bytes : a.bytes = b.bytes := by
      rw [← Bytes.bigEndian_toNat a.bytes, ← Bytes.bigEndian_toNat b.bytes, length_bytes,
        length_bytes]
      exact congrArg (Bytes.bigEndian 20) equal
    exact Id.ext (Octets.ext bytes)
  · rintro rfl
    rfl

theorem toNat_lt_toNat_iff : a.toNat < b.toNat ↔ a.bytes < b.bytes :=
  Bytes.toNat_lt_toNat_iff (a.length_bytes.trans b.length_bytes.symm)

theorem toNat_xor (a b : Id) : (a.xor b).toNat = a.toNat ^^^ b.toNat :=
  Bytes.toNat_zipWith_xor (a.length_bytes.trans b.length_bytes.symm)

/-! ## Bit lengths -/

/-- A number in front of `width` bits is so many bits longer with them. -/
theorem size_mul_two_pow_add {high low width : Nat} (nonzero : high ≠ 0) (below : low < 2 ^ width) :
    (high * 2 ^ width + low).size = high.log2 + 1 + width := by
  have least := Nat.mul_le_mul_right (2 ^ width) (Nat.log2_self_le nonzero)
  have most := Nat.mul_le_mul_right (2 ^ width) (Nat.succ_le_of_lt (Nat.lt_log2_self (n := high)))
  rw [← Nat.pow_add] at least most
  rw [Nat.succ_mul] at most
  apply Nat.le_antisymm
  · exact Nat.size_le.2 (by omega)
  · rw [Nat.add_right_comm]
    exact Nat.lt_size.2 (by omega)

/-- Zero bits in front and the bits of the number make up all bits. -/
theorem leadingZeros_add_size (bytes : Bytes) :
    leadingZeros bytes + (Bytes.toNat bytes).size = 8 * bytes.length := by
  induction bytes with
  | nil => rfl
  | cons byte rest ih =>
    have below := Bytes.toNat_lt_two_pow rest
    rw [leadingZeros, Bytes.toNat_cons, Bytes.weight_eq_two_pow, List.length_cons]
    split
    · rename_i zero
      rw [zero, UInt8.toNat_zero, Nat.zero_mul, Nat.zero_add]
      omega
    · rename_i different
      have nonzero : byte.toNat ≠ 0 := fun zero => different (UInt8.toNat_inj.1 zero)
      have octet : byte.toNat.log2 < 8 := (Nat.log2_lt nonzero).2 byte.toNat_lt
      rw [size_mul_two_pow_add nonzero below]
      omega

/-- The distance of two ids is the bit length of what they differ by. -/
theorem distance_eq_size (a b : Id) : a.distance b = (a.toNat ^^^ b.toNat).size := by
  have whole := leadingZeros_add_size (a.xor b).bytes
  rw [length_bytes] at whole
  rw [← toNat_xor, distance, toNat]
  omega

/-! ## An ultrametric -/

theorem distance_eq_zero_iff : a.distance b = 0 ↔ a = b := by
  rw [distance_eq_size, Nat.size_eq_zero, Nat.xor_eq_zero_iff, toNat_inj]

theorem distance_comm (a b : Id) : a.distance b = b.distance a := by
  rw [distance_eq_size, distance_eq_size, Nat.xor_comm]

/-- A sum without carry is no longer than the longer of both numbers. -/
theorem size_xor_le (m n : Nat) : (m ^^^ n).size ≤ max m.size n.size := by
  apply Nat.size_le.2
  apply Nat.xor_lt_two_pow
  · exact Nat.size_le.1 (Nat.le_max_left m.size n.size)
  · exact Nat.size_le.1 (Nat.le_max_right m.size n.size)

/-- What two ids differ by is what the one and the other differ from a third by. -/
theorem toNat_xor_toNat (a b c : Id) :
    a.toNat ^^^ c.toNat = (a.toNat ^^^ b.toNat) ^^^ (b.toNat ^^^ c.toNat) := by
  rw [Nat.xor_assoc, ← Nat.xor_assoc b.toNat, Nat.xor_self, Nat.zero_xor]

theorem distance_le_max (a b c : Id) : a.distance c ≤ max (a.distance b) (b.distance c) := by
  rw [distance_eq_size, distance_eq_size, distance_eq_size, toNat_xor_toNat a b c]
  exact size_xor_le _ _

/-- The longest of three distances occurs twice, since no side of the triangle is
longer than both others. -/
theorem distance_eq_max (different : a.distance b ≠ b.distance c) :
    a.distance c = max (a.distance b) (b.distance c) := by
  have whole := distance_le_max a b c
  have first := distance_le_max a c b
  have second := distance_le_max b a c
  rw [distance_comm c b] at first
  rw [distance_comm b a] at second
  omega

/-- The nearer id is the one that differs from the target by less. -/
theorem toNat_xor_lt_of_distance_lt (nearer : c.distance a < c.distance b) :
    (a.xor c).toNat < (b.xor c).toNat := by
  rw [distance_eq_size, distance_eq_size, Nat.xor_comm, ← toNat_xor, Nat.xor_comm c.toNat,
    ← toNat_xor] at nearer
  exact Nat.lt_of_not_le fun farther => Nat.not_lt.2 (Nat.size_le_size farther) nearer

/-! ## Counting in octets -/

/-- How many zero bits an octet begins with. -/
def octetZeros (octet : UInt8) : Nat :=
  if octet = 0 then 8 else 7 - octet.toNat.log2

/-- A number as an octet, if it is one. -/
def octet? (n : Nat) : Option UInt8 :=
  if n < 256 then some (UInt8.ofNat n) else none

/-- What is left of an octet without another one, if it is not the smaller one. -/
def less? (whole octet : UInt8) : Option UInt8 :=
  if octet ≤ whole then some (whole - octet) else none

/-- The distance of two ids as it is found octet by octet, in the arithmetic of octets:
at the first octet in which they differ the leading bits that they share are taken from
all bits.  None if a number on the way is no octet; `shared` octets came before. -/
def countFrom (shared : Nat) : Bytes → Bytes → Option UInt8
  | a :: first, b :: second =>
      if a = b then countFrom (shared + 1) first second
      else (octet? (8 * shared + octetZeros (a ^^^ b))).bind (less? 160)
  | _, _ => some 0

theorem toNat_ofNat_of_le {n : Nat} (few : n ≤ 160) : (UInt8.ofNat n).toNat = n := by
  rw [UInt8.toNat_ofNat', Nat.mod_eq_of_lt (by omega)]

/-- Numbers up to 160 are octets, and may be taken from that. -/
theorem less?_octet? {n : Nat} (few : n ≤ 160) :
    (octet? n).bind (less? 160) = some (UInt8.ofNat (160 - n)) := by
  have value := toNat_ofNat_of_le few
  have rest := toNat_ofNat_of_le (Nat.sub_le 160 n)
  have enough : UInt8.ofNat n ≤ 160 := by
    rw [UInt8.le_iff_toNat_le, value]
    exact few
  rw [octet?, if_pos (by omega), Option.bind_some, less?, if_pos enough]
  congr 1
  apply UInt8.toNat_inj.1
  rw [UInt8.toNat_sub_of_le _ _ enough, value, rest]
  rfl

theorem countFrom_eq {shared : Nat} {first second : Bytes} (same : first.length = second.length)
    (whole : shared + first.length = 20) :
    countFrom shared first second =
      some (UInt8.ofNat
        (160 - (8 * shared + leadingZeros (List.zipWith (· ^^^ ·) first second)))) := by
  induction first generalizing shared second with
  | nil =>
    obtain rfl := List.length_eq_zero_iff.1 same.symm
    obtain rfl : shared = 20 := whole
    rfl
  | cons a first ih =>
    cases second with
    | nil => cases same
    | cons b second =>
      rw [List.length_cons] at whole
      rw [countFrom, List.zipWith_cons_cons, leadingZeros]
      by_cases equal : a = b
      · rw [if_pos equal, ih (Nat.succ.inj same) (by omega), if_pos (UInt8.xor_eq_zero_iff.2 equal)]
        congr 3
        omega
      · have nonzero : a ^^^ b ≠ 0 := fun zero => equal (UInt8.xor_eq_zero_iff.1 zero)
        rw [if_neg equal, octetZeros, if_neg nonzero, if_neg nonzero, less?_octet? (by omega)]

/-- Counting octet by octet stays within octets and comes to the distance. -/
theorem toNat_countFrom (a b : Id) :
    (countFrom 0 a.bytes b.bytes).map UInt8.toNat = some (a.distance b) := by
  have few : a.distance b ≤ 160 := Nat.sub_le 160 _
  rw [countFrom_eq (a.length_bytes.trans b.length_bytes.symm) (by rw [length_bytes]),
    Nat.mul_zero, Nat.zero_add]
  change (some (UInt8.ofNat (a.distance b))).map UInt8.toNat = _
  rw [Option.map_some, toNat_ofNat_of_le few]

/-- The distance of two ids is the bit length of what they differ by as numbers of 160
bits, and is found octet by octet without leaving the octets.  It is 0 for equal ids
only and at most 160, it is symmetric, and of the distances of three ids the two longest
are equal.  An id that is nearer to a target comes first in the order of what the ids
differ from it by, be they compared as numbers or octet by octet. -/
theorem distance_is_bit_length (a b c : Id) :
    a.distance b = (a.toNat ^^^ b.toNat).size ∧
      (countFrom 0 a.bytes b.bytes).map UInt8.toNat = some (a.distance b) ∧
      (a.distance b = 0 ↔ a = b) ∧ a.distance b ≤ 160 ∧
      a.distance b = b.distance a ∧
      a.distance c ≤ max (a.distance b) (b.distance c) ∧
      (a.distance b ≠ b.distance c → a.distance c = max (a.distance b) (b.distance c)) ∧
      (c.distance a < c.distance b →
        (a.xor c).toNat < (b.xor c).toNat ∧ (a.xor c).bytes < (b.xor c).bytes) := by
  refine ⟨distance_eq_size a b, toNat_countFrom a b, distance_eq_zero_iff, Nat.sub_le 160 _,
    distance_comm a b, distance_le_max a b c, distance_eq_max, ?_⟩
  intro nearer
  have less := toNat_xor_lt_of_distance_lt nearer
  exact ⟨less, toNat_lt_toNat_iff.1 less⟩

/-- Ids that differ in their last octet only. -/
example : (ofNat 5).distance (ofNat 3) = 3 := by
  decide

end Id

end Kademlia
