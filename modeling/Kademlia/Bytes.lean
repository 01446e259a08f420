/-!
# Byte strings

Datagrams, state files and identifiers are lists of octets.  This module holds
fixed-length strings, numbers written with their most significant octet first,
and hexadecimal text.
-/

namespace Kademlia

/-- A string of octets. -/
abbrev Bytes := List UInt8

/-- A string of exactly `n` octets. -/
@[ext]
structure Octets (n : Nat) where
  toList : Bytes
  length_toList : toList.length = n
deriving DecidableEq

namespace Octets

/-- A byte string, if it has the wanted length. -/
def ofList? (n : Nat) (bytes : Bytes) : Option (Octets n) :=
  if h : bytes.length = n then some ⟨bytes, h⟩ else none

/-- All octets zero. -/
def zero (n : Nat) : Octets n :=
  ⟨List.replicate n 0, List.length_replicate⟩

theorem ofList?_eq_some_iff {n : Nat} {bytes : Bytes} {octets : Octets n} :
    ofList? n bytes = some octets ↔ bytes = octets.toList := by
  unfold ofList?
  split
  · simp [Octets.ext_iff]
  · rename_i wrong
    simp only [reduceCtorEq, false_iff]
    rintro rfl
    exact wrong octets.length_toList

@[simp]
theorem ofList?_toList {n : Nat} (octets : Octets n) :
    ofList? n octets.toList = some octets :=
  ofList?_eq_some_iff.2 rfl

end Octets

namespace Bytes

/-! ## Numbers, most significant octet first -/

/-- What an octet counts for when `width` octets follow it: 256 to that power.
So many byte strings of this length there are. -/
def weight : (width : Nat) → Nat
  | 0 => 1
  | width + 1 => 256 * weight width

/-- The `width` low octets of a number, the most significant one first. -/
def bigEndian : (width : Nat) → Nat → Bytes
  | 0, _ => []
  | width + 1, n => UInt8.ofNat (n / weight width) :: bigEndian width n

/-- The number a byte string spells, its first octet most significant. -/
def toNat : Bytes → Nat
  | [] => 0
  | byte :: rest => byte.toNat * weight rest.length + toNat rest

@[simp]
theorem weight_zero : weight 0 = 1 :=
  rfl

theorem weight_succ (width : Nat) : weight (width + 1) = 256 * weight width :=
  rfl

theorem weight_pos (width : Nat) : 0 < weight width := by
  induction width with
  | zero => decide
  | succ width ih =>
    rw [weight_succ]
    omega

@[simp]
theorem length_bigEndian (width n : Nat) : (bigEndian width n).length = width := by
  induction width with
  | zero => rfl
  | succ width ih => simp [bigEndian, ih]

@[simp]
theorem toNat_nil : toNat [] = 0 :=
  rfl

@[simp]
theorem toNat_cons (byte : UInt8) (rest : Bytes) :
    toNat (byte :: rest) = byte.toNat * weight rest.length + toNat rest :=
  rfl

/-- Writing a number on `width` octets keeps it up to multiples of `weight width`. -/
theorem toNat_bigEndian (width n : Nat) : toNat (bigEndian width n) = n % weight width := by
  induction width with
  | zero => simp [bigEndian, Nat.mod_one]
  | succ width ih =>
    have octet : (UInt8.ofNat (n / weight width)).toNat = n / weight width % 256 := by simp
    rw [bigEndian, toNat_cons, octet, ih, length_bigEndian, weight_succ, Nat.mul_comm 256,
      Nat.mod_mul, Nat.mul_comm, Nat.add_comm]

theorem toNat_lt (bytes : Bytes) : toNat bytes < weight bytes.length := by
  induction bytes with
  | nil => decide
  | cons byte rest ih =>
    have octet : byte.toNat + 1 ≤ 256 := byte.toNat_lt
    have room := Nat.mul_le_mul_right (weight rest.length) octet
    rw [toNat_cons, List.length_cons, weight_succ]
    rw [Nat.add_mul] at room
    omega

/-- Only the remainder by `weight width` shows in the `width` low octets. -/
theorem bigEndian_add_mul (width n k : Nat) :
    bigEndian width (k * weight width + n) = bigEndian width n := by
  induction width generalizing k with
  | zero => rfl
  | succ width ih =>
    have regroup : k * weight (width + 1) = (k * 256) * weight width := by
      rw [weight_succ, Nat.mul_assoc]
    rw [bigEndian, bigEndian, regroup, ih]
    congr 1
    rw [Nat.add_comm, Nat.add_mul_div_right _ _ (weight_pos width)]
    apply UInt8.toNat_inj.1
    simp

/-- A byte string is the number it spells, written on its own length. -/
theorem bigEndian_toNat (bytes : Bytes) : bigEndian bytes.length (toNat bytes) = bytes := by
  induction bytes with
  | nil => rfl
  | cons byte rest ih =>
    have high :
        (byte.toNat * weight rest.length + toNat rest) / weight rest.length = byte.toNat := by
      rw [Nat.add_comm, Nat.add_mul_div_right _ _ (weight_pos rest.length),
        Nat.div_eq_of_lt (toNat_lt rest), Nat.zero_add]
    rw [List.length_cons, bigEndian, toNat_cons, bigEndian_add_mul, ih, high, UInt8.ofNat_toNat]

/-! ## Hexadecimal text -/

/-- The lower case digit of a number below sixteen. -/
def hexDigit (n : Nat) : Char :=
  Char.ofNat (if n < 10 then 48 + n else 87 + n)

/-- The two digits of an octet. -/
def hexOctet (byte : UInt8) : List Char :=
  [hexDigit (byte.toNat / 16), hexDigit (byte.toNat % 16)]

/-- Lower case hexadecimal text, two digits for each octet. -/
def hex (bytes : Bytes) : String :=
  String.ofList (bytes.flatMap hexOctet)

/-- The value of a hexadecimal digit of either case. -/
def digit? (c : Char) : Option Nat :=
  if '0' ≤ c ∧ c ≤ '9' then some (c.toNat - 48)
  else if 'a' ≤ c ∧ c ≤ 'f' then some (c.toNat - 87)
  else if 'A' ≤ c ∧ c ≤ 'F' then some (c.toNat - 55)
  else none

/-- Pairs of digits read as octets. -/
def ofHexDigits? : List Char → Option Bytes
  | [] => some []
  | high :: low :: rest => do
      let high ← digit? high
      let low ← digit? low
      let bytes ← ofHexDigits? rest
      pure (UInt8.ofNat (high * 16 + low) :: bytes)
  | [_] => none

/-- The bytes a hexadecimal text stands for. -/
def ofHex? (text : String) : Option Bytes :=
  ofHexDigits? text.toList

/-! ## Cutting -/

/-- Cuts a byte string into pieces of `size` octets, the last one possibly shorter. -/
def chunks (size : Nat) (bytes : Bytes) : List Bytes :=
  if 0 < size ∧ bytes ≠ [] then bytes.take size :: chunks size (bytes.drop size) else []
termination_by bytes.length
decreasing_by
  rename_i h
  have := List.length_pos_iff.2 h.2
  simp only [List.length_drop]
  omega

@[simp]
theorem chunks_nil (size : Nat) : chunks size [] = [] := by
  unfold chunks
  simp

theorem chunks_append {size : Nat} {piece : Bytes} (positive : 0 < size)
    (length : piece.length = size) (rest : Bytes) :
    chunks size (piece ++ rest) = piece :: chunks size rest := by
  have nonempty : piece ++ rest ≠ [] := by
    intro empty
    have := congrArg List.length empty
    simp [length] at this
    omega
  rw [chunks, if_pos ⟨positive, nonempty⟩, ← length, List.take_left, List.drop_left]

/-- The pieces of a byte string in a row are that byte string. -/
theorem flatten_chunks {size : Nat} (positive : 0 < size) (bytes : Bytes) :
    (chunks size bytes).flatten = bytes := by
  induction bytes using chunks.induct size with
  | case1 bytes h ih =>
    rw [chunks, if_pos h, List.flatten_cons, ih, List.take_append_drop]
  | case2 bytes h =>
    cases bytes with
    | nil => simp
    | cons byte rest => exact absurd ⟨positive, List.cons_ne_nil byte rest⟩ h

/-- A byte string whose length is a multiple of the size is cut evenly. -/
theorem length_of_mem_chunks {size : Nat} {bytes : Bytes} (even : bytes.length % size = 0) :
    ∀ piece ∈ chunks size bytes, piece.length = size := by
  induction bytes using chunks.induct size with
  | case1 bytes h ih =>
    have room : size ≤ bytes.length :=
      Nat.le_of_dvd (List.length_pos_iff.2 h.2) (Nat.dvd_of_mod_eq_zero even)
    have even' : (bytes.drop size).length % size = 0 := by
      rw [List.length_drop, ← Nat.mod_eq_sub_mod room]
      exact even
    rw [chunks, if_pos h, List.forall_mem_cons]
    exact ⟨List.length_take_of_le room, ih even'⟩
  | case2 bytes h =>
    rw [chunks, if_neg h]
    exact nofun

end Bytes

end Kademlia
