import Kademlia.Checksum
import Mathlib.Algebra.Group.Nat.Defs

/-!
# What the checksum tells apart

Shifting the register is linear in exclusive or, and as long as what comes out is
small, nothing has dropped out.  So byte strings of up to four octets that differ
leave the register different.
-/

namespace Kademlia.Checksum

variable {register : UInt32} {bytes first second : Bytes}

/-! ## Exclusive or -/

theorem and_one_eq_one_iff : register &&& 1 = 1 ↔ register.toNat % 2 = 1 := by
  rw [← UInt32.toNat_inj, UInt32.toNat_and]
  change register.toNat &&& 1 = 1 ↔ _
  rw [Nat.and_one_is_mod]

theorem toNat_half : (register >>> 1).toNat = register.toNat / 2 := by
  rw [UInt32.toNat_shiftRight]
  exact Nat.shiftRight_eq_div_pow register.toNat 1

theorem shift_of_odd (odd : register.toNat % 2 = 1) :
    shift register = register >>> 1 ^^^ polynomial :=
  if_pos (and_one_eq_one_iff.2 odd)

theorem shift_of_even (even : register.toNat % 2 ≠ 1) : shift register = register >>> 1 :=
  if_neg fun low => even (and_one_eq_one_iff.1 low)

theorem odd_xor_iff {a b : UInt32} :
    (a ^^^ b).toNat % 2 = 1 ↔ ¬(a.toNat % 2 = 1 ↔ b.toNat % 2 = 1) := by
  rw [UInt32.toNat_xor, Nat.xor_mod_two_eq_one]

theorem shift_xor (a b : UInt32) : shift (a ^^^ b) = shift a ^^^ shift b := by
  by_cases oddA : a.toNat % 2 = 1
  · by_cases oddB : b.toNat % 2 = 1
    · have even : (a ^^^ b).toNat % 2 ≠ 1 := fun odd => odd_xor_iff.1 odd (iff_of_true oddA oddB)
      rw [shift_of_even even, shift_of_odd oddA, shift_of_odd oddB, UInt32.shiftRight_xor]
      -- the polynomial is added twice
      rw [UInt32.xor_comm (b >>> 1), ← UInt32.xor_assoc, UInt32.xor_assoc (a >>> 1),
        UInt32.xor_self, UInt32.xor_zero]
    · have odd : (a ^^^ b).toNat % 2 = 1 := odd_xor_iff.2 fun same => oddB (same.1 oddA)
      rw [shift_of_odd odd, shift_of_odd oddA, shift_of_even oddB, UInt32.shiftRight_xor]
      ac_rfl
  · by_cases oddB : b.toNat % 2 = 1
    · have odd : (a ^^^ b).toNat % 2 = 1 := odd_xor_iff.2 fun same => oddA (same.2 oddB)
      rw [shift_of_odd odd, shift_of_even oddA, shift_of_odd oddB, UInt32.shiftRight_xor]
      ac_rfl
    · have even : (a ^^^ b).toNat % 2 ≠ 1 := fun odd => odd_xor_iff.1 odd (iff_of_false oddA oddB)
      rw [shift_of_even even, shift_of_even oddA, shift_of_even oddB, UInt32.shiftRight_xor]

theorem shifts_xor (n : Nat) (a b : UInt32) : shifts n (a ^^^ b) = shifts n a ^^^ shifts n b := by
  induction n generalizing a b with
  | zero => rfl
  | succ n ih => rw [shifts, shift_xor, ih, shifts, shifts]

theorem feed_xor (a b : UInt32) (x y : UInt8) :
    feed (a ^^^ b) (x ^^^ y) = feed a x ^^^ feed b y := by
  rw [feed, feed, feed, ← shifts_xor, UInt8.toUInt32_xor]
  congr 1
  ac_rfl

/-- Taking in two byte strings side by side. -/
theorem run_xor (same : first.length = second.length) (a b : UInt32) :
    run (a ^^^ b) (first.zipWith (· ^^^ ·) second) = run a first ^^^ run b second := by
  induction first generalizing second a b with
  | nil =>
    rw [List.eq_nil_of_length_eq_zero same.symm]
    rfl
  | cons x first ih =>
    cases second with
    | nil => cases same
    | cons y second =>
      rw [List.zipWith_cons_cons, run_cons, feed_xor, ih (Nat.succ.inj same), run_cons, run_cons]

/-! ## Small registers -/

/-- The polynomial has the highest bit, so what a shift leaves below it was there
before. -/
theorem toNat_of_shift_lt (small : (shift register).toNat < 2 ^ 31) :
    register.toNat = 2 * (shift register).toNat := by
  by_cases odd : register.toNat % 2 = 1
  · rw [shift_of_odd odd, UInt32.toNat_xor] at small
    have half : (register >>> 1).toNat < 2 ^ 31 := by
      have bound := register.toNat_lt
      rw [toNat_half]
      omega
    have both := Nat.xor_lt_two_pow small half
    rw [Nat.xor_comm, ← Nat.xor_assoc, Nat.xor_self, Nat.zero_xor] at both
    exact absurd both (by decide)
  · rw [shift_of_even odd, toNat_half]
    omega

theorem toNat_of_shifts_lt {n : Nat} (few : n ≤ 32)
    (small : (shifts n register).toNat < 2 ^ (32 - n)) :
    register.toNat = 2 ^ n * (shifts n register).toNat := by
  induction n generalizing register with
  | zero => simp [shifts]
  | succ n ih =>
    have wider : 2 ^ (32 - (n + 1)) ≤ 2 ^ (32 - n) := Nat.pow_le_pow_right (by decide) (by omega)
    have rest : (shift register).toNat = 2 ^ n * (shifts n (shift register)).toNat :=
      ih (by omega) (Nat.lt_of_lt_of_le small wider)
    have power : 2 ^ n * 2 ^ (32 - (n + 1)) = 2 ^ 31 := by
      rw [← Nat.pow_add]
      congr 1
      omega
    have below : (shift register).toNat < 2 ^ 31 := by
      rw [rest, ← power]
      exact Nat.mul_lt_mul_of_pos_left small (Nat.two_pow_pos n)
    rw [toNat_of_shift_lt below, rest, shifts, Nat.pow_succ']
    rw [Nat.mul_assoc]

/-- What an octet leaves below 2 ^ 24 tells what the register was, up to that octet. -/
theorem toNat_xor_of_feed_lt {byte : UInt8} (small : (feed register byte).toNat < 2 ^ 24) :
    (register ^^^ byte.toUInt32).toNat = 256 * (feed register byte).toNat :=
  toNat_of_shifts_lt (by decide) small

theorem toNat_lt_of_run_eq_zero (short : bytes.length ≤ 4) (clear : run register bytes = 0) :
    register.toNat < 2 ^ (8 * bytes.length) := by
  induction bytes generalizing register with
  | nil =>
    rw [run_nil] at clear
    rw [clear]
    decide
  | cons byte bytes ih =>
    rw [List.length_cons] at short ⊢
    have rest := ih (Nat.le_of_succ_le short) clear
    have within : 2 ^ (8 * bytes.length) ≤ 2 ^ 24 := Nat.pow_le_pow_right (by decide) (by omega)
    have before := toNat_xor_of_feed_lt (Nat.lt_of_lt_of_le rest within)
    have octet : byte.toUInt32.toNat < 2 ^ (8 * (bytes.length + 1)) := by
      have bound := byte.toNat_lt
      have wide : 2 ^ 8 ≤ 2 ^ (8 * (bytes.length + 1)) := Nat.pow_le_pow_right (by decide) (by omega)
      rw [UInt8.toNat_toUInt32]
      omega
    have sum : (register ^^^ byte.toUInt32).toNat < 2 ^ (8 * (bytes.length + 1)) := by
      rw [before, Nat.mul_succ, Nat.pow_add]
      omega
    rw [UInt32.toNat_xor] at sum
    have both := Nat.xor_lt_two_pow sum octet
    rwa [Nat.xor_assoc, Nat.xor_self, Nat.xor_zero] at both

/-- From a clear register only octets of zero leave it clear, up to four of them. -/
theorem eq_zero_of_run_eq_zero (short : bytes.length ≤ 4) (clear : run 0 bytes = 0) :
    ∀ byte ∈ bytes, byte = 0 := by
  induction bytes with
  | nil => exact fun _ mem => absurd mem List.not_mem_nil
  | cons byte bytes ih =>
    rw [List.length_cons] at short
    have rest := toNat_lt_of_run_eq_zero (Nat.le_of_succ_le short) clear
    have within : 2 ^ (8 * bytes.length) ≤ 2 ^ 24 := Nat.pow_le_pow_right (by decide) (by omega)
    have before := toNat_xor_of_feed_lt (Nat.lt_of_lt_of_le rest within)
    have bound := byte.toNat_lt
    rw [UInt32.zero_xor, UInt8.toNat_toUInt32] at before
    -- an octet that is a multiple of 256 is zero
    have zeroByte : byte = 0 := by
      apply UInt8.toNat_inj.1
      rw [UInt8.toNat_zero]
      omega
    have left : feed 0 byte = 0 := by
      apply UInt32.toNat_inj.1
      rw [UInt32.toNat_zero]
      omega
    rw [run_cons, left] at clear
    exact List.forall_mem_cons.2 ⟨zeroByte, ih (Nat.le_of_succ_le short) clear⟩

/-- Up to four octets are told apart by what they leave of the same register. -/
theorem run_inj (same : first.length = second.length) (short : first.length ≤ 4)
    (equal : run register first = run register second) : first = second := by
  have clear : run 0 (first.zipWith (· ^^^ ·) second) = 0 := by
    have both := run_xor same register register
    rwa [equal, UInt32.xor_self, UInt32.xor_self] at both
  have length : (first.zipWith (· ^^^ ·) second).length = first.length := by
    rw [List.length_zipWith, same, Nat.min_self]
  have zero := eq_zero_of_run_eq_zero (length ▸ short) clear
  apply List.ext_getElem same
  intro i here there
  have octet := zero _ (List.getElem_mem (length.symm ▸ here))
  rw [List.getElem_zipWith] at octet
  exact UInt8.xor_eq_zero_iff.1 octet

/-! ## Behind a difference -/

theorem shift_inj {a b : UInt32} (equal : shift a = shift b) : a = b := by
  have clear : shift (a ^^^ b) = 0 := by rw [shift_xor, equal, UInt32.xor_self]
  have small : (shift (a ^^^ b)).toNat < 2 ^ 31 := by
    rw [clear]
    decide
  have alike := toNat_of_shift_lt small
  rw [clear] at alike
  exact UInt32.xor_eq_zero_iff.1 (UInt32.toNat_inj.1 alike)

theorem shifts_inj {n : Nat} {a b : UInt32} (equal : shifts n a = shifts n b) : a = b := by
  induction n generalizing a b with
  | zero => exact equal
  | succ n ih => exact shift_inj (ih equal)

/-- Registers that differ go on differing, whatever is taken in. -/
theorem register_inj {a b : UInt32} (equal : run a bytes = run b bytes) : a = b := by
  induction bytes generalizing a b with
  | nil => exact equal
  | cons byte bytes ih =>
    rw [run_cons, run_cons] at equal
    have same : a ^^^ byte.toUInt32 = b ^^^ byte.toUInt32 := shifts_inj (ih equal)
    exact (UInt32.xor_left_inj _).1 same

/-- Byte strings that differ in up to four octets in a row, and nowhere else, differ in
their checksum. -/
theorem crc32c_between_inj (same : first.length = second.length) (short : first.length ≤ 4)
    (rest : Bytes) :
    crc32c (bytes ++ first ++ rest) = crc32c (bytes ++ second ++ rest) ↔ first = second := by
  constructor
  · intro equal
    rw [crc32c, crc32c, UInt32.xor_left_inj, run_append, run_append _ (bytes ++ second)] at equal
    have before := register_inj equal
    rw [run_append, run_append] at before
    exact run_inj same short before
  · rintro rfl
    rfl

/-- Byte strings that differ in their last four octets alone differ in their checksum. -/
theorem crc32c_append_inj (same : first.length = second.length) (short : first.length ≤ 4) :
    crc32c (bytes ++ first) = crc32c (bytes ++ second) ↔ first = second := by
  rw [← List.append_nil (bytes ++ first), ← List.append_nil (bytes ++ second)]
  exact crc32c_between_inj same short []

/-- Byte strings of one length that agree outside some four octets in a row, and in their
checksum, are equal. -/
theorem eq_of_crc32c_eq {start : Nat} (same : first.length = second.length)
    (outside : ∀ i, i < start ∨ start + 4 ≤ i → first[i]? = second[i]?)
    (equal : crc32c first = crc32c second) : first = second := by
  have cut (whole : Bytes) :
      whole = whole.take start ++ (whole.drop start).take 4 ++ whole.drop (start + 4) := by
    rw [List.append_assoc, ← List.drop_drop, List.take_append_drop, List.take_append_drop]
  have before : first.take start = second.take start := by
    apply List.ext_getElem?
    intro i
    rw [List.getElem?_take, List.getElem?_take]
    split
    · rename_i early
      exact outside i (.inl early)
    · rfl
  have behind : first.drop (start + 4) = second.drop (start + 4) := by
    apply List.ext_getElem?
    intro i
    rw [List.getElem?_drop, List.getElem?_drop]
    exact outside _ (.inr (Nat.le_add_right _ _))
  have width : ((first.drop start).take 4).length = ((second.drop start).take 4).length := by
    rw [List.length_take, List.length_take, List.length_drop, List.length_drop, same]
  rw [cut first, cut second, before, behind] at equal ⊢
  rw [(crc32c_between_inj width (List.length_take_le _ _) _).1 equal]

/-! ## What it does not tell apart -/

/-- The polynomial with all of its 33 bits, as octets. -/
def blindSpot : Bytes :=
  [0xF1, 0x76, 0xEC, 0x05, 0x01]

theorem run_blindSpot : run 0 blindSpot = 0 := by
  decide +kernel

/-- Adding the polynomial to five octets in a row leaves every checksum as it is. -/
theorem crc32c_zipWith_blindSpot (five : first.length = 5) (bytes rest : Bytes) :
    crc32c (bytes ++ first.zipWith (· ^^^ ·) blindSpot ++ rest) = crc32c (bytes ++ first ++ rest) := by
  have same : first.length = blindSpot.length := five
  have both := run_xor same (run 0xFFFFFFFF bytes) 0
  rw [run_blindSpot, UInt32.xor_zero, UInt32.xor_zero] at both
  rw [crc32c, crc32c, run_append, run_append, both, run_append, run_append]

end Kademlia.Checksum
