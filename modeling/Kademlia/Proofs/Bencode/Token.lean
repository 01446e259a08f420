import Kademlia.Bencode.Token

/-!
# Tokens are read as they are written

Every token is recovered from its bytes, whatever follows them.  Hence a
sequence of tokens is recovered from its bytes, and so are the tokens of what
comes after it.
-/

namespace Kademlia.Bencode.Token

/-! ## Decimal digits -/

private theorem digit_of_lt_ten {n : Nat} (small : n < 10) :
    isDigit (UInt8.ofNat (0x30 + n)) = true ∧ (UInt8.ofNat (0x30 + n)).toNat - 0x30 = n := by
  have octet : (UInt8.ofNat (0x30 + n)).toNat = 0x30 + n := by
    rw [UInt8.toNat_ofNat']
    omega
  constructor
  · simp only [isDigit, Bool.and_eq_true, decide_eq_true_eq, UInt8.le_iff_toNat_le, octet]
    exact ⟨Nat.le_add_right _ _, by simp; omega⟩
  · omega

theorem isDigit_of_mem_decimal {n : Nat} : ∀ byte ∈ decimal n, isDigit byte = true := by
  induction n using decimal.induct with
  | case1 n small =>
    intro byte mem
    rw [decimal, if_pos small, List.mem_singleton] at mem
    exact mem ▸ (digit_of_lt_ten small).1
  | case2 n large ih =>
    intro byte mem
    rw [decimal, if_neg large, List.mem_append, List.mem_singleton] at mem
    rcases mem with mem | last
    · exact ih byte mem
    · exact last ▸ (digit_of_lt_ten (Nat.mod_lt n (by decide))).1

theorem decimal_ne_nil (n : Nat) : decimal n ≠ [] := by
  rw [decimal]
  split <;> simp

/-- The digits of a number spell it. -/
theorem digitsValue_decimal (n : Nat) : digitsValue (decimal n) = n := by
  induction n using decimal.induct with
  | case1 n small =>
    rw [decimal, if_pos small]
    simpa [digitsValue] using (digit_of_lt_ten small).2
  | case2 n large ih =>
    have last := (digit_of_lt_ten (Nat.mod_lt n (by decide : 0 < 10))).2
    rw [decimal, if_neg large, digitsValue, List.foldl_append]
    change digitsValue (decimal (n / 10)) * 10 + _ = n
    rw [ih, last]
    omega

/-- What is read up to the first octet that is no digit. -/
theorem span_decimal (n : Nat) {stop : UInt8} (noDigit : isDigit stop = false) (rest : Bytes) :
    (decimal n ++ stop :: rest).takeWhile isDigit = decimal n ∧
      (decimal n ++ stop :: rest).dropWhile isDigit = stop :: rest := by
  constructor
  · rw [List.takeWhile_append_of_pos isDigit_of_mem_decimal, List.takeWhile_cons, noDigit]
    simp
  · rw [List.dropWhile_append_of_pos isDigit_of_mem_decimal, List.dropWhile_cons, noDigit]
    simp

/-- The first digit is none of the octets that begin the other tokens, or a sign. -/
theorem exists_decimal_eq_cons (n : Nat) :
    ∃ first digits, decimal n = first :: digits ∧ isDigit first = true := by
  cases equal : decimal n with
  | nil => exact absurd equal (decimal_ne_nil n)
  | cons first digits =>
    exact ⟨first, digits, rfl, isDigit_of_mem_decimal first (equal ▸ List.mem_cons_self)⟩

/-! ## Numbers -/

theorem int64?_toInt (n : Int64) : int64? n.toInt = some n := by
  rw [int64?, if_pos ⟨Int64.minValue_le_toInt n, Int64.toInt_le n⟩, Int64.ofInt_toInt]

theorem readDigits?_decimal {sign : Int} {n : Int64} (value : sign * n.toInt.natAbs = n.toInt)
    (rest : Bytes) :
    readDigits? sign (decimal n.toInt.natAbs ++ 0x65 :: rest) = some (int n, rest) := by
  obtain ⟨first, digits, equal, -⟩ := exists_decimal_eq_cons n.toInt.natAbs
  have noDigit : isDigit 0x65 = false := by decide
  obtain ⟨taken, dropped⟩ := span_decimal n.toInt.natAbs noDigit rest
  rw [readDigits?, taken, dropped, equal]
  simp only
  rw [← equal, digitsValue_decimal, value, int64?_toInt, Option.map_some]

/-- A number is read from its digits and its sign. -/
theorem next?_encode_int (n : Int64) (rest : Bytes) :
    next? ((int n).encode ++ rest) = some (int n, rest) := by
  by_cases negative : n.toInt < 0
  · have value : (-1) * (n.toInt.natAbs : Int) = n.toInt := by omega
    simpa [encode, negative, next?, readInt?] using readDigits?_decimal value rest
  · have value : 1 * (n.toInt.natAbs : Int) = n.toInt := by omega
    have read := readDigits?_decimal value rest
    obtain ⟨first, digits, equal, digit⟩ := exists_decimal_eq_cons n.toInt.natAbs
    rw [equal] at read
    have unsigned : readInt? (first :: (digits ++ 0x65 :: rest)) =
        readDigits? 1 (first :: (digits ++ 0x65 :: rest)) := by
      unfold readInt?
      split
      · rename_i plus
        cases plus
        exact absurd digit (by decide)
      · rename_i minus
        cases minus
        exact absurd digit (by decide)
      · rfl
    simpa [encode, negative, next?, equal, unsigned] using read

/-! ## Byte strings -/

theorem take?_append (value rest : Bytes) :
    take? value.length (value ++ rest) = some (bytes value, rest) := by
  simp [take?]

/-- A byte string is read from its length and its octets. -/
theorem next?_encode_bytes (value rest : Bytes) :
    next? ((bytes value).encode ++ rest) = some (bytes value, rest) := by
  obtain ⟨first, digits, equal, digit⟩ := exists_decimal_eq_cons value.length
  have noDigit : isDigit 0x3A = false := by decide
  obtain ⟨taken, dropped⟩ := span_decimal value.length noDigit (value ++ rest)
  have read : readBytes? (decimal value.length ++ 0x3A :: (value ++ rest)) =
      some (bytes value, rest) := by
    rw [readBytes?, taken, dropped, equal]
    simp only
    rw [← equal, digitsValue_decimal, take?_append]
  rw [encode, List.append_assoc, List.cons_append, equal, List.cons_append]
  rw [equal, List.cons_append] at read
  unfold next?
  split
  · contradiction
  · rename_i number
    cases number
    exact absurd digit (by decide)
  · rename_i opening
    cases opening
    exact absurd digit (by decide)
  · rename_i opening
    cases opening
    exact absurd digit (by decide)
  · rename_i closing
    cases closing
    exact absurd digit (by decide)
  · exact read

/-! ## Tokens -/

/-- A token is read from its bytes, whatever follows them. -/
theorem next?_encode (token : Token) (rest : Bytes) :
    next? (token.encode ++ rest) = some (token, rest) := by
  cases token with
  | int n => exact next?_encode_int n rest
  | bytes value => exact next?_encode_bytes value rest
  | list => rfl
  | dict => rfl
  | close => rfl

/-- A token sequence is read from its bytes, before the tokens of what follows. -/
theorem tokens_flatMap_encode_append (sequence : List Token) (rest : Bytes) :
    tokens (sequence.flatMap encode ++ rest) = sequence ++ tokens rest := by
  induction sequence with
  | nil => rfl
  | cons token sequence ih =>
    rw [List.flatMap_cons, List.append_assoc, tokens_of_next? (next?_encode token _), ih,
      List.cons_append]

theorem tokens_nil : tokens [] = [] :=
  tokens_of_next?_eq_none rfl

theorem tokens_flatMap_encode (sequence : List Token) :
    tokens (sequence.flatMap encode) = sequence := by
  have read := tokens_flatMap_encode_append sequence []
  rwa [tokens_nil, List.append_nil, List.append_nil] at read

end Kademlia.Bencode.Token
