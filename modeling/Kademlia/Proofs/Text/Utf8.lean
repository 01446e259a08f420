import Kademlia.Text.Utf8

/-!
# UTF-8 is read as it is written

Every character is read back from its octets, so a text is recovered from its
encoding, which is valid throughout and determines the text.
-/

namespace Kademlia.Utf8

/-! ## The octets of one character -/

private theorem toNat_ofNat_of_lt {n : Nat} (small : n < 256) : (UInt8.ofNat n).toNat = n := by
  rw [UInt8.toNat_ofNat']
  exact Nat.mod_eq_of_lt small

theorem decodeFrom_none_cons {byte : UInt8} {pending : Pending} (begun : start byte = .inr pending)
    (rest : Bytes) : decodeFrom none (byte :: rest) = decodeFrom (some pending) rest := by
  rw [decodeFrom, begun]

section Continuation

variable {lower upper value low : Nat}

/-- The last octet of a character gives its low six bits. -/
theorem decodeFrom_last (small : low < 64) (above : lower ≤ low + 0x80)
    (below : low + 0x80 ≤ upper) (rest : Bytes) :
    decodeFrom (some ⟨1, lower, upper, value⟩) (UInt8.ofNat (low + 0x80) :: rest) =
      some (Char.ofNat (value * 64 + low)) :: decodeFrom none rest := by
  have octet : (UInt8.ofNat (low + 0x80)).toNat = low + 0x80 := toNat_ofNat_of_lt (by omega)
  have bits : (low + 0x80) % 64 = low := by omega
  rw [decodeFrom]
  simp only [octet, bits, above, below, and_self, if_true]

/-- An octet in the middle of a character adds six bits to its value. -/
theorem decodeFrom_middle {needed : Nat} (small : low < 64) (above : lower ≤ low + 0x80)
    (below : low + 0x80 ≤ upper) (rest : Bytes) :
    decodeFrom (some ⟨needed + 2, lower, upper, value⟩) (UInt8.ofNat (low + 0x80) :: rest) =
      decodeFrom (some ⟨needed + 1, 0x80, 0xBF, value * 64 + low⟩) rest := by
  have octet : (UInt8.ofNat (low + 0x80)).toNat = low + 0x80 := toNat_ofNat_of_lt (by omega)
  have bits : (low + 0x80) % 64 = low := by omega
  have more : ¬needed + 2 = 1 := by omega
  rw [decodeFrom]
  simp only [octet, bits, above, below, more, and_self, if_true, if_false]
  rfl

end Continuation

/-- The first octet of a character of two. -/
theorem start_of_two {high : Nat} (lower : 2 ≤ high) (upper : high < 32) :
    start (UInt8.ofNat (high + 0xC0)) = .inr ⟨1, 0x80, 0xBF, high⟩ := by
  have octet : (UInt8.ofNat (high + 0xC0)).toNat = high + 0xC0 := toNat_ofNat_of_lt (by omega)
  simp only [start, octet]
  rw [if_neg (by omega), if_neg (by omega), if_pos (by omega), Nat.add_sub_cancel]

/-- The first octet of a character of three; what may follow excludes overlong
forms and surrogates. -/
theorem start_of_three {high : Nat} (upper : high < 16) :
    start (UInt8.ofNat (high + 0xE0)) =
      .inr ⟨2, if high = 0 then 0xA0 else 0x80, if high = 0xD then 0x9F else 0xBF, high⟩ := by
  have octet : (UInt8.ofNat (high + 0xE0)).toNat = high + 0xE0 := toNat_ofNat_of_lt (by omega)
  simp only [start, octet]
  rw [if_neg (by omega), if_neg (by omega), if_neg (by omega)]
  by_cases first : high = 0
  · subst first
    rfl
  · rw [if_neg (by omega), if_neg first]
    by_cases surrogate : high = 0xD
    · subst surrogate
      rfl
    · rw [if_neg (by omega), if_pos (by omega), if_neg surrogate, Nat.add_sub_cancel]

/-- The first octet of a character of four; what may follow excludes overlong
forms and values beyond the last character. -/
theorem start_of_four {high : Nat} (upper : high ≤ 4) :
    start (UInt8.ofNat (high + 0xF0)) =
      .inr ⟨3, if high = 0 then 0x90 else 0x80, if high = 4 then 0x8F else 0xBF, high⟩ := by
  have octet : (UInt8.ofNat (high + 0xF0)).toNat = high + 0xF0 := toNat_ofNat_of_lt (by omega)
  simp only [start, octet]
  rw [if_neg (by omega), if_neg (by omega), if_neg (by omega), if_neg (by omega),
    if_neg (by omega), if_neg (by omega)]
  by_cases first : high = 0
  · subst first
    rfl
  · rw [if_neg (by omega), if_neg first]
    by_cases last : high = 4
    · subst last
      rfl
    · rw [if_pos (by omega), if_neg last, Nat.add_sub_cancel]

/-- A character is read from its octets, whatever follows them. -/
theorem decodeFrom_utf8EncodeChar (c : Char) (rest : Bytes) :
    decodeFrom none (String.utf8EncodeChar c ++ rest) = some c :: decodeFrom none rest := by
  have scalar : c.toNat < 0xD800 ∨ 0xDFFF < c.toNat ∧ c.toNat < 0x110000 := c.valid
  have value : Char.ofNat c.toNat = c := Char.ofNat_toNat c
  simp only [String.utf8EncodeChar, show c.val.toNat = c.toNat from rfl]
  generalize c.toNat = n at scalar value
  by_cases one : n ≤ 0x7F
  · have octet : (UInt8.ofNat n).toNat = n := toNat_ofNat_of_lt (by omega)
    simp [one, decodeFrom, start, octet, value, show n < 128 by omega]
  by_cases two : n ≤ 0x7FF
  · rw [if_neg one, if_pos two]
    simp only [List.cons_append, List.nil_append]
    rw [decodeFrom_none_cons (start_of_two (by omega) (by omega)),
      decodeFrom_last (by omega) (by omega) (by omega)]
    rw [show n / 64 % 32 * 64 + n % 64 = n by omega, value]
  by_cases three : n ≤ 0xFFFF
  · rw [if_neg one, if_neg two, if_pos three]
    simp only [List.cons_append, List.nil_append]
    rw [decodeFrom_none_cons (start_of_three (by omega)),
      decodeFrom_middle (by omega) (by split <;> omega) (by split <;> omega),
      decodeFrom_last (by omega) (by omega) (by omega)]
    rw [show (n / 4096 % 16 * 64 + n / 64 % 64) * 64 + n % 64 = n by omega, value]
  · rw [if_neg one, if_neg two, if_neg three]
    simp only [List.cons_append, List.nil_append]
    rw [decodeFrom_none_cons (start_of_four (by omega)),
      decodeFrom_middle (by omega) (by split <;> omega) (by split <;> omega),
      decodeFrom_middle (by omega) (by omega) (by omega),
      decodeFrom_last (by omega) (by omega) (by omega)]
    rw [show ((n / 262144 % 8 * 64 + n / 4096 % 64) * 64 + n / 64 % 64) * 64 + n % 64 = n by
      omega, value]

/-! ## Texts -/

/-- The encoding of a text is read as its characters. -/
theorem decode_encode (text : String) : decode (encode text) = text.toList.map some := by
  unfold decode encode
  generalize text.toList = characters
  induction characters with
  | nil => rfl
  | cons c characters ih =>
    rw [List.flatMap_cons, decodeFrom_utf8EncodeChar, ih, List.map_cons]

@[simp]
theorem isValid_encode (text : String) : isValid (encode text) = true := by
  simp [isValid, decode_encode]

@[simp]
theorem decodeLossy_encode (text : String) : decodeLossy (encode text) = text := by
  simp [decodeLossy, decode_encode, Function.comp_def]

/-- Different texts have different encodings. -/
@[simp]
theorem encode_inj {a b : String} : encode a = encode b ↔ a = b := by
  constructor
  · intro equal
    rw [← decodeLossy_encode a, equal, decodeLossy_encode]
  · rintro rfl
    rfl

end Kademlia.Utf8
