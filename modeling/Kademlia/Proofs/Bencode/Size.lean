import Kademlia.Bencode.Value
import Mathlib.Algebra.Group.Nat.Defs

/-!
# How long bencoded values are

A byte string is written behind its length, in as many digits as that has; lists and
dictionaries add two octets to what they are made of.
-/

namespace Kademlia.Bencode

/-- A number has no more digits than the power of ten that it is below. -/
theorem Token.length_decimal_le {digits n : Nat} (small : n < 10 ^ (digits + 1)) :
    (decimal n).length ≤ digits + 1 := by
  induction digits generalizing n with
  | zero =>
    rw [decimal, if_pos (by simpa using small)]
    exact Nat.le_refl 1
  | succ digits ih =>
    rw [decimal]
    split
    · exact Nat.le_add_left 1 _
    · have shorter : n / 10 < 10 ^ (digits + 1) := by
        rw [Nat.div_lt_iff_lt_mul (by decide), ← Nat.pow_succ]
        exact small
      rw [List.length_append, List.length_singleton]
      exact Nat.succ_le_succ (ih shorter)

/-- How many octets the entries of a dictionary are written in. -/
def extent : List (Bytes × Value) → Nat
  | [] => 0
  | (name, value) :: entries =>
      (Value.bytes name).encode.length + value.encode.length + extent entries

namespace Value

theorem encode_bytes (value : Bytes) :
    (bytes value).encode = Token.decimal value.length ++ 0x3A :: value := by
  simp [encode, tokens, Token.encode]

theorem encode_list (items : List Value) :
    (list items).encode = 0x6C :: (items.flatMap encode ++ [0x65]) := by
  have inside : (itemTokens items).flatMap Token.encode = items.flatMap encode := by
    induction items with
    | nil => rfl
    | cons item items ih =>
      rw [itemTokens, List.flatMap_append, ih]
      rfl
  simp [encode, tokens, Token.encode, inside]

theorem encode_dict (entries : List (Bytes × Value)) :
    (dict entries).encode =
      0x64 :: (entries.flatMap (fun entry => (bytes entry.1).encode ++ entry.2.encode) ++
        [0x65]) := by
  have inside : (entryTokens entries).flatMap Token.encode =
      entries.flatMap fun entry => (bytes entry.1).encode ++ entry.2.encode := by
    induction entries with
    | nil => rfl
    | cons entry entries ih =>
      obtain ⟨key, value⟩ := entry
      rw [entryTokens, List.flatMap_cons, List.flatMap_append, ih, List.flatMap_cons, encode_bytes,
        List.append_assoc]
      rfl
  simp [encode, tokens, Token.encode, inside]

/-- A dictionary is told by its first octet. -/
theorem head?_encode_dict (entries : List (Bytes × Value)) :
    (dict entries).encode.head? = some 0x64 := by
  rw [encode_dict]
  rfl

/-- A byte string of fewer than a thousand octets has up to four more when it is
written. -/
theorem length_encode_bytes_le {value : Bytes} {bound : Nat} (short : value.length ≤ bound)
    (small : bound < 1000) : (bytes value).encode.length ≤ bound + 4 := by
  have digits : (Token.decimal value.length).length ≤ 3 :=
    Token.length_decimal_le (Nat.lt_of_le_of_lt short small)
  rw [encode_bytes, List.length_append, List.length_cons]
  omega

theorem length_encode_dict (entries : List (Bytes × Value)) :
    (dict entries).encode.length = extent entries + 2 := by
  have inside : (entries.flatMap fun entry =>
      (bytes entry.1).encode ++ entry.2.encode).length = extent entries := by
    induction entries with
    | nil => rfl
    | cons entry entries ih =>
      rw [List.flatMap_cons, List.length_append, List.length_append, ih]
      rfl
  rw [encode_dict, List.length_cons, List.length_append, inside, List.length_singleton]

/-- A list is as long as its items, each within a bound. -/
theorem length_encode_list_le {items : List Value} {bound : Nat}
    (each : ∀ item ∈ items, item.encode.length ≤ bound) :
    (list items).encode.length ≤ items.length * bound + 2 := by
  have within : (items.flatMap encode).length ≤ items.length * bound := by
    induction items with
    | nil => exact Nat.zero_le _
    | cons item items ih =>
      have first := each item List.mem_cons_self
      have others := ih fun other mem => each other (List.mem_cons_of_mem item mem)
      rw [List.flatMap_cons, List.length_append, List.length_cons, Nat.succ_mul]
      omega
  rw [encode_list, List.length_cons, List.length_append, List.length_singleton]
  omega

end Value

end Kademlia.Bencode
