import Kademlia.Bytes

/-!
# Bencode tokens

Bencode is a flat sequence of numbers, byte strings, and marks that open a list
or a dictionary or close either.  A byte string is cut into the tokens it begins
with, up to the first octet that begins none.  Numbers may be written with a
sign and with zeros in front; they are written back in the least digits.
-/

namespace Kademlia.Bencode

/-- A piece of bencode. -/
inductive Token
  | int (n : Int64)
  | bytes (value : Bytes)
  | list
  | dict
  | close
deriving DecidableEq

namespace Token

/-! ## Digits -/

/-- Whether an octet is a decimal digit. -/
def isDigit (byte : UInt8) : Bool :=
  0x30 ≤ byte && byte ≤ 0x39

/-- The number a run of digits spells. -/
def digitsValue (digits : Bytes) : Nat :=
  digits.foldl (fun n byte => n * 10 + (byte.toNat - 0x30)) 0

/-- The decimal digits of a number. -/
def decimal (n : Nat) : Bytes :=
  if n < 10 then [UInt8.ofNat (0x30 + n)] else decimal (n / 10) ++ [UInt8.ofNat (0x30 + n % 10)]

/-! ## Writing -/

/-- The bytes of a token. -/
def encode : Token → Bytes
  | int n =>
      let sign : Bytes := if n.toInt < 0 then [0x2D] else []
      0x69 :: (sign ++ decimal n.toInt.natAbs ++ [0x65])
  | bytes value => decimal value.length ++ 0x3A :: value
  | list => [0x6C]
  | dict => [0x64]
  | close => [0x65]

/-! ## Reading -/

/-- The 64-bit number with this value, if there is one. -/
def int64? (n : Int) : Option Int64 :=
  if Int64.minValue.toInt ≤ n ∧ n ≤ Int64.maxValue.toInt then some (Int64.ofInt n) else none

/-- Reads digits up to a closing `e`, as a number of the given sign. -/
def readDigits? (sign : Int) (input : Bytes) : Option (Token × Bytes) :=
  match input.takeWhile isDigit, input.dropWhile isDigit with
  | first :: digits, 0x65 :: rest =>
      (int64? (sign * digitsValue (first :: digits))).map fun n => (int n, rest)
  | _, _ => none

/-- Reads a number after its `i`: an optional sign, then digits, then `e`. -/
def readInt? : Bytes → Option (Token × Bytes)
  | 0x2B :: rest => readDigits? 1 rest
  | 0x2D :: rest => readDigits? (-1) rest
  | input => readDigits? 1 input

/-- The token of a byte string, when there are as many octets as it needs. -/
def take? (length : Nat) (input : Bytes) : Option (Token × Bytes) :=
  if length ≤ input.length then some (bytes (input.take length), input.drop length) else none

/-- Reads a byte string: its length, a colon, and that many octets. -/
def readBytes? (input : Bytes) : Option (Token × Bytes) :=
  match input.takeWhile isDigit, input.dropWhile isDigit with
  | first :: digits, 0x3A :: rest => take? (digitsValue (first :: digits)) rest
  | _, _ => none

/-- Reads the token at the front of a byte string. -/
def next? : Bytes → Option (Token × Bytes)
  | [] => none
  | 0x69 :: rest => readInt? rest
  | 0x6C :: rest => some (list, rest)
  | 0x64 :: rest => some (dict, rest)
  | 0x65 :: rest => some (close, rest)
  | input => readBytes? input

/-- The octet a number stands for, when it is one. -/
def octet? : Token → Option UInt8
  | int n => if 0 ≤ n.toInt ∧ n.toInt ≤ 255 then some (UInt8.ofNat n.toInt.toNat) else none
  | _ => none

theorem length_dropWhile_le (p : UInt8 → Bool) (input : Bytes) :
    (input.dropWhile p).length ≤ input.length :=
  (List.dropWhile_sublist p).length_le

theorem length_lt_of_readDigits? {sign : Int} {input rest : Bytes} {token : Token}
    (read : readDigits? sign input = some (token, rest)) : rest.length < input.length := by
  have shorter := length_dropWhile_le isDigit input
  unfold readDigits? at read
  split at read
  · rename_i here
    obtain ⟨n, -, equal⟩ := Option.map_eq_some_iff.1 read
    cases equal
    rw [here] at shorter
    exact shorter
  · simp at read

theorem length_lt_of_readInt? {input rest : Bytes} {token : Token}
    (read : readInt? input = some (token, rest)) : rest.length < input.length := by
  unfold readInt? at read
  split at read
  · exact Nat.lt_succ_of_lt (length_lt_of_readDigits? read)
  · exact Nat.lt_succ_of_lt (length_lt_of_readDigits? read)
  · exact length_lt_of_readDigits? read

theorem length_lt_of_readBytes? {input rest : Bytes} {token : Token}
    (read : readBytes? input = some (token, rest)) : rest.length < input.length := by
  have shorter := length_dropWhile_le isDigit input
  unfold readBytes? at read
  split at read
  · rename_i here
    rw [here] at shorter
    unfold take? at read
    split at read
    · cases read
      simp only [List.length_cons, List.length_drop] at shorter ⊢
      omega
    · simp at read
  · simp at read

/-- A token takes at least one octet. -/
theorem length_lt_of_next? {input rest : Bytes} {token : Token}
    (read : next? input = some (token, rest)) : rest.length < input.length := by
  unfold next? at read
  split at read
  · simp at read
  · exact Nat.lt_succ_of_lt (length_lt_of_readInt? read)
  · cases read; simp
  · cases read; simp
  · cases read; simp
  · exact length_lt_of_readBytes? read

/-- The tokens a byte string begins with. -/
def tokens (input : Bytes) : List Token :=
  match h : next? input with
  | none => []
  | some (token, rest) =>
      have := length_lt_of_next? h
      token :: tokens rest
termination_by input.length

theorem tokens_of_next? {input rest : Bytes} {token : Token}
    (read : next? input = some (token, rest)) : tokens input = token :: tokens rest := by
  rw [tokens]
  split
  · rename_i none_here
    rw [read] at none_here
    cases none_here
  · rename_i some_here
    rw [read] at some_here
    cases some_here
    rfl

theorem tokens_of_next?_eq_none {input : Bytes} (read : next? input = none) :
    tokens input = [] := by
  rw [tokens]
  split
  · rfl
  · rename_i some_here
    rw [read] at some_here
    cases some_here

end Token

end Kademlia.Bencode
