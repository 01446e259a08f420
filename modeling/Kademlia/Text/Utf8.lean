import Kademlia.Bytes

/-!
# Reading UTF-8

A byte string is read one octet at a time.  A character that was begun and
cannot go on is given up at the octet that breaks it, which is then read as the
beginning of the next one; so every maximal invalid part counts once.
-/

namespace Kademlia.Utf8

/-- A character in the course of being read: how many octets it still needs,
the range of the next one, and the value so far. -/
structure Pending where
  needed : Nat
  lower : Nat
  upper : Nat
  value : Nat
deriving DecidableEq

/-- What a first octet says: a whole character, an error (`none`), or the
beginning of a longer character. -/
def start (byte : UInt8) : Option Char ⊕ Pending :=
  let n := byte.toNat
  if n < 0x80 then .inl (some (Char.ofNat n))
  else if n < 0xC2 then .inl none
  else if n < 0xE0 then .inr ⟨1, 0x80, 0xBF, n - 0xC0⟩
  else if n = 0xE0 then .inr ⟨2, 0xA0, 0xBF, 0⟩
  else if n = 0xED then .inr ⟨2, 0x80, 0x9F, 0xD⟩
  else if n < 0xF0 then .inr ⟨2, 0x80, 0xBF, n - 0xE0⟩
  else if n = 0xF0 then .inr ⟨3, 0x90, 0xBF, 0⟩
  else if n < 0xF4 then .inr ⟨3, 0x80, 0xBF, n - 0xF0⟩
  else if n = 0xF4 then .inr ⟨3, 0x80, 0x8F, 4⟩
  else .inl none

/-- Reads on, in the middle of a character or between two; `none` stands for
an invalid part. -/
def decodeFrom : Option Pending → Bytes → List (Option Char)
  | none, [] => []
  | some _, [] => [none]
  | none, byte :: rest =>
      match start byte with
      | .inl c => c :: decodeFrom none rest
      | .inr pending => decodeFrom (some pending) rest
  | some pending, byte :: rest =>
      if pending.lower ≤ byte.toNat ∧ byte.toNat ≤ pending.upper then
        let value := pending.value * 64 + byte.toNat % 64
        if pending.needed = 1 then some (Char.ofNat value) :: decodeFrom none rest
        else decodeFrom (some ⟨pending.needed - 1, 0x80, 0xBF, value⟩) rest
      else
        none ::
          match start byte with
          | .inl c => c :: decodeFrom none rest
          | .inr pending => decodeFrom (some pending) rest

/-- The characters of a byte string, `none` for each maximal invalid part. -/
def decode (bytes : Bytes) : List (Option Char) :=
  decodeFrom none bytes

/-- Whether a byte string is UTF-8 throughout. -/
def isValid (bytes : Bytes) : Bool :=
  (decode bytes).all Option.isSome

/-- The text of a byte string, with a replacement character for each maximal
invalid part. -/
def decodeLossy (bytes : Bytes) : String :=
  String.ofList ((decode bytes).map (·.getD (Char.ofNat 0xFFFD)))

/-- The octets of a text. -/
def encode (text : String) : Bytes :=
  text.toList.flatMap String.utf8EncodeChar

@[simp]
theorem decode_nil : decode [] = [] :=
  rfl

end Kademlia.Utf8
