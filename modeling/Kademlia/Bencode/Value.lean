import Kademlia.Bencode.Token

/-!
# Bencode values

What a well-formed token sequence stands for: numbers, byte strings, lists, and
dictionaries as entries in the order written.
-/

namespace Kademlia.Bencode

/-- A bencoded value. -/
inductive Value
  | int (n : Int64)
  | bytes (value : Bytes)
  | list (items : List Value)
  | dict (entries : List (Bytes × Value))

namespace Value

mutual

/-- The tokens of a value. -/
def tokens : Value → List Token
  | int n => [.int n]
  | bytes value => [.bytes value]
  | list items => .list :: (itemTokens items ++ [.close])
  | dict entries => .dict :: (entryTokens entries ++ [.close])

/-- The tokens of the items of a list. -/
def itemTokens : List Value → List Token
  | [] => []
  | item :: items => item.tokens ++ itemTokens items

/-- The tokens of the entries of a dictionary: each key before its value. -/
def entryTokens : List (Bytes × Value) → List Token
  | [] => []
  | (key, value) :: entries => .bytes key :: (value.tokens ++ entryTokens entries)

end

/-- The bytes of a value. -/
def encode (value : Value) : Bytes :=
  value.tokens.flatMap Token.encode

/-- A dictionary of those entries that are present. -/
def ofFields (fields : List (Bytes × Option Value)) : Value :=
  dict (fields.filterMap fun (key, value?) => value?.map fun value => (key, value))

end Value

end Kademlia.Bencode
