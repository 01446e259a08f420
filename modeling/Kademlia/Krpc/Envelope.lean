import Kademlia.Bencode.Record

/-!
# KRPC messages as records

On the wire a message is a record whose arguments or values are a record in
turn, one for all methods.  Every field is read for its type alone; which fields
a message needs is decided afterwards.
-/

namespace Kademlia.Krpc

open Bencode

/-- A key of a record. -/
def key (name : String) : Bytes :=
  Utf8.encode name

/-- What a field of the arguments holds. -/
inductive Argument
  | bytes (value : Bytes)
  | number (value : Nat)
  | strings (values : List Bytes)
deriving DecidableEq

namespace Argument

/-- The byte string in a field. -/
def bytes? : Argument → Option Bytes
  | bytes value => some value
  | _ => none

/-- The number in a field. -/
def number? : Argument → Option Nat
  | number value => some value
  | _ => none

/-- The list of byte strings in a field. -/
def strings? : Argument → Option (List Bytes)
  | strings values => some values
  | _ => none

/-- A reader, its value taken as an argument. -/
def reader {α : Type} (read : Reader α) (make : α → Argument) : Reader Argument := fun tokens =>
  (read tokens).map fun (value, rest) => (make value, rest)

/-- The fields of arguments and of values, in the order of their list form. -/
def fields : List (Record.Field Argument) :=
  [⟨key "id", true, reader Reader.bytes bytes⟩,
    ⟨key "target", false, reader Reader.bytes bytes⟩,
    ⟨key "info_hash", false, reader Reader.bytes bytes⟩,
    ⟨key "token", false, reader Reader.bytes bytes⟩,
    ⟨key "port", false, reader (Reader.natUpTo 65535) number⟩,
    ⟨key "implied_port", false, reader (Reader.natUpTo 255) number⟩,
    ⟨key "nodes", false, reader Reader.bytes bytes⟩,
    ⟨key "nodes6", false, reader Reader.bytes bytes⟩,
    ⟨key "values", false, reader (Reader.list Reader.bytes) strings⟩]

end Argument

/-- The arguments of a query, or the values of a response. -/
structure Arguments where
  id : Bytes
  target : Option Bytes
  infoHash : Option Bytes
  token : Option Bytes
  port : Option Nat
  impliedPort : Option Nat
  nodes : Option Bytes
  nodes6 : Option Bytes
  values : Option (List Bytes)
deriving DecidableEq

/-- The arguments that a list of fields spells. -/
def Arguments.ofEntries (entries : List (Bytes × Argument)) : Option Arguments := do
  let bytes (name : String) := (entries.lookup (key name)).bind Argument.bytes?
  let number (name : String) := (entries.lookup (key name)).bind Argument.number?
  let id ← bytes "id"
  pure
    { id
      target := bytes "target"
      infoHash := bytes "info_hash"
      token := bytes "token"
      port := number "port"
      impliedPort := number "implied_port"
      nodes := bytes "nodes"
      nodes6 := bytes "nodes6"
      values := (entries.lookup (key "values")).bind Argument.strings? }

/-- Reads arguments. -/
def Arguments.read : Reader Arguments := fun tokens => do
  let (entries, rest) ← Record.read Argument.fields tokens
  let arguments ← Arguments.ofEntries entries
  pure (arguments, rest)

/-- What a field of a message holds. -/
inductive Part
  | bytes (value : Bytes)
  | arguments (value : Arguments)
  | items (values : List Reader.Item)
deriving DecidableEq

namespace Part

/-- The byte string in a field. -/
def bytes? : Part → Option Bytes
  | bytes value => some value
  | _ => none

/-- The arguments in a field. -/
def arguments? : Part → Option Arguments
  | arguments value => some value
  | _ => none

/-- The list in a field. -/
def items? : Part → Option (List Reader.Item)
  | items values => some values
  | _ => none

/-- A reader, its value taken as a part of a message. -/
def reader {α : Type} (read : Reader α) (make : α → Part) : Reader Part := fun tokens =>
  (read tokens).map fun (value, rest) => (make value, rest)

/-- The fields of a message, in the order of their list form. -/
def fields : List (Record.Field Part) :=
  [⟨key "t", true, reader Reader.bytes bytes⟩,
    ⟨key "y", true, reader Reader.text bytes⟩,
    ⟨key "q", false, reader Reader.text bytes⟩,
    ⟨key "a", false, reader Arguments.read arguments⟩,
    ⟨key "r", false, reader Arguments.read arguments⟩,
    ⟨key "e", false, reader (Reader.list Reader.item) items⟩,
    ⟨key "v", false, reader Reader.bytes bytes⟩]

end Part

/-- A message as it is on the wire, but for the client version it carries. -/
structure Envelope where
  transactionId : Bytes
  type : Bytes
  method : Option Bytes
  arguments : Option Arguments
  values : Option Arguments
  error : Option (List Reader.Item)
deriving DecidableEq

/-- The message that a list of fields spells. -/
def Envelope.ofEntries (entries : List (Bytes × Part)) : Option Envelope := do
  let part (name : String) := entries.lookup (key name)
  let transactionId ← (part "t").bind Part.bytes?
  let type ← (part "y").bind Part.bytes?
  pure
    { transactionId, type
      method := (part "q").bind Part.bytes?
      arguments := (part "a").bind Part.arguments?
      values := (part "r").bind Part.arguments?
      error := (part "e").bind Part.items? }

/-- Reads a message off the front of a byte string. -/
def Envelope.ofBytes? (input : Bytes) : Option Envelope := do
  let (entries, _) ← Record.read Part.fields (Token.tokens input)
  Envelope.ofEntries entries

end Kademlia.Krpc
