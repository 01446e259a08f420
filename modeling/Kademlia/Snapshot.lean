import Kademlia.Bencode.Record
import Kademlia.Bencode.Value
import Kademlia.Checksum
import Kademlia.Node

/-!
# State files

A stack keeps its id and the nodes it knows in a bencoded record with a
checksum.  A file is accepted whole or refused.
-/

namespace Kademlia

open Bencode

/-- The contents of a state file. -/
structure StateFile where
  version : Int64
  family : Int64
  id : Bytes
  nodes : Bytes
  savedAt : Int64
  checksum : Int64
deriving DecidableEq

/-- What is recovered from a state file. -/
structure Snapshot where
  localNode : Option LocalNode
  nodes : List Node
deriving DecidableEq

namespace StateFile

/-- The version of the format. -/
def currentVersion : Int64 :=
  3

/-- A number as eight octets, in two's complement. -/
def numberBytes (n : Int64) : Bytes :=
  Bytes.bigEndian 8 n.toUInt64.toNat

/-- What the checksum is taken of. -/
def payload (file : StateFile) : Bytes :=
  numberBytes file.version ++ numberBytes file.family ++ file.id ++ file.nodes ++
    numberBytes file.savedAt

/-- The checksum that a file should have. -/
def expectedChecksum (file : StateFile) : Int64 :=
  Int64.ofNat (Checksum.crc32c file.payload).toNat

/-! ## The record -/

/-- What a field of the record holds. -/
inductive Entry
  | int (value : Int64)
  | bytes (value : Bytes)
deriving DecidableEq

/-- The number in a field. -/
def Entry.int? : Entry → Option Int64
  | int value => some value
  | _ => none

/-- The byte string in a field. -/
def Entry.bytes? : Entry → Option Bytes
  | bytes value => some value
  | _ => none

/-- A field with a number. -/
def intField (name : String) : Record.Field Entry :=
  ⟨Utf8.encode name, true, fun tokens =>
    (Reader.int tokens).map fun (value, rest) => (.int value, rest)⟩

/-- A field with a byte string. -/
def bytesField (name : String) : Record.Field Entry :=
  ⟨Utf8.encode name, true, fun tokens =>
    (Reader.bytes tokens).map fun (value, rest) => (.bytes value, rest)⟩

/-- The fields of the record, in the order of its list form. -/
def fields : List (Record.Field Entry) :=
  [intField "v", intField "f", bytesField "id", bytesField "n", intField "t", intField "c"]

/-- The file at the front of a byte string. -/
def ofBytes? (input : Bytes) : Option StateFile := do
  let (entries, _) ← Record.read fields (Token.tokens input)
  let int (name : String) := (entries.lookup (Utf8.encode name)).bind Entry.int?
  let bytes (name : String) := (entries.lookup (Utf8.encode name)).bind Entry.bytes?
  let version ← int "v"
  let family ← int "f"
  let id ← bytes "id"
  let nodes ← bytes "n"
  let savedAt ← int "t"
  let checksum ← int "c"
  pure { version, family, id, nodes, savedAt, checksum }

/-- The file as a dictionary, its keys in ascending order. -/
def toValue (file : StateFile) : Value :=
  .dict
    [(Utf8.encode "c", .int file.checksum), (Utf8.encode "f", .int file.family),
      (Utf8.encode "id", .bytes file.id), (Utf8.encode "n", .bytes file.nodes),
      (Utf8.encode "t", .int file.savedAt), (Utf8.encode "v", .int file.version)]

/-- The bytes of a file. -/
def encode (file : StateFile) : Bytes :=
  file.toValue.encode

/-! ## Loading and saving -/

/-- A file with the checksum it should have. -/
def sealed (file : StateFile) : StateFile :=
  { file with checksum := file.expectedChecksum }

/-- The file that keeps an id and those of some nodes that are of the family. -/
def ofNodes (family : Family) (id : Id) (nodes : List Node) (savedAt : Int64) : StateFile :=
  sealed
    { version := currentVersion
      family := Int64.ofInt family.code
      id := id.bytes
      nodes := Node.compactList (nodes.filter (·.family = family))
      savedAt
      checksum := 0 }

/-- What a file holds, if it is valid for a family. -/
def snapshot (family : Family) (file : StateFile) : Except Error Snapshot := do
  if file.version ≠ currentVersion then throw (.stateFile .version)
  if file.family ≠ Int64.ofInt family.code then throw (.stateFile .family)
  if file.checksum ≠ file.expectedChecksum then throw (.stateFile .checksum)
  let localNode ← if file.id = [] then pure none else some <$> Id.ofBytes file.id
  let nodes ← Node.ofCompactList family file.nodes
  pure ⟨localNode.map (⟨·, 0⟩), nodes⟩

end StateFile

namespace Snapshot

/-- Nothing known yet. -/
def empty : Snapshot :=
  ⟨none, []⟩

/-- Reads the bytes of a state file of a family. -/
def load (family : Family) (input : Bytes) : Except Error Snapshot :=
  match StateFile.ofBytes? input with
  | some file => file.snapshot family
  | none => .error .malformed

/-- The whole seconds of a wall clock in milliseconds, none before its start. -/
def seconds (wallClock : Int) : Int64 :=
  Int64.ofInt (max 0 wallClock / 1000)

/-- The bytes of the state file of a family, written at a time. -/
def save (family : Family) (localNode : LocalNode) (nodes : List Node) (wallClock : Int) : Bytes :=
  (StateFile.ofNodes family localNode.id nodes (seconds wallClock)).encode

end Snapshot

end Kademlia
