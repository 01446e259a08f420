import Kademlia.Bencode.Reader

/-!
# Records

A record is written as a dictionary, with its fields in any order and among
entries that mean nothing to the reader, or as a list with its fields in a fixed
order.  In the list form a closing mark stands for an absent field, and the mark
that closes the list itself is left unread.
-/

namespace Kademlia.Bencode

namespace Record

/-- A field of a record: its key, whether it has to be there, and how it is read. -/
structure Field (α : Type) where
  key : Bytes
  required : Bool
  read : Reader α

variable {α : Type}

/-- Reads an entry of a dictionary; one that is no field gives nothing. -/
def entry (fields : List (Field α)) : Reader (Option (Bytes × α))
  | .bytes key :: rest =>
      if Utf8.isValid key then
        match fields.find? (·.key = key) with
        | some field => (field.read rest).map fun (value, rest) => (some (key, value), rest)
        | none => (Reader.skip false rest).map fun rest => (none, rest)
      else none
  | _ => none

/-- Whether no field occurs twice and none that has to be there is missing. -/
def complete (fields : List (Field α)) (entries : List (Bytes × α)) : Bool :=
  (entries.map Prod.fst).Nodup ∧
    ∀ field ∈ fields, field.required = true → field.key ∈ entries.map Prod.fst

/-- Reads the fields in order, as far as the last one. -/
def positional : List (Field α) → Reader (List (Bytes × α))
  | [], tokens => some ([], tokens)
  | field :: fields, .close :: rest => if field.required then none else positional fields rest
  | field :: fields, tokens => do
      let (value, rest) ← field.read tokens
      let (entries, rest) ← positional fields rest
      pure ((field.key, value) :: entries, rest)

/-- Reads a record in either form, as the entries that are fields. -/
def read (fields : List (Field α)) : Reader (List (Bytes × α))
  | .list :: rest => positional fields rest
  | .dict :: rest => do
      let (entries, rest) ← Reader.untilClose (entry fields) rest
      let entries := entries.filterMap id
      if complete fields entries then pure (entries, rest) else none
  | _ => none

end Record

end Kademlia.Bencode
