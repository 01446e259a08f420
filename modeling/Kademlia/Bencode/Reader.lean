import Kademlia.Bencode.Token
import Kademlia.Text.Utf8

/-!
# Reading tokens

A reader takes what it wants off the front of a token sequence, or refuses it.
This module has the readers of single values and of sequences up to a closing
mark, and the one that passes over any value whatever it is.
-/

namespace Kademlia.Bencode

/-- Takes a value off the front of a token sequence. -/
abbrev Reader (α : Type) :=
  List Token → Option (α × List Token)

namespace Reader

/-- Reads by `read` over and over, up to the closing mark. -/
def untilClose {α : Type} (read : Reader α) : Reader (List α)
  | [] => none
  | token :: rest =>
      if token = .close then some ([], rest)
      else
        match read (token :: rest) with
        | none => none
        | some (value, left) =>
            if left.length ≤ rest.length then
              (untilClose read left).map fun (values, left) => (value :: values, left)
            else none
termination_by tokens => tokens.length
decreasing_by
  simp only [List.length_cons]
  omega

/-- A number. -/
def int : Reader Int64
  | .int n :: rest => some (n, rest)
  | _ => none

/-- A number from 0 up to a bound. -/
def natUpTo (bound : Nat) : Reader Nat
  | .int n :: rest =>
      if 0 ≤ n.toInt ∧ n.toInt ≤ bound then some (n.toInt.toNat, rest) else none
  | _ => none

/-- A number that fits an octet. -/
def octet : Reader UInt8
  | token :: rest => token.octet?.map fun value => (value, rest)
  | [] => none

/-- A byte string, or a list of octets in its place. -/
def bytes : Reader Bytes
  | .bytes value :: rest => some (value, rest)
  | .list :: rest => untilClose octet rest
  | _ => none

/-- A byte string that is UTF-8. -/
def text : Reader Bytes
  | .bytes value :: rest => if Utf8.isValid value then some (value, rest) else none
  | _ => none

/-- A list whose items are read by `read`. -/
def list {α : Type} (read : Reader α) : Reader (List α)
  | .list :: rest => untilClose read rest
  | _ => none

/-! ## Passing over values -/

/-- What is open around the next token, innermost first: a list, a dictionary
before a key or before a value, or a list of octets that stands for a key. -/
inductive Frame
  | item
  | key
  | value
  | octet
deriving DecidableEq

/-- The frame after one more value inside it. -/
def Frame.advance : Frame → Frame
  | item => item
  | key => value
  | value => key
  | octet => octet

/-- Passes over tokens until everything open is closed.  When `strict`, a key is
a byte string or a list of octets. -/
def skipWithin (strict : Bool) : List Frame → List Token → Option (List Token)
  | [], tokens => some tokens
  | _ :: _, [] => none
  | .value :: _, .close :: _ => none
  | _ :: frames, .close :: rest => skipWithin strict frames rest
  | .octet :: frames, token :: rest =>
      if token.octet?.isSome then skipWithin strict (.octet :: frames) rest else none
  | frame :: frames, .bytes _ :: rest => skipWithin strict (frame.advance :: frames) rest
  | frame :: frames, .int _ :: rest =>
      if strict ∧ frame = .key then none
      else skipWithin strict (frame.advance :: frames) rest
  | frame :: frames, .dict :: rest =>
      if strict ∧ frame = .key then none
      else skipWithin strict (.key :: frame.advance :: frames) rest
  | frame :: frames, .list :: rest =>
      if strict ∧ frame = .key then skipWithin strict (.octet :: frame.advance :: frames) rest
      else skipWithin strict (.item :: frame.advance :: frames) rest

/-- Passes over one value. -/
def skip (strict : Bool) : List Token → Option (List Token)
  | .int _ :: rest => some rest
  | .bytes _ :: rest => some rest
  | .list :: rest => skipWithin strict [.item] rest
  | .dict :: rest => skipWithin strict [.key] rest
  | _ => none

/-- An item of which only numbers and byte strings are of interest. -/
inductive Item
  | int (n : Int64)
  | bytes (value : Bytes)
  | compound
deriving DecidableEq

/-- Reads any value as an item. -/
def item : Reader Item
  | .int n :: rest => some (.int n, rest)
  | .bytes value :: rest => some (.bytes value, rest)
  | tokens => (skip true tokens).map fun rest => (.compound, rest)

end Reader

end Kademlia.Bencode
