import Kademlia.Error
import Kademlia.Text.Blank

/-!
# The listen port option

The option is a list of ports and of port ranges between commas, with blanks
wherever there is none inside a number.  It stands for a set of ports, which is
kept in ascending order.
-/

namespace Kademlia.Ports

/-- A range of ports, both ends included. -/
structure Segment where
  first : Nat
  last : Nat
deriving DecidableEq

/-- The highest port. -/
def highest : Nat :=
  65535

/-- A port in decimal, possibly after a plus sign. -/
def port? (text : List Char) : Option Nat :=
  let digits :=
    match text with
    | '+' :: digits => digits
    | digits => digits
  if digits ≠ [] ∧ digits.all Char.isDigit ∧ Ip.digitsValue 10 digits ≤ highest then
    some (Ip.digitsValue 10 digits)
  else none

/-- A port, or two of them around a dash in ascending order. -/
def segment? (text : List Char) : Option Segment :=
  match Text.splitFirst? '-' text with
  | none => (port? text).map fun port => ⟨port, port⟩
  | some (lower, upper) => do
      let first ← port? (Text.trim lower)
      let last ← port? (Text.trim upper)
      if first ≤ last then pure ⟨first, last⟩ else none

/-- The segments of an option; a blank one has none. -/
def segments? (text : List Char) : Option (List Segment) :=
  if Text.trim text = [] then some []
  else ((Text.split ',' text).map Text.trim).mapM segment?

/-- Whether a port lies in a segment. -/
def Segment.covers (segment : Segment) (port : Nat) : Bool :=
  segment.first ≤ port && port ≤ segment.last

/-- The ports that lie in any of some segments, in ascending order. -/
def covered (segments : List Segment) : List Nat :=
  (List.range (highest + 1)).filter fun port => segments.any (·.covers port)

/-- The ports an option names, in ascending order. -/
def parse (text : String) : Except Error (List UInt16) :=
  match segments? text.toList with
  | some segments => .ok ((covered segments).map UInt16.ofNat)
  | none => .error (.portSegments text)

/-- Joins a port to the runs that follow it. -/
def joinRuns (port : Nat) : List Segment → List Segment
  | ⟨first, last⟩ :: rest =>
      if port + 1 = first then ⟨port, last⟩ :: rest else ⟨port, port⟩ :: ⟨first, last⟩ :: rest
  | [] => [⟨port, port⟩]

/-- An ascending list of ports as runs of consecutive ones. -/
def runs (ports : List Nat) : List Segment :=
  ports.foldr joinRuns []

/-- A run as it is written in an option. -/
def Segment.text (segment : Segment) : String :=
  if segment.first = segment.last then toString segment.first
  else toString segment.first ++ "-" ++ toString segment.last

/-- An ascending list of ports as an option. -/
def render (ports : List Nat) : String :=
  ",".intercalate ((runs ports).map Segment.text)

end Kademlia.Ports
