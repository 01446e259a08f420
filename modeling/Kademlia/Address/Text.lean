import Kademlia.Address.Basic

/-!
# The text of addresses

An IPv4 address is four decimal octets.  An IPv6 address is eight hexadecimal
groups; written, the longest run of two or more zero groups is left out, and an
address that embeds an IPv4 one shows it dotted.  Read, any such spelling is
accepted.  In an address with a port, a scope stands behind the IPv6 address.
-/

namespace Kademlia.Ip

/-! ## Writing -/

/-- Four octets in decimal. -/
def dotted (octets : Bytes) : String :=
  ".".intercalate (octets.map fun octet => toString octet.toNat)

/-- Pairs of octets as numbers. -/
def groups : Bytes → List Nat
  | high :: low :: rest => (high.toNat * 256 + low.toNat) :: groups rest
  | _ => []

/-- The least hexadecimal digits of a group. -/
def groupText (group : Nat) : String :=
  String.ofList (Nat.toDigits 16 group)

/-- How many zero groups there are from a position on. -/
def zerosAt (groups : List Nat) (position : Nat) : Nat :=
  ((groups.drop position).takeWhile (· == 0)).length

/-- Position and length of the longest run of zero groups, the first one of several. -/
def longestZeros (groups : List Nat) : Nat × Nat :=
  (List.range groups.length).foldl
    (fun best position =>
      if best.2 < zerosAt groups position then (position, zerosAt groups position) else best)
    (0, 0)

/-- Groups between colons, the longest run of at least two zeros left out. -/
def compressed (groups : List Nat) : String :=
  let written (groups : List Nat) := ":".intercalate (groups.map groupText)
  let (position, length) := longestZeros groups
  if length < 2 then written groups
  else written (groups.take position) ++ "::" ++ written (groups.drop (position + length))

/-- The text of an IP. -/
def text : Ip → String
  | v4 octets => dotted octets.toList
  | v6 octets =>
      if octets.toList.take 12 = List.replicate 10 0 ++ [0xFF, 0xFF] then
        "::ffff:" ++ dotted (octets.toList.drop 12)
      else compressed (groups octets.toList)

/-! ## Reading -/

/-- The number a run of digits spells in a base. -/
def digitsValue (base : Nat) (digits : List Char) : Nat :=
  digits.foldl (fun n c => n * base + (Bytes.digit? c).getD 0) 0

/-- A decimal octet: one to three digits, no needless zero in front. -/
def readOctet (text : List Char) : Option (UInt8 × List Char) :=
  let digits := text.takeWhile Char.isDigit
  let value := digitsValue 10 digits
  if digits = [] ∨ 3 < digits.length ∨ (digits.head? = some '0' ∧ digits ≠ ['0']) ∨ 255 < value
  then none
  else some (UInt8.ofNat value, text.dropWhile Char.isDigit)

/-- The rest of a text after a given first character. -/
def after (c : Char) : List Char → Option (List Char)
  | [] => none
  | d :: rest => if d = c then some rest else none

/-- Four decimal octets between dots. -/
def readDotted (text : List Char) : Option (Bytes × List Char) := do
  let (a, text) ← readOctet text
  let (b, text) ← (after '.' text).bind readOctet
  let (c, text) ← (after '.' text).bind readOctet
  let (d, text) ← (after '.' text).bind readOctet
  pure ([a, b, c, d], text)

/-- A group of one to four hexadecimal digits. -/
def readGroup (text : List Char) : Option (Nat × List Char) :=
  let isHex (c : Char) := (Bytes.digit? c).isSome
  let digits := text.takeWhile isHex
  if digits = [] ∨ 4 < digits.length then none
  else some (digitsValue 16 digits, text.dropWhile isHex)

/-- As many groups as there are, at most `limit`, with colons between them; the
last two may be an IPv4 address, which then ends them.  Also says whether it did. -/
def readGroups : (limit : Nat) → (first : Bool) → List Char → List Nat × Bool × List Char
  | 0, _, text => ([], false, text)
  | limit + 1, first, text =>
      let start := if first then some text else after ':' text
      match if limit = 0 then none else start.bind readDotted with
      | some (octets, rest) => (groups octets, true, rest)
      | none =>
        match start.bind readGroup with
        | none => ([], false, text)
        | some (group, rest) =>
            let (more, embedded, rest) := readGroups limit false rest
            (group :: more, embedded, rest)

/-- The eight groups of an IPv6 address, `::` standing for the missing ones. -/
def readIpv6 (text : List Char) : Option (List Nat × List Char) :=
  let (head, embedded, rest) := readGroups 8 true text
  if head.length = 8 then some (head, rest)
  else if embedded then none
  else do
    let rest ← (after ':' rest).bind (after ':')
    let (tail, _, rest) := readGroups (7 - head.length) true rest
    pure (head ++ List.replicate (8 - head.length - tail.length) 0 ++ tail, rest)

/-- The octets of the IPv6 address at the front of a text. -/
def readV6 (text : List Char) : Option (Octets 16 × List Char) := do
  let (groups, rest) ← readIpv6 text
  let octets ← Octets.ofList? 16 (groups.flatMap (Bytes.bigEndian 2))
  pure (octets, rest)

/-- The octets of the IPv4 address at the front of a text. -/
def readV4 (text : List Char) : Option (Octets 4 × List Char) := do
  let (bytes, rest) ← readDotted text
  let octets ← Octets.ofList? 4 bytes
  pure (octets, rest)

/-- The IP that a whole text spells. -/
def ofText? (text : String) : Option Ip :=
  match readV4 text.toList with
  | some (octets, []) => some (v4 octets)
  | _ =>
    match readV6 text.toList with
    | some (octets, []) => some (v6 octets)
    | _ => none

end Kademlia.Ip

namespace Kademlia.Address

/-- An address in text: the IP, in brackets where it has colons, and the port.  A scope
follows its IP; flow info is not shown. -/
def text (address : Address) : String :=
  match address.locator with
  | .v4 _ => address.ip.text ++ ":" ++ toString address.port.toNat
  | .v6 _ _ scope =>
      let suffix := if scope = 0 then "" else "%" ++ toString scope.toNat
      "[" ++ address.ip.text ++ suffix ++ "]:" ++ toString address.port.toNat

/-- The scope behind a percent sign; what is no number of 32 bits is left where it is. -/
def readScope (text : List Char) : UInt32 × List Char :=
  match Ip.after '%' text with
  | none => (0, text)
  | some rest =>
      let digits := rest.takeWhile Char.isDigit
      if digits = [] ∨ UInt32.size ≤ Ip.digitsValue 10 digits then (0, text)
      else (UInt32.ofNat (Ip.digitsValue 10 digits), rest.dropWhile Char.isDigit)

/-- A port after its colon, up to the end of the text. -/
def readPort (text : List Char) : Option UInt16 := do
  let digits ← Ip.after ':' text
  if digits = [] ∨ ¬ digits.all Char.isDigit ∨ 65535 < Ip.digitsValue 10 digits then none
  else pure (UInt16.ofNat (Ip.digitsValue 10 digits))

/-- The address that a whole text spells. -/
def ofText? (text : String) : Option Address :=
  match text.toList with
  | '[' :: rest => do
      let (octets, rest) ← Ip.readV6 rest
      let (scope, rest) := readScope rest
      let port ← (Ip.after ']' rest).bind readPort
      pure ⟨.v6 octets 0 scope, port⟩
  | text => do
      let (octets, rest) ← Ip.readV4 text
      let port ← readPort rest
      pure ⟨.v4 octets, port⟩

end Kademlia.Address
