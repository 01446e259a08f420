import Kademlia.Bytes

/-!
# CRC-32C

The checksum of state files and announce tokens, one bit at a time: the
register takes in an octet at its low end and shifts eight times, adding the
reversed Castagnoli polynomial whenever a one drops out.
-/

namespace Kademlia.Checksum

/-- The Castagnoli polynomial with its bits reversed. -/
def polynomial : UInt32 :=
  0x82F63B78

/-- Shifts one bit out of the register. -/
def shift (register : UInt32) : UInt32 :=
  if register &&& 1 = 1 then (register >>> 1) ^^^ polynomial else register >>> 1

/-- Shifts a number of bits out of the register. -/
def shifts : Nat → UInt32 → UInt32
  | 0, register => register
  | n + 1, register => shifts n (shift register)

/-- Takes an octet into the register. -/
def feed (register : UInt32) (byte : UInt8) : UInt32 :=
  shifts 8 (register ^^^ byte.toUInt32)

/-- The register after a byte string, from a given start. -/
def run (register : UInt32) (bytes : Bytes) : UInt32 :=
  bytes.foldl feed register

/-- The CRC-32C of a byte string. -/
def crc32c (bytes : Bytes) : UInt32 :=
  run 0xFFFFFFFF bytes ^^^ 0xFFFFFFFF

@[simp]
theorem run_nil (register : UInt32) : run register [] = register :=
  rfl

@[simp]
theorem run_cons (register : UInt32) (byte : UInt8) (rest : Bytes) :
    run register (byte :: rest) = run (feed register byte) rest :=
  rfl

@[simp]
theorem run_append (register : UInt32) (first second : Bytes) :
    run register (first ++ second) = run (run register first) second :=
  List.foldl_append

end Kademlia.Checksum
