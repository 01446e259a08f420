import Kademlia.Address.Text
import Kademlia.Text.Quoted

/-!
# Errors

Every way in which an operation can fail, with its cause, and the text in which
it is reported.
-/

namespace Kademlia

/-- What a well-formed bencoded message lacks to be a KRPC message. -/
inductive MessageFault
  | transactionIdLength
  | unknownType
  | noArguments
  | noMethod
  | noValues
  | unknownMethod
  | noTarget
  | getPeersWithoutInfoHash
  | announceWithoutInfoHash
  | announceWithoutToken
deriving DecidableEq

/-- Why a state file is refused. -/
inductive StateFault
  | version
  | family
  | checksum
deriving DecidableEq

/-- Why a slot does not take part in a transition. -/
inductive SlotFault
  | occupied
  | nothingStaged
  | active
deriving DecidableEq

/-- What goes wrong outside: with a socket or with a file. -/
inductive SystemFault
  | addressInUse
  | wouldBlock
  | notConnected
  | cloneRefused
  | notFound
  | isDirectory
deriving DecidableEq

/-- The ways in which an operation fails. -/
inductive Error
  | malformed
  | idLength (length : Nat)
  | message (fault : MessageFault)
  | compactAddress
  | compactNodes
  | stateFile (fault : StateFault)
  | portsExhausted (candidates : Nat)
  | portSegments (text : String)
  | alreadyWired (link : String)
  | notWired (link : String)
  | slot (family : Family) (fault : SlotFault)
  | unsupportedAddress (address : Address)
  | system (fault : SystemFault)
deriving DecidableEq

/-- The reason shown for a message that is refused. -/
def MessageFault.text : MessageFault → String
  | transactionIdLength => "transaction id is not one or two bytes"
  | unknownType => "unknown message type"
  | noArguments => "query without arguments"
  | noMethod => "query without method"
  | noValues => "response without values"
  | unknownMethod => "unknown method"
  | noTarget => "find_node without target"
  | getPeersWithoutInfoHash => "get_peers without info_hash"
  | announceWithoutInfoHash => "announce_peer without info_hash"
  | announceWithoutToken => "announce_peer without token"

/-- The reason shown for a state file that is refused. -/
def StateFault.text : StateFault → String
  | version => "unsupported version"
  | family => "address family mismatch"
  | checksum => "checksum mismatch"

/-- The reason shown for a transition that a slot refuses. -/
def SlotFault.text : SlotFault → String
  | occupied => "already occupied"
  | nothingStaged => "nothing staged"
  | active => "already active"

/-- What went wrong outside, in words. -/
def SystemFault.text : SystemFault → String
  | addressInUse => "address in use"
  | wouldBlock => "nothing to read yet"
  | notConnected => "socket not bound"
  | cloneRefused => "no further handle to the socket"
  | notFound => "no such file"
  | isDirectory => "is a directory"

/-- The text in which an error is reported. -/
def Error.text : Error → String
  | malformed => "Malformed bencode"
  | idLength length => s!"Invalid Id size, expected 20, got {length}"
  | message fault => "Invalid KRPC message: " ++ fault.text
  | compactAddress => "Invalid compact encoding: wrong number of bytes for compact address"
  | compactNodes => "Invalid compact encoding: wrong number of bytes for compact nodes"
  | stateFile fault => "Invalid DHT state file: " ++ fault.text
  | portsExhausted candidates =>
      s!"Error occurred while binding UDP port for DHT, tried {candidates} candidate port(s)"
  | portSegments text => "Invalid port segments: " ++ Text.quoted text
  | alreadyWired link => link ++ " is already wired"
  | notWired link => link ++ " is not wired"
  | slot family fault => "DHT registry slot for " ++ family.name ++ ": " ++ fault.text
  | unsupportedAddress address =>
      "Address " ++ address.text ++ " does not match the DHT address family"
  | system fault => fault.text

end Kademlia
