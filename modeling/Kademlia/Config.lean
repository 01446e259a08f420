import Kademlia.Ports

/-!
# Configuration of a host
-/

namespace Kademlia

/-- A host to join the network through. -/
structure EntryPoint where
  host : String
  port : UInt16
deriving DecidableEq

namespace EntryPoint

/-- The host and the port, with a colon between them. -/
def text (point : EntryPoint) : String :=
  point.host ++ ":" ++ toString point.port.toNat

/-- Whether there is no host to resolve. -/
def isBlank (point : EntryPoint) : Bool :=
  Text.trim point.host.toList = []

end EntryPoint

/-- What is configured for one family. -/
structure FamilyConfig where
  stateFile : String
  listenAddress : Option Ip
  entryPoint : Option EntryPoint
deriving DecidableEq

/-- What is configured for a host; times are in milliseconds. -/
structure Config where
  listenPorts : List UInt16
  messageTimeout : Nat
  ipv4 : FamilyConfig
  ipv6 : FamilyConfig
deriving DecidableEq

namespace Config

/-- The ports tried when none are configured. -/
def defaultPorts : List UInt16 :=
  (Ports.covered [⟨6881, 6999⟩]).map UInt16.ofNat

/-- The configuration of a host that was told nothing. -/
def default : Config :=
  { listenPorts := defaultPorts
    messageTimeout := 10000
    ipv4 := ⟨"dht.dat", none, none⟩
    ipv6 := ⟨"dht6.dat", none, none⟩ }

/-- The part for one family. -/
def forFamily (config : Config) : Family → FamilyConfig
  | .ipv4 => config.ipv4
  | .ipv6 => config.ipv6

/-- A configuration with another part for one family. -/
def setFamily (config : Config) (part : FamilyConfig) : Family → Config
  | .ipv4 => { config with ipv4 := part }
  | .ipv6 => { config with ipv6 := part }

end Config

end Kademlia
