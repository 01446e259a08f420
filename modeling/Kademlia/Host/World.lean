import Kademlia.Disk
import Kademlia.Entropy
import Kademlia.Names
import Kademlia.Network.Basic
import Kademlia.TrackerClient

/-!
# The world of a host

What there is besides a host, and stays when the host is gone: the clock, random
bytes, the network, files, names, and the tracker clients that were ever made.
-/

namespace Kademlia

/-- The surroundings of a host.  The clock counts milliseconds; `epoch` is the
time of day, in seconds, when it showed zero. -/
structure World where
  now : Nat
  epoch : Int
  entropy : Entropy
  network : Network
  disk : Disk
  names : Names
  clients : List TrackerClient
deriving DecidableEq

/-- A reference to a tracker client: its place among those ever made. -/
abbrev ClientHandle := Nat

namespace World

/-- The time of day, in milliseconds. -/
def wallClock (world : World) : Int :=
  world.epoch * 1000 + world.now

/-- Lets time pass. -/
def advance (world : World) (milliseconds : Nat) : World :=
  { world with now := world.now + milliseconds }

/-- Makes a tracker client. -/
def makeClient (world : World) : ClientHandle × World :=
  (world.clients.length, { world with clients := world.clients ++ [.empty] })

/-- A tracker client. -/
def client? (world : World) (handle : ClientHandle) : Option TrackerClient :=
  world.clients[handle]?

/-- A world with another state of a tracker client. -/
def setClient (world : World) (handle : ClientHandle) (client : TrackerClient) : World :=
  { world with clients := world.clients.set handle client }

end World

end Kademlia
