import Kademlia.Network.Basic

/-!
# The socket of a stack

A stack's socket is bound in the stack's family, on a port that is prescribed or
on the first free one of some candidates, and sends within the family only.
-/

namespace Kademlia

/-- A bound socket of one family. -/
structure Connection where
  family : Family
  localAddress : Address
deriving DecidableEq

/-- The size of the buffer that datagrams are read into. -/
def mtu : Nat :=
  2048

namespace Connection

/-- The port of a connection. -/
def port (connection : Connection) : UInt16 :=
  connection.localAddress.port

/-- Binds a port on an IP, or on all of the family. -/
def bind (network : Network) (family : Family) (ip : Option Ip) (port : UInt16) :
    Except Error Connection × Network :=
  let address : Address := ⟨ip.getD (.unspecified family), port⟩
  if address.family = family then
    match network.bind address with
    | (.ok bound, network) => (.ok ⟨family, bound⟩, network)
    | (.error error, network) => (.error error, network)
  else (.error (.unsupportedAddress address), network)

/-- Tries ports in order up to the first that can be bound; `tried` of them
failed already. -/
def bindNext (family : Family) (ip : Option Ip) (tried : Nat) :
    List UInt16 → Network → Except Error Connection × Network
  | [], network => (.error (.portsExhausted tried), network)
  | port :: ports, network =>
      match bind network family ip port with
      | (.error (.system _), network) => bindNext family ip (tried + 1) ports network
      | result => result

/-- Binds the first of some ports that can be bound. -/
def bindCandidates (network : Network) (family : Family) (ip : Option Ip) (ports : List UInt16) :
    Except Error Connection × Network :=
  bindNext family ip 0 ports network

/-- Sends a datagram to an address of the family; gives its size. -/
def send (connection : Connection) (network : Network) (destination : Address) (bytes : Bytes) :
    Except Error Nat × Network :=
  if destination.family = connection.family then
    (.ok bytes.length, network.deliver connection.localAddress destination bytes)
  else (.error (.unsupportedAddress destination), network)

/-- Reads the next datagram, if one waits. -/
def receive (connection : Connection) (network : Network) (size : Nat) :
    Except Error (Option Datagram) × Network :=
  match network.receive connection.localAddress size with
  | (.ok datagram, network) => (.ok (some datagram), network)
  | (.error (.system .wouldBlock), network) => (.ok none, network)
  | (.error error, network) => (.error error, network)

/-- Makes a handle by which the socket can be watched. -/
def readinessHandle (connection : Connection) (network : Network) : Except Error Network :=
  network.clone connection.localAddress

end Connection

end Kademlia
