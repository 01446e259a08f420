import Kademlia.Error

/-!
# A network of datagrams

An address is bound while there are handles to it, and datagrams for a bound
address wait there in the order in which they arrive.  Within a family a port is
bound at most once, on whatever IP.
-/

namespace Kademlia

/-- A datagram that waits to be read. -/
structure Datagram where
  bytes : Bytes
  source : Address
deriving DecidableEq

/-- A bound address: how many handles keep it, and what waits there. -/
structure Channel where
  handles : Nat
  waiting : List Datagram
deriving DecidableEq

/-- Bound addresses; the attempts to bind so far, the last one first; whether
further handles are refused; and how many ephemeral ports were given out. -/
structure Network where
  channels : List (Address × Channel)
  attempted : List Address
  refusesClones : Bool
  ephemeral : Nat
deriving DecidableEq

namespace Network

/-- The first port that is given to a socket which asks for none. -/
def firstEphemeral : Nat :=
  49152

/-- How many ports are given in turn to sockets which ask for none. -/
def ephemeralPorts : Nat :=
  16383

/-- Nothing is bound. -/
def empty : Network :=
  ⟨[], [], false, 0⟩

/-- The attempts to bind so far, in order. -/
def attempts (network : Network) : List Address :=
  network.attempted.reverse

/-- What is bound at an address. -/
def channel? (network : Network) (address : Address) : Option Channel :=
  network.channels.lookup address

/-- Whether an address is bound. -/
def isBound (network : Network) (address : Address) : Bool :=
  (network.channel? address).isSome

/-- Whether the port of an address is bound in its family. -/
def inUse (network : Network) (address : Address) : Bool :=
  network.channels.any fun (bound, _) =>
    bound.port = address.port && bound.family = address.family

/-- Changes what is bound at an address, if anything is. -/
def modify (network : Network) (address : Address) (change : Channel → Channel) : Network :=
  { network with
    channels := network.channels.map fun (bound, channel) =>
      (bound, if bound = address then change channel else channel) }

/-- Adds a handle to an address, binding it if it is not. -/
def acquire (network : Network) (address : Address) : Network :=
  if network.isBound address then
    network.modify address fun channel => { channel with handles := channel.handles + 1 }
  else { network with channels := network.channels ++ [(address, ⟨1, []⟩)] }

/-- Takes a handle from an address; with the last one it is no longer bound, and
what waits there is lost. -/
def release (network : Network) (address : Address) : Network :=
  match network.channel? address with
  | none => network
  | some channel =>
      if channel.handles ≤ 1 then
        { network with channels := network.channels.filter fun (bound, _) => bound ≠ address }
      else network.modify address fun channel => { channel with handles := channel.handles - 1 }

/-- The address a request to bind stands for, and the network after choosing it:
port zero stands for the next ephemeral port. -/
def resolve (network : Network) (address : Address) : Address × Network :=
  if address.port = 0 then
    ({ address with port := UInt16.ofNat (firstEphemeral + network.ephemeral) },
      { network with ephemeral := (network.ephemeral + 1) % ephemeralPorts })
  else (address, network)

/-- Binds a socket and gives its address. -/
def bind (network : Network) (address : Address) : Except Error Address × Network :=
  let network := { network with attempted := address :: network.attempted }
  let (chosen, network) := network.resolve address
  if network.inUse chosen then (.error (.system .addressInUse), network)
  else (.ok chosen, network.acquire chosen)

/-- Makes a further handle to a socket. -/
def clone (network : Network) (address : Address) : Except Error Network :=
  if network.refusesClones then .error (.system .cloneRefused)
  else if network.isBound address then .ok (network.acquire address)
  else .ok network

/-- Delivers a datagram; one for an address that is not bound is lost. -/
def deliver (network : Network) (source destination : Address) (bytes : Bytes) : Network :=
  network.modify destination fun channel =>
    { channel with waiting := channel.waiting ++ [⟨bytes, source⟩] }

/-- Takes away what waits at an address. -/
def take (network : Network) (address : Address) : List Datagram × Network :=
  (((network.channel? address).map Channel.waiting).getD [],
    network.modify address fun channel => { channel with waiting := [] })

/-- Reads the next datagram at an address into a buffer, which cuts it off. -/
def receive (network : Network) (address : Address) (size : Nat) :
    Except Error Datagram × Network :=
  match network.channel? address with
  | none => (.error (.system .notConnected), network)
  | some channel =>
      match channel.waiting with
      | [] => (.error (.system .wouldBlock), network)
      | datagram :: rest =>
          (.ok { datagram with bytes := datagram.bytes.take size },
            network.modify address fun channel => { channel with waiting := rest })

end Network

end Kademlia
