import Kademlia.Config

/-!
# Resolving names

A host that is written as an IP is that IP.  Any other one is looked up.
-/

namespace Kademlia

/-- The IPs of host names. -/
structure Names where
  table : List (String × List Ip)
deriving DecidableEq

namespace Names

/-- The IPs of a host, if it is known. -/
def resolve (names : Names) (host : String) : Option (List Ip) :=
  match Ip.ofText? host with
  | some ip => some [ip]
  | none => if host.toList.contains '\x00' then none else names.table.lookup host

/-- The addresses of an entry point, if its host is known. -/
def addresses (names : Names) (point : EntryPoint) : Option (List Address) :=
  (names.resolve point.host).map fun ips => ips.map fun (ip : Ip) => ⟨ip, point.port⟩

end Names

end Kademlia
