import Kademlia.Bytes

/-!
# Addresses of two families

A stack runs on one address family, and every address belongs to exactly one.  An IPv6
address may carry flow info and the scope in which its IP is meant; two addresses that
differ in these are not the same.
-/

namespace Kademlia

/-- The two families of network addresses. -/
inductive Family
  | ipv4
  | ipv6
deriving DecidableEq, Inhabited

namespace Family

/-- Both families, in the order in which a host keeps them. -/
def all : List Family :=
  [ipv4, ipv6]

/-- The number an operating system gives the family. -/
def code : Family → Int
  | ipv4 => 2
  | ipv6 => 10

/-- The family with a given number. -/
def ofCode? (code : Int) : Option Family :=
  if code = 2 then some ipv4 else if code = 10 then some ipv6 else none

/-- The name shown in messages. -/
def name : Family → String
  | ipv4 => "IPv4"
  | ipv6 => "IPv6"

/-- How many octets an IP of the family has. -/
def ipLength : Family → Nat
  | ipv4 => 4
  | ipv6 => 16

/-- How many octets a compact address of the family has. -/
def compactLength (family : Family) : Nat :=
  family.ipLength + 2

@[simp]
theorem ofCode?_code (family : Family) : ofCode? family.code = some family := by
  cases family <;> rfl

theorem ofCode?_eq_some_iff {code : Int} {family : Family} :
    ofCode? code = some family ↔ code = family.code := by
  constructor
  · unfold ofCode?
    split
    · rintro ⟨⟩
      assumption
    · split
      · rintro ⟨⟩
        assumption
      · simp
  · rintro rfl
    exact ofCode?_code family

end Family

/-- An IP of either family. -/
inductive Ip
  | v4 (octets : Octets 4)
  | v6 (octets : Octets 16)
deriving DecidableEq

namespace Ip

/-- The family of an IP. -/
def family : Ip → Family
  | v4 _ => .ipv4
  | v6 _ => .ipv6

/-- The octets of an IP, most significant first. -/
def bytes : Ip → Bytes
  | v4 octets => octets.toList
  | v6 octets => octets.toList

/-- The IP of a family that stands for any IP. -/
def unspecified : Family → Ip
  | .ipv4 => v4 (.zero 4)
  | .ipv6 => v6 (.zero 16)

/-- Whether an IP stands for any IP of its family. -/
def isUnspecified (ip : Ip) : Bool :=
  ip = unspecified ip.family

@[simp]
theorem family_unspecified (family : Family) : (unspecified family).family = family := by
  cases family <;> rfl

@[simp]
theorem length_bytes (ip : Ip) : ip.bytes.length = ip.family.ipLength := by
  cases ip with
  | v4 octets => exact octets.length_toList
  | v6 octets => exact octets.length_toList

end Ip

/-- An IP as it stands in an address: an IPv6 one comes with flow info and a scope. -/
inductive Locator
  | v4 (octets : Octets 4)
  | v6 (octets : Octets 16) (flow scope : UInt32)
deriving DecidableEq

namespace Locator

/-- The IP of a locator. -/
def ip : Locator → Ip
  | v4 octets => .v4 octets
  | v6 octets _ _ => .v6 octets

/-- An IP without flow info and outside of every scope. -/
@[coe]
def ofIp : Ip → Locator
  | .v4 octets => v4 octets
  | .v6 octets => v6 octets 0 0

instance : Coe Ip Locator :=
  ⟨ofIp⟩

/-- Any IP of a family. -/
def unspecified (family : Family) : Locator :=
  Ip.unspecified family

@[simp]
theorem ip_ofIp (ip : Ip) : (ip : Locator).ip = ip := by
  cases ip <;> rfl

@[simp]
theorem ofIp_inj {first second : Ip} : (first : Locator) = second ↔ first = second := by
  constructor
  · intro same
    have ips := congrArg Locator.ip same
    rwa [ip_ofIp, ip_ofIp] at ips
  · rintro rfl
    rfl

end Locator

/-- A locator and a port. -/
@[ext]
structure Address where
  locator : Locator
  port : UInt16
deriving DecidableEq

namespace Address

/-- The IP of an address. -/
def ip (address : Address) : Ip :=
  address.locator.ip

/-- The family of an address. -/
def family (address : Address) : Family :=
  address.ip.family

/-- The address of the same IP and port without flow info and outside of every scope. -/
def bare (address : Address) : Address :=
  ⟨address.ip, address.port⟩

/-- Whether an address has neither flow info nor a scope. -/
def Bare (address : Address) : Prop :=
  address.bare = address

instance : DecidablePred Bare :=
  fun address => inferInstanceAs (Decidable (address.bare = address))

@[simp]
theorem ip_mk_ofIp (ip : Ip) (port : UInt16) : (⟨ip, port⟩ : Address).ip = ip :=
  Locator.ip_ofIp ip

@[simp]
theorem family_mk_ofIp (ip : Ip) (port : UInt16) : (⟨ip, port⟩ : Address).family = ip.family :=
  congrArg Ip.family (Locator.ip_ofIp ip)

@[simp]
theorem ip_bare (address : Address) : address.bare.ip = address.ip :=
  ip_mk_ofIp address.ip address.port

@[simp]
theorem port_bare (address : Address) : address.bare.port = address.port :=
  rfl

@[simp]
theorem family_bare (address : Address) : address.bare.family = address.family :=
  family_mk_ofIp address.ip address.port

theorem bare_mk_ofIp (ip : Ip) (port : UInt16) : (⟨ip, port⟩ : Address).Bare := by
  rw [Bare, bare, ip_mk_ofIp]

theorem bare_bare (address : Address) : address.bare.Bare :=
  bare_mk_ofIp address.ip address.port

/-- IPv4 addresses have nothing to leave out. -/
theorem bare_of_ipv4 {address : Address} (ipv4 : address.family = .ipv4) : address.Bare := by
  obtain ⟨locator, port⟩ := address
  cases locator with
  | v4 octets => rfl
  | v6 octets flow scope => cases ipv4

/-- Addresses are the same without flow info and scope exactly if IP and port are. -/
theorem bare_inj {first second : Address} :
    first.bare = second.bare ↔ first.ip = second.ip ∧ first.port = second.port := by
  rw [Address.ext_iff, bare, bare, Locator.ofIp_inj]

end Address

end Kademlia
