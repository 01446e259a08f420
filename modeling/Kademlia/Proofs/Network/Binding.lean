import Kademlia.Network.Connection
import Kademlia.Proofs.Association

/-!
# Binding sockets

An attempt to bind that fails is logged, and may use up an ephemeral port; what is
bound stays as it is.  One that succeeds adds one socket, and closing that undoes
it.
-/

namespace Kademlia

namespace Network

variable {network : Network} {address : Address}

/-! ## Attempts that fail -/

/-- A network that another one may have become by attempts to bind that failed. -/
structure Tried (before after : Network) : Prop where
  channels : after.channels = before.channels
  refusesClones : after.refusesClones = before.refusesClones
  attempted : before.attempted <:+ after.attempted
  ephemeral : before.ephemeral < ephemeralPorts → after.ephemeral < ephemeralPorts

namespace Tried

variable {before between after : Network}

theorem refl (network : Network) : Tried network network :=
  ⟨rfl, rfl, List.suffix_rfl, id⟩

theorem trans (first : Tried before between) (second : Tried between after) :
    Tried before after :=
  ⟨second.channels.trans first.channels, second.refusesClones.trans first.refusesClones,
    first.attempted.trans second.attempted, second.ephemeral ∘ first.ephemeral⟩

theorem inUse (tried : Tried before after) (address : Address) :
    after.inUse address = before.inUse address := by
  rw [Network.inUse, Network.inUse, tried.channels]

end Tried

/-- A network on which one more attempt to bind is logged. -/
def log (network : Network) (address : Address) : Network :=
  { network with attempted := address :: network.attempted }

theorem tried_log (network : Network) (address : Address) : Tried network (network.log address) :=
  ⟨rfl, rfl, List.suffix_cons address network.attempted, id⟩

theorem tried_resolve (network : Network) (address : Address) :
    Tried network (network.resolve address).2 := by
  unfold resolve
  split
  · refine ⟨rfl, rfl, List.suffix_rfl, fun _ => ?_⟩
    exact Nat.mod_lt _ (by decide)
  · exact .refl network

/-! ## What a request to bind stands for -/

theorem resolve_of_ne_zero (given : address.port ≠ 0) (network : Network) :
    network.resolve address = (address, network) :=
  if_neg given

/-- What a request stands for depends on how many ephemeral ports were given out. -/
theorem resolve_congr {first second : Network} (same : second.ephemeral = first.ephemeral)
    (address : Address) :
    (second.resolve address).1 = (first.resolve address).1 ∧
      (second.resolve address).2.ephemeral = (first.resolve address).2.ephemeral := by
  unfold resolve
  rw [same]
  split
  · exact ⟨rfl, rfl⟩
  · exact ⟨rfl, same⟩

theorem locator_resolve (network : Network) (address : Address) :
    (network.resolve address).1.locator = address.locator := by
  unfold resolve
  split
  · rfl
  · rfl

/-- A socket never gets port zero. -/
theorem port_resolve_ne_zero (small : network.ephemeral < ephemeralPorts) (address : Address) :
    (network.resolve address).1.port ≠ 0 := by
  unfold resolve
  split
  · intro zero
    have value := congrArg UInt16.toNat zero
    simp only [UInt16.toNat_ofNat', UInt16.toNat_zero, firstEphemeral] at value
    rw [ephemeralPorts] at small
    omega
  · assumption

/-! ## One attempt -/

theorem bind_of_inUse (busy : network.inUse (network.resolve address).1 = true) :
    ∃ after, network.bind address = (.error (.system .addressInUse), after) ∧
      Tried network after ∧ after.ephemeral = (network.resolve address).2.ephemeral := by
  have logged : (network.log address).ephemeral = network.ephemeral := rfl
  obtain ⟨chosen, counted⟩ := resolve_congr logged address
  have tried := (network.tried_log address).trans ((network.log address).tried_resolve address)
  refine ⟨((network.log address).resolve address).2, ?_, tried, counted⟩
  rw [← chosen, ← tried.inUse] at busy
  exact if_pos busy

theorem bind_of_not_inUse (free : network.inUse (network.resolve address).1 = false) :
    ∃ tried, network.bind address =
        (.ok (network.resolve address).1, tried.acquire (network.resolve address).1) ∧
      Tried network tried := by
  have logged : (network.log address).ephemeral = network.ephemeral := rfl
  obtain ⟨chosen, -⟩ := resolve_congr logged address
  have tried := (network.tried_log address).trans ((network.log address).tried_resolve address)
  refine ⟨((network.log address).resolve address).2, ?_, tried⟩
  rw [← chosen, ← tried.inUse] at free
  rw [← chosen]
  exact if_neg (Bool.eq_false_iff.1 free)

/-! ## Handles -/

theorem not_isBound_of_not_inUse (free : network.inUse address = false) :
    network.isBound address = false := by
  rw [← Bool.not_eq_true, isBound, channel?, Option.isSome_iff_exists]
  rintro ⟨channel, found⟩
  obtain ⟨before, after, parts, -⟩ := List.lookup_eq_some_iff.1 found
  rw [inUse, parts, List.any_append, List.any_cons] at free
  simp at free

/-- Closing a socket that was just opened undoes that. -/
theorem release_acquire (free : network.inUse address = false) :
    (network.acquire address).release address = network := by
  have unbound := not_isBound_of_not_inUse free
  have absent : network.channels.lookup address = none := by
    rw [isBound, channel?] at unbound
    exact Option.not_isSome_iff_eq_none.1 (Bool.eq_false_iff.1 unbound)
  have opened : network.acquire address =
      { network with channels := network.channels ++ [(address, ⟨1, []⟩)] } :=
    if_neg (Bool.eq_false_iff.1 unbound)
  have found : (network.acquire address).channel? address = some ⟨1, []⟩ := by
    rw [opened, channel?, List.lookup_append, absent, List.lookup_cons_self]
    rfl
  rw [release, found]
  dsimp only
  rw [if_pos (Nat.le_refl 1), opened]
  exact congrArg (fun channels => { network with channels })
    (Association.filter_append_ne absent ⟨1, []⟩)

@[simp]
theorem ephemeral_acquire (network : Network) (address : Address) :
    (network.acquire address).ephemeral = network.ephemeral := by
  unfold acquire
  split
  · rfl
  · rfl

@[simp]
theorem ephemeral_release (network : Network) (address : Address) :
    (network.release address).ephemeral = network.ephemeral := by
  unfold release
  split
  · rfl
  · split
    · rfl
    · rfl

theorem refusesClones_acquire (network : Network) (address : Address) :
    (network.acquire address).refusesClones = network.refusesClones := by
  unfold acquire
  split
  · rfl
  · rfl

theorem ephemeral_clone {after : Network} (cloned : network.clone address = .ok after) :
    after.ephemeral = network.ephemeral := by
  unfold clone at cloned
  split at cloned
  · cases cloned
  · split at cloned
    · cases cloned
      exact network.ephemeral_acquire address
    · cases cloned
      rfl

theorem clone_of_refused (refuses : network.refusesClones = true) (address : Address) :
    network.clone address = .error (.system .cloneRefused) :=
  if_pos refuses

theorem exists_clone (allows : network.refusesClones = false) (address : Address) :
    ∃ after, network.clone address = .ok after := by
  rw [clone, if_neg (Bool.eq_false_iff.1 allows)]
  split
  · exact ⟨_, rfl⟩
  · exact ⟨_, rfl⟩

/-! ## Candidates -/

/-- The network once candidates for a port were chosen in vain, each in its turn. -/
def passed (network : Network) (ip : Ip) (ports : List UInt16) : Network :=
  ports.foldl (fun network port => (network.resolve ⟨ip, port⟩).2) network

/-- One of some candidates for a port stands, when its turn comes, for a port that
is free. -/
def Free (network : Network) (ip : Ip) (ports : List UInt16) : Prop :=
  ∃ earlier port later, ports = earlier ++ port :: later ∧
    network.inUse ((network.passed ip earlier).resolve ⟨ip, port⟩).1 = false

variable {ip : Ip} {port : UInt16} {ports : List UInt16}

theorem ephemeral_passed_congr {first second : Network}
    (same : second.ephemeral = first.ephemeral) (ports : List UInt16) :
    (second.passed ip ports).ephemeral = (first.passed ip ports).ephemeral := by
  induction ports generalizing first second with
  | nil => exact same
  | cons port ports ih => exact ih (resolve_congr same ⟨ip, port⟩).2

/-- Whether a candidate is free depends on what is bound, and on how many ephemeral
ports were given out. -/
theorem free_congr {first second : Network} (channels : second.channels = first.channels)
    (ephemeral : second.ephemeral = first.ephemeral) :
    second.Free ip ports ↔ first.Free ip ports := by
  have offered (earlier : List UInt16) (port : UInt16) :
      second.inUse ((second.passed ip earlier).resolve ⟨ip, port⟩).1 =
        first.inUse ((first.passed ip earlier).resolve ⟨ip, port⟩).1 := by
    rw [(resolve_congr (ephemeral_passed_congr ephemeral earlier) _).1, inUse, inUse, channels]
  simp only [Free, offered]

theorem not_free_nil : ¬ network.Free ip [] := by
  rintro ⟨earlier, port, later, parts, -⟩
  cases earlier with
  | nil => cases parts
  | cons first earlier => cases parts

theorem free_cons_iff :
    network.Free ip (port :: ports) ↔
      network.inUse (network.resolve ⟨ip, port⟩).1 = false ∨
        (network.resolve ⟨ip, port⟩).2.Free ip ports := by
  have tried := network.tried_resolve ⟨ip, port⟩
  constructor
  · rintro ⟨earlier, chosen, later, parts, free⟩
    cases earlier with
    | nil =>
      obtain ⟨rfl, rfl⟩ := List.cons.inj parts
      exact .inl free
    | cons first earlier =>
      obtain ⟨rfl, rfl⟩ := List.cons.inj parts
      refine .inr ⟨earlier, chosen, later, rfl, ?_⟩
      rw [tried.inUse]
      exact free
  · rintro (free | ⟨earlier, chosen, later, rfl, free⟩)
    · exact ⟨[], port, ports, rfl, free⟩
    · refine ⟨port :: earlier, chosen, later, rfl, ?_⟩
      rw [tried.inUse] at free
      exact free

end Network

namespace Connection

open Network

variable {network after : Network} {family : Family} {ip : Option Ip} {port : UInt16}
  {ports : List UInt16} {tried : Nat} {connection : Connection} {error : Error}

/-- What a socket is that was bound for a family on an IP, and what it did to the
network: but for attempts that failed, it is all that is new. -/
structure Opened (before : Network) (family : Family) (ip : Ip) (connection : Connection)
    (after : Network) : Prop where
  ip_family : ip.family = family
  connection_family : connection.family = family
  locator : connection.localAddress.locator = ip
  port_ne_zero : before.ephemeral < ephemeralPorts → connection.port ≠ 0
  free : before.inUse connection.localAddress = false
  acquired : ∃ tried, Tried before tried ∧ after = tried.acquire connection.localAddress

theorem Opened.of_tried {before between : Network} {ip : Ip} (first : Tried before between)
    (opened : Opened between family ip connection after) :
    Opened before family ip connection after := by
  obtain ⟨ofFamily, sameFamily, sameIp, port, free, tried, later, acquired⟩ := opened
  refine ⟨ofFamily, sameFamily, sameIp, port ∘ first.ephemeral, ?_, tried, first.trans later,
    acquired⟩
  rw [← first.inUse]
  exact free

/-- Closing a socket that was just opened leaves nothing but the attempts that
failed. -/
theorem Opened.release {before : Network} {ip : Ip}
    (opened : Opened before family ip connection after) :
    Tried before (after.release connection.localAddress) := by
  obtain ⟨-, -, -, -, free, tried, later, rfl⟩ := opened
  rw [← later.inUse] at free
  rw [release_acquire free]
  exact later

theorem Opened.refusesClones {before : Network} {ip : Ip}
    (opened : Opened before family ip connection after) :
    after.refusesClones = before.refusesClones := by
  obtain ⟨-, -, -, -, -, tried, later, rfl⟩ := opened
  exact (tried.refusesClones_acquire connection.localAddress).trans later.refusesClones

theorem Opened.ephemeral {before : Network} {ip : Ip}
    (opened : Opened before family ip connection after)
    (small : before.ephemeral < ephemeralPorts) : after.ephemeral < ephemeralPorts := by
  obtain ⟨-, -, -, -, -, tried, later, rfl⟩ := opened
  rw [ephemeral_acquire]
  exact later.ephemeral small

/-! ## One port -/

theorem bind_of_inUse (ofFamily : (ip.getD (.unspecified family)).family = family)
    (busy : network.inUse (network.resolve ⟨ip.getD (.unspecified family), port⟩).1 = true) :
    ∃ after, bind network family ip port = (.error (.system .addressInUse), after) ∧
      Tried network after ∧
      after.ephemeral =
        (network.resolve ⟨ip.getD (.unspecified family), port⟩).2.ephemeral := by
  obtain ⟨after, fails, later⟩ := Network.bind_of_inUse busy
  refine ⟨after, ?_, later⟩
  have sameFamily : (⟨ip.getD (.unspecified family), port⟩ : Address).family = family :=
    (Address.family_mk_ofIp _ port).trans ofFamily
  rw [bind, if_pos sameFamily, fails]

theorem bind_of_not_inUse (ofFamily : (ip.getD (.unspecified family)).family = family)
    (free : network.inUse (network.resolve ⟨ip.getD (.unspecified family), port⟩).1 = false) :
    ∃ connection after, bind network family ip port = (.ok connection, after) ∧
      Opened network family (ip.getD (.unspecified family)) connection after ∧
      (port ≠ 0 → connection.port = port) := by
  obtain ⟨tried, succeeds, later⟩ := Network.bind_of_not_inUse free
  let asked : Address := ⟨ip.getD (.unspecified family), port⟩
  refine ⟨⟨family, (network.resolve asked).1⟩, tried.acquire (network.resolve asked).1, ?_,
    ⟨ofFamily, rfl, network.locator_resolve asked, ?_, free, tried, later, rfl⟩, ?_⟩
  · have sameFamily : asked.family = family := (Address.family_mk_ofIp _ port).trans ofFamily
    rw [bind, if_pos sameFamily, succeeds]
  · exact fun small => port_resolve_ne_zero small asked
  · intro given
    have given : asked.port ≠ 0 := given
    rw [resolve_of_ne_zero given]
    rfl

/-- A socket of another family than its IP's is not bound. -/
theorem bind_of_family_ne (foreign : (ip.getD (.unspecified family)).family ≠ family) :
    bind network family ip port =
      (.error (.unsupportedAddress ⟨ip.getD (.unspecified family), port⟩), network) := by
  have otherFamily : (⟨ip.getD (.unspecified family), port⟩ : Address).family ≠ family := by
    rwa [Address.family_mk_ofIp]
  rw [bind, if_neg otherFamily]

/-- What comes of trying a port is a socket, on that port if one was asked for, or
nothing but an attempt that failed. -/
theorem bind_outcome (network : Network) (family : Family) (ip : Option Ip) (port : UInt16) :
    (∃ connection after, bind network family ip port = (.ok connection, after) ∧
      Opened network family (ip.getD (.unspecified family)) connection after ∧
      (port ≠ 0 → connection.port = port)) ∨
    ∃ error after, bind network family ip port = (.error error, after) ∧ Tried network after := by
  by_cases ofFamily : (ip.getD (.unspecified family)).family = family
  · cases used : network.inUse (network.resolve ⟨ip.getD (.unspecified family), port⟩).1 with
    | false => exact .inl (bind_of_not_inUse ofFamily used)
    | true =>
      obtain ⟨after, fails, later, -⟩ := bind_of_inUse ofFamily used
      exact .inr ⟨_, after, fails, later⟩
  · exact .inr ⟨_, network, bind_of_family_ne ofFamily, .refl network⟩

/-! ## The first of some ports -/

/-- What comes of trying ports is a socket, or nothing but attempts that failed. -/
theorem bindNext_outcome (network : Network) (family : Family) (ip : Option Ip) (tried : Nat)
    (ports : List UInt16) :
    (∃ connection after, bindNext family ip tried ports network = (.ok connection, after) ∧
      Opened network family (ip.getD (.unspecified family)) connection after) ∨
    ∃ error after, bindNext family ip tried ports network = (.error error, after) ∧
      Tried network after := by
  induction ports generalizing network tried with
  | nil => exact .inr ⟨_, network, rfl, .refl network⟩
  | cons port ports ih =>
    rw [bindNext]
    rcases bind_outcome network family ip port with
      ⟨connection, after, succeeds, opened, -⟩ | ⟨error, after, fails, first⟩
    · rw [succeeds]
      exact .inl ⟨connection, after, rfl, opened⟩
    · rw [fails]
      cases error with
      | system fault =>
        rcases ih after (tried + 1) with
          ⟨connection, last, succeeds, opened⟩ | ⟨error, last, fails, later⟩
        · exact .inl ⟨connection, last, succeeds, opened.of_tried first⟩
        · exact .inr ⟨error, last, fails, first.trans later⟩
      | _ => exact .inr ⟨_, after, rfl, first⟩

/-- Of some ports one is bound exactly if one is free when its turn comes. -/
theorem exists_bindNext_iff (ofFamily : (ip.getD (.unspecified family)).family = family)
    (network : Network) (tried : Nat) (ports : List UInt16) :
    (∃ connection, (bindNext family ip tried ports network).1 = .ok connection) ↔
      network.Free (ip.getD (.unspecified family)) ports := by
  induction ports generalizing network tried with
  | nil => exact iff_of_false nofun not_free_nil
  | cons port ports ih =>
    rw [bindNext, free_cons_iff]
    cases used : network.inUse (network.resolve ⟨ip.getD (.unspecified family), port⟩).1 with
    | false =>
      obtain ⟨connection, after, succeeds, -⟩ := bind_of_not_inUse ofFamily used
      rw [succeeds]
      exact iff_of_true ⟨connection, rfl⟩ (.inl rfl)
    | true =>
      obtain ⟨after, fails, first, counted⟩ := bind_of_inUse ofFamily used
      have chosen := network.tried_resolve ⟨ip.getD (.unspecified family), port⟩
      have channels := first.channels.trans chosen.channels.symm
      rw [fails]
      dsimp only
      rw [ih after (tried + 1), free_congr channels counted]
      simp

end Connection

end Kademlia
