import Kademlia.Proofs.Host.Activation
import Kademlia.Proofs.Network.Candidates

/-!
# Which ports a setup tries

Without a port of its own a host tries the candidates that are configured, in their order;
with one it tries that port alone, whatever the candidates are.
-/

namespace Kademlia.Site

open Network

variable {site : Site} {family : Family} {connection : Connection} {network : Network}

/-- What a host with a port does to bind a socket. -/
theorem bindSocket_of_ne_zero (given : site.host.udpPort ≠ 0) (family : Family) :
    site.bindSocket family =
      ((Connection.bind site.world.network family
          (site.host.config.forFamily family).listenAddress site.host.udpPort).1,
        site.setNetwork (Connection.bind site.world.network family
          (site.host.config.forFamily family).listenAddress site.host.udpPort).2) := by
  unfold bindSocket
  dsimp only
  rw [if_neg given]

/-- Around a socket that is bound, a setup tries no other. -/
theorem attempted_setUpStack (absent : site.host.slot family = .absent) (snapshot : Snapshot)
    (connection : Connection) :
    (site.setUpStack family snapshot connection).2.world.network.attempted =
      site.world.network.attempted := by
  obtain ⟨drawn, entropy, fails, succeeds⟩ := setUpStack_eq absent snapshot connection
  cases handle : connection.readinessHandle site.world.network with
  | error error =>
    rw [fails error handle]
    exact attempted_release _ _
  | ok network =>
    obtain ⟨commands, log, -, comes⟩ := succeeds network handle
    rw [comes]
    exact attempted_clone handle

/-- The network that a setup leaves, and its commands, as far as the socket decides them. -/
theorem setUpFamily_of_socket (absent : site.host.slot family = .absent)
    (succeeds : site.bindSocket family = (.ok connection, site.setNetwork network)) :
    (site.setUpFamily family).2.2.world.network.attempted = network.attempted ∧
      (network.refusesClones = false →
        ∃ stack, (site.setUpFamily family).2.2.host.stack? family = some stack ∧
          stack.connection = connection) := by
  obtain ⟨loaded, whole⟩ := setUpFamily_of_bound absent succeeds
  have stillAbsent : (site.setNetwork network).host.slot family = .absent := absent
  have attempted := attempted_setUpStack stillAbsent (site.loadState family).1 connection
  constructor
  · rw [whole, ← show (site.setNetwork network).world.network.attempted = network.attempted from rfl,
      ← attempted]
    split
    · rename_i fails
      rw [fails]
    · rename_i makes
      rw [makes]
  · intro allows
    obtain ⟨shared, handle⟩ := exists_clone allows connection.localAddress
    obtain ⟨commands, log, later, entropy, client, makes, active, -⟩ :=
      setUpStack_eq_ok stillAbsent handle (site.loadState family).1
    refine ⟨_, ?_, ((site.setNetwork network).persists_newStack (site.loadState family).1
      connection entropy).connection⟩
    rw [whole, makes]
    exact active

/-- What a setup tries and comes to on a host that has a port. -/
theorem setUpFamily_on_port (given : site.host.udpPort ≠ 0) (family : Family) :
    let after := (site.setUpFamily family).2.2
    let address : Address := ⟨site.listenIp family, site.host.udpPort⟩
    after.world.network.attempts =
        site.world.network.attempts ++
          (if site.host.slot family = .absent ∧ address.family = family then [address] else []) ∧
      (site.world.network.Taken family site.host.udpPort →
        (site.setUpFamily family).1 = [] ∧
          after.world.network.channels = site.world.network.channels) ∧
      (site.host.slot family = .absent → address.family = family →
        ¬ site.world.network.Taken family site.host.udpPort →
        site.world.network.refusesClones = false →
        ∃ stack, after.host.stack? family = some stack ∧ stack.connection = ⟨family, address⟩) := by
  intro after address
  let ip := (site.host.config.forFamily family).listenAddress
  have bound := bindSocket_of_ne_zero given family
  have offered := offer_of_ne_zero given site.world.network []
  have family_eq : address.family = (ip.getD (.unspecified family)).family :=
    Address.family_mk_ofIp _ _
  by_cases absent : site.host.slot family = .absent
  · by_cases ofFamily : address.family = family
    · have ipFamily := family_eq.symm.trans ofFamily
      rw [if_pos ⟨absent, ofFamily⟩]
      by_cases taken : site.world.network.Taken family site.host.udpPort
      · have busy := taken
        rw [← offered] at busy
        rw [Connection.bind_of_taken ipFamily busy] at bound
        obtain ⟨log, comes⟩ := setUpFamily_of_unbound absent bound
        have same : after = site.setNetwork
            (site.world.network.attempting (site.listenIp family) [site.host.udpPort]) := by
          change (site.setUpFamily family).2.2 = _
          rw [comes]
          rfl
        refine ⟨?_, fun _ => ⟨by rw [comes], by rw [same]; rfl⟩, fun _ _ free => absurd taken free⟩
        rw [same]
        exact attempts_attempting _ _ _
      · have free := taken
        rw [← offered] at free
        rw [Connection.bind_of_free ipFamily free] at bound
        obtain ⟨attempted, active⟩ := setUpFamily_of_socket absent bound
        refine ⟨?_, fun busy => absurd busy taken, fun _ _ _ allows => ?_⟩
        · rw [attempts, attempted, attempted_acquire]
          exact attempts_attempting site.world.network (site.listenIp family) [site.host.udpPort]
        · obtain ⟨stack, there, socket⟩ := active ((refusesClones_acquire _ _).trans allows)
          exact ⟨stack, there, socket.trans (by rw [offered]; rfl)⟩
    · rw [if_neg fun both => ofFamily both.2, List.append_nil]
      rw [Connection.bind_of_family_ne (family_eq ▸ ofFamily)] at bound
      obtain ⟨log, comes⟩ := setUpFamily_of_unbound absent bound
      have same : after = site := by
        change (site.setUpFamily family).2.2 = _
        rw [comes]
        rfl
      refine ⟨by rw [same], fun _ => ⟨by rw [comes], by rw [same]⟩, fun _ own => absurd own ofFamily⟩
  · have comes := setUpFamily_of_not_absent absent
    have same : after = site := by
      change (site.setUpFamily family).2.2 = _
      rw [comes]
    rw [if_neg fun both => absent both.1, List.append_nil]
    exact ⟨by rw [same], fun _ => ⟨by rw [comes], by rw [same]⟩, fun there => absurd there absent⟩

/-- Candidates for a port are tried in their order, up to the first one that is not taken when
its turn comes, and that one is bound; if all are taken, each is tried once and nothing is
bound.  With an IP of the other family nothing is tried.  A candidate zero stands for the next
ephemeral port.  A setup of a host that has a port tries that port once and no candidate. -/
theorem candidates_tried_in_order (network : Network) (family : Family) (ip : Option Ip)
    (ports : List UInt16) :
    let listenIp := ip.getD (.unspecified family)
    let asked := fun port : UInt16 => (⟨listenIp, port⟩ : Address)
    (listenIp.family = family →
      (network.AllTaken family ports ∨
        ∃ earlier port, network.FirstFree family ports earlier port) ∧
      (∀ earlier port, network.FirstFree family ports earlier port →
        ∃ after, Connection.bindCandidates network family ip ports =
            (.ok ⟨family, asked (network.offer earlier port)⟩, after) ∧
          after.attempts = network.attempts ++ (earlier ++ [port]).map asked ∧
          after.channels =
            network.channels ++ [(asked (network.offer earlier port), ⟨1, []⟩)] ∧
          after.refusesClones = network.refusesClones ∧
          after.ephemeral = network.nextEphemeral ((earlier ++ [port]).count 0)) ∧
      (network.AllTaken family ports →
        ∃ after, Connection.bindCandidates network family ip ports =
            (.error (.portsExhausted ports.length), after) ∧
          after.attempts = network.attempts ++ ports.map asked ∧
          after.channels = network.channels ∧
          after.refusesClones = network.refusesClones ∧
          after.ephemeral = network.nextEphemeral (ports.count 0))) ∧
    (listenIp.family ≠ family →
      Connection.bindCandidates network family ip [] = (.error (.portsExhausted 0), network) ∧
      ∀ port rest, Connection.bindCandidates network family ip (port :: rest) =
        (.error (.unsupportedAddress (asked port)), network)) ∧
    (network.ephemeral < ephemeralPorts → ∀ earlier, network.offer earlier 0 =
      UInt16.ofNat
        (firstEphemeral + (network.ephemeral + earlier.count 0) % ephemeralPorts)) ∧
    ∀ (site : Site) (family : Family), site.host.udpPort ≠ 0 →
      let after := (site.setUpFamily family).2.2
      let address : Address := ⟨site.listenIp family, site.host.udpPort⟩
      after.world.network.attempts =
          site.world.network.attempts ++
            (if site.host.slot family = .absent ∧ address.family = family then [address]
              else []) ∧
        (site.world.network.Taken family site.host.udpPort →
          (site.setUpFamily family).1 = [] ∧
            after.world.network.channels = site.world.network.channels) ∧
        (site.host.slot family = .absent → address.family = family →
          ¬ site.world.network.Taken family site.host.udpPort →
          site.world.network.refusesClones = false →
          ∃ stack, after.host.stack? family = some stack ∧
            stack.connection = ⟨family, address⟩) := by
  intro listenIp asked
  refine ⟨fun ofFamily => ⟨network.allTaken_or_exists_firstFree family ports, ?_, ?_⟩,
    fun foreign => ⟨rfl, fun port rest => ?_⟩, fun small earlier => ?_,
    fun site family given => setUpFamily_on_port given family⟩
  · rintro earlier port ⟨⟨later, rfl⟩, taken, free⟩
    have own : ¬ (network.attempting listenIp (earlier ++ [port])).Taken listenIp.family
        (network.offer earlier port) := by
      rw [ofFamily]
      exact free
    refine ⟨_, Connection.bindNext_of_free ofFamily taken free 0 later, ?_, channels_acquire own,
      refusesClones_acquire _ _, ephemeral_acquire _ _⟩
    rw [attempts, attempted_acquire]
    exact network.attempts_attempting listenIp (earlier ++ [port])
  · intro taken
    have comes := Connection.bindNext_of_allTaken ofFamily taken 0
    rw [Nat.zero_add] at comes
    exact ⟨_, comes, network.attempts_attempting listenIp ports, rfl, rfl, rfl⟩
  · exact Connection.bindNext_of_family_ne foreign 0 port rest network
  · rw [offer, if_pos rfl, nextEphemeral_eq small]

/-- With a port bound, the next candidate stands for an ephemeral port and is bound; without
further candidates nothing is, and nothing is tried on an IP of the other family.  A host
that has the port which is bound gets no stack, though a candidate is free. -/
theorem candidates_tried_in_order_one_taken :
    let home : Address := ⟨.v4 (.zero 4), 6881⟩
    let network : Network := ⟨[(home, ⟨1, []⟩)], [], false, 0⟩
    let config : Config := ⟨[6882], 1000, ⟨"dht.dat", none, none⟩, ⟨"dht6.dat", none, none⟩⟩
    let world : World := ⟨0, 1700000000, ⟨1⟩, network, .empty, ⟨[]⟩, []⟩
    let site : Site := ⟨world, { Host.start config with udpPort := 6881 }⟩
    ((none : Option Ip).getD (.unspecified .ipv4)).family = .ipv4 ∧
      network.FirstFree .ipv4 [6881, 0, 6882] [6881] 0 ∧
      (∃ after, Connection.bindCandidates network .ipv4 none [6881, 0, 6882] =
          (.ok ⟨.ipv4, ⟨.v4 (.zero 4), 49152⟩⟩, after) ∧
        after.attempts = [home, ⟨.v4 (.zero 4), 0⟩] ∧ after.ephemeral = 1) ∧
      network.AllTaken .ipv4 [6881] ∧
      (∃ after, Connection.bindCandidates network .ipv4 none [6881] =
          (.error (.portsExhausted 1), after) ∧ after.attempts = [home]) ∧
      ((some (.v6 (.zero 16)) : Option Ip).getD (.unspecified .ipv4)).family ≠ .ipv4 ∧
      Connection.bindCandidates network .ipv4 (some (.v6 (.zero 16))) [6882] =
        (.error (.unsupportedAddress ⟨.v6 (.zero 16) 0 0, 6882⟩), network) ∧
      network.ephemeral < ephemeralPorts ∧ network.offer [6881] 0 = 49152 ∧
      site.host.udpPort ≠ 0 ∧ network.Taken .ipv4 6881 ∧ (site.setUpFamily .ipv4).1 = [] ∧
      (site.setUpFamily .ipv4).2.2.world.network.attempts = [home] := by
  intro home network config world site
  have taken : network.Taken .ipv4 6881 :=
    inUse_iff.1 (show network.inUse home = true from rfl)
  have free : ¬ network.Taken .ipv4 (network.offer [6881] 0) := by
    intro busy
    exact absurd (inUse_iff.2 busy : network.inUse ⟨.v4 (.zero 4), 49152⟩ = true) (by decide)
  have allTaken : network.AllTaken .ipv4 [6881] :=
    (allTaken_cons_iff home.ip).2 ⟨taken, allTaken_nil⟩
  have firstFree : network.FirstFree .ipv4 [6881, 0, 6882] [6881] 0 := ⟨⟨[6882], rfl⟩, allTaken, free⟩
  obtain ⟨own, -, ephemeral, onPort⟩ := candidates_tried_in_order network .ipv4 none [6881, 0, 6882]
  obtain ⟨-, binds, -⟩ := own rfl
  obtain ⟨after, comes, tried, -, -, counted⟩ := binds [6881] 0 firstFree
  obtain ⟨few, -⟩ := candidates_tried_in_order network .ipv4 none [6881]
  obtain ⟨-, -, exhausts⟩ := few rfl
  obtain ⟨last, fails, triedAll, -⟩ := exhausts allTaken
  obtain ⟨-, foreign, -⟩ :=
    candidates_tried_in_order network .ipv4 (some (.v6 (.zero 16))) [6882]
  obtain ⟨attempts, refused, -⟩ := onPort site .ipv4 (by decide)
  refine ⟨rfl, firstFree, ⟨after, comes, tried, counted⟩, allTaken, ⟨last, fails, triedAll⟩,
    by decide, (foreign (by decide)).2 6882 [], by decide, ephemeral (by decide) [6881],
    by decide, taken, (refused taken).1, attempts⟩

end Kademlia.Site
