import Kademlia.Proofs.Host.Run

/-!
# Setups that fail

A setup that returns no commands has done nothing to the host, to the sockets that
there are, or to the files.  So it can be tried again, and succeeds once the
reason is gone.
-/

namespace Kademlia

namespace Site

variable {site : Site} {family : Family}

/-- An address to listen on is of the family that it is configured for, or there is
none. -/
theorem family_listenIp
    (ofFamily : ∀ ip, (site.host.config.forFamily family).listenAddress = some ip →
      ip.family = family) : (site.listenIp family).family = family := by
  unfold listenIp
  cases configured : (site.host.config.forFamily family).listenAddress with
  | none => exact Ip.family_unspecified family
  | some ip => exact ofFamily ip configured

end Site

namespace Program

variable {program after : Program} {host : Host} {family : Family} {log : List Notice}

theorem undisturbed_of_failed (running : program.host = some host)
    (absent : host.slot family = .absent)
    (failed : program.setUpFamily family = ([], log, after)) :
    after.host = some host ∧ after.commands = program.commands ∧
      program.world.Undisturbed after.world := by
  rcases setUpFamily_of_absent running absent with
    ⟨reported, world, fails, undisturbed⟩ | ⟨stack, commands, reported, left, succeeds, activated⟩
  · rw [fails] at failed
    cases failed
    exact ⟨rfl, rfl, undisturbed⟩
  · rw [succeeds] at failed
    exact absurd (congrArg Prod.fst failed) activated.commands_ne_nil

/-- A setup of an absent family succeeds if the address to listen on is of the
family, there is a free port, and sockets may have further handles. -/
theorem stack?_of_free (running : program.host = some host)
    (absent : host.slot family = .absent)
    (ofFamily : ∀ ip, (host.config.forFamily family).listenAddress = some ip →
      ip.family = family)
    (free : (⟨program.world, host⟩ : Site).HasFreePort family)
    (allows : program.world.network.refusesClones = false) :
    ∃ stack, (program.setUpFamily family).2.2.stack? family = some stack := by
  let site : Site := ⟨program.world, host⟩
  have absentThere : site.host.slot family = .absent := absent
  have listens : (site.listenIp family).family = family := Site.family_listenIp ofFamily
  have succeeds := (Site.setUpFamily_ne_nil_iff absentThere).2 ⟨listens, free, allows⟩
  rcases setUpFamily_of_absent running absent with
    ⟨log, world, fails, -⟩ | ⟨stack, commands, log, after, comes, activated⟩
  · rw [setUpFamily_eq running] at fails
    exact absurd (congrArg Prod.fst fails) succeeds
  · rw [comes]
    exact ⟨stack, activated.stack?_eq⟩

/-- A setup of an absent family that returns no commands leaves the host as it was:
both slots with whatever is in them, the port, the number of the next command and
the tracker client.  It leaves the commands, the files, what is bound with what
waits there, and every tracker client that there was.  Whatever happens
afterwards, if the family is absent then, the address to listen on is of the
family, there is a free port, and sockets may have further handles, then a setup
makes the family active. -/
theorem setUpFamily_atomic (running : program.host = some host)
    (absent : host.slot family = .absent)
    (failed : program.setUpFamily family = ([], log, after)) :
    after.host = some host ∧ after.commands = program.commands ∧
      program.world.Undisturbed after.world ∧
      (∀ handle < program.world.clients.length,
        after.world.client? handle = program.world.client? handle) ∧
      ∀ events host,
        let later := (after.run events).2
        later.host = some host → host.slot family = .absent →
          (∀ ip, (host.config.forFamily family).listenAddress = some ip →
            ip.family = family) →
          (⟨later.world, host⟩ : Site).HasFreePort family →
          later.world.network.refusesClones = false →
          ∃ stack, (later.setUpFamily family).2.2.stack? family = some stack := by
  obtain ⟨same, commands, undisturbed⟩ := undisturbed_of_failed running absent failed
  refine ⟨same, commands, undisturbed, fun handle made => undisturbed.client?_eq made, ?_⟩
  intro events host later stillRunning stillAbsent ofFamily free allows
  exact stack?_of_free stillRunning stillAbsent ofFamily free allows

/-- A setup of the IPv4 family that is refused a handle to its socket, beside an
IPv6 stack that is active, and that succeeds once handles are allowed. -/
theorem setUpFamily_atomic_beside_ipv6 :
    let config : Config := ⟨[6881], 1000, ⟨"dht.dat", none, none⟩, ⟨"dht6.dat", none, none⟩⟩
    let socket : Connection := ⟨.ipv6, ⟨.unspecified .ipv6, 6881⟩⟩
    let stack := Stack.assembled ⟨⟨.zero 20⟩, 6881⟩ socket 1000 0 ⟨1⟩
    let host : Host := { Host.start config with ipv6 := .active stack, udpPort := 6881 }
    let network : Network := ⟨[(socket.localAddress, ⟨2, []⟩)], [], true, 0⟩
    let world : World := ⟨0, 1700000000, ⟨1⟩, network, .empty, ⟨[]⟩, []⟩
    let program : Program := ⟨world, some host, []⟩
    let after := (program.setUpFamily .ipv4).2.2
    let later := (after.run [.refuseClones false]).2
    host.slot .ipv4 = .absent ∧ (program.setUpFamily .ipv4).1 = [] ∧ after.host = some host ∧
      after.world.network.channels = network.channels ∧
      ∃ renewed, (later.setUpFamily .ipv4).2.2.stack? .ipv4 = some renewed := by
  intro config socket stack host network world program
  have running : program.host = some host := rfl
  have absent : host.slot .ipv4 = .absent := rfl
  have refused : (program.setUpFamily .ipv4).1 = [] := by decide +kernel
  generalize outcome : program.setUpFamily .ipv4 = result at refused
  obtain ⟨commands, log, after⟩ := result
  obtain rfl : commands = [] := refused
  intro _ later
  obtain ⟨same, -, undisturbed, -, again⟩ := setUpFamily_atomic running absent outcome
  have channels : later.world.network.channels = network.channels := undisturbed.network.channels
  have free : (⟨later.world, host⟩ : Site).HasFreePort .ipv4 := by
    have given : host.udpPort ≠ 0 := by decide
    rw [Site.HasFreePort, if_neg given]
    change later.world.network.inUse _ = false
    rw [Network.inUse, channels]
    rfl
  have unset : ∀ ip, (host.config.forFamily .ipv4).listenAddress = some ip →
      ip.family = .ipv4 := by
    intro ip given
    cases given
  obtain ⟨renewed, retried⟩ := again [.refuseClones false] host same absent unset free rfl
  exact ⟨absent, rfl, same, undisturbed.network.channels, renewed, retried⟩

end Program

end Kademlia
