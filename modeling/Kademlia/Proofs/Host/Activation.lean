import Kademlia.Proofs.Host.Setup

/-!
# Activation is all or nothing

A setup of an absent family either makes its stack active and returns commands for
it, or leaves the host as it is.  Which of both depends on the address to listen
on, on the ports that are free, and on whether sockets may have further handles.
-/

namespace Kademlia

/-- A world that another one may have become by setups that failed: random bytes
were used, attempts to bind were made, and tracker clients that nobody has. -/
structure World.Undisturbed (before after : World) : Prop where
  now : after.now = before.now
  epoch : after.epoch = before.epoch
  disk : after.disk = before.disk
  names : after.names = before.names
  network : before.network.Tried after.network
  clients : before.clients <+: after.clients

/-- The tracker clients that there were are as they were. -/
theorem World.Undisturbed.client?_eq {before after : World} (undisturbed : before.Undisturbed after)
    {handle : ClientHandle} (made : handle < before.clients.length) :
    after.client? handle = before.client? handle := by
  obtain ⟨more, clients⟩ := undisturbed.clients
  rw [client?, client?, ← clients, List.getElem?_append_left made]

/-- There is a host to join the network through. -/
def FamilyConfig.joins (config : FamilyConfig) : Bool :=
  config.entryPoint.any fun point => !point.isBlank

namespace Site

open Connection Network

variable {site : Site} {family : Family}

/-- The kinds of the commands of a stack: five fixed ones, and those to recover and
to join if there is anything to recover or to join. -/
def kinds (recovered joins : Bool) : List String :=
  ["Interaction", "TokenUpdate", "BucketRefresh", "PeerAnnounce", "AutoSave"] ++
    (if recovered then ["ForcedBucketRefresh"] else []) ++
    if joins then ["EntryPointNameResolve"] else []

theorem map_kind_actions (config : FamilyConfig) (readiness : Address)
    (client : Option ClientHandle) (recovered : Bool) :
    (actions config readiness client recovered).1.map Action.kind =
      kinds recovered config.joins := by
  unfold actions FamilyConfig.joins
  cases entry : config.entryPoint with
  | none => cases recovered <;> rfl
  | some point =>
    dsimp only [Option.any_some]
    cases blank : point.isBlank with
    | true => cases recovered <;> rfl
    | false => cases recovered <;> rfl

theorem kinds_ne_nil (recovered joins : Bool) : kinds recovered joins ≠ [] := by
  cases recovered <;> cases joins <;> decide

/-! ## What a setup comes to -/

/-- A site after a setup that made a stack active and returned commands. -/
structure Activated (before : Site) (family : Family) (stack : Stack) (commands : List Command)
    (after : Site) : Prop where
  slot : after.host.slot family = .active stack
  other : ∀ other, other ≠ family → after.host.slot other = before.host.slot other
  config : after.host.config = before.host.config
  wired : stack.FullyWired
  stack_family : stack.family = family
  local_port : stack.localNode.port = stack.connection.port
  port_ne_zero : before.world.network.ephemeral < ephemeralPorts → stack.connection.port ≠ 0
  host_port : after.host.udpPort = stack.connection.port
  shared_port : before.host.udpPort = 0 ∨ before.host.udpPort = stack.connection.port
  kinds_eq : commands.map (·.action.kind) =
    kinds (!(before.loadState family).1.nodes.isEmpty) (before.host.config.forFamily family).joins
  cuids_eq : commands.map Command.cuid = List.range' before.host.nextCuid commands.length
  family_eq : ∀ command ∈ commands, command.family = family
  nextCuid : after.host.nextCuid = before.host.nextCuid + commands.length
  ephemeral : before.world.network.ephemeral < ephemeralPorts →
    after.world.network.ephemeral < ephemeralPorts

theorem Activated.commands_ne_nil {before after : Site} {stack : Stack} {commands : List Command}
    (activated : Activated before family stack commands after) : commands ≠ [] := by
  rintro rfl
  exact kinds_ne_nil _ _ activated.kinds_eq.symm

theorem Activated.stack?_eq {before after : Site} {stack : Stack} {commands : List Command}
    (activated : Activated before family stack commands after) :
    after.host.stack? family = some stack := by
  rw [Host.stack?, activated.slot]
  rfl

theorem setUpFamily_of_not_absent (present : site.host.slot family ≠ .absent) :
    site.setUpFamily family = ([], [], site) := by
  unfold setUpFamily
  cases there : site.host.slot family with
  | absent => exact absurd there present
  | activating stack => rfl
  | active stack => rfl

theorem setUpFamily_of_unbound {error : Error} {network : Network}
    (absent : site.host.slot family = .absent)
    (fails : site.bindSocket family = (.error error, site.setNetwork network)) :
    ∃ log, site.setUpFamily family = ([], log, site.setNetwork network) := by
  unfold setUpFamily
  rw [absent, fails]
  exact ⟨_, rfl⟩

theorem setUpFamily_of_bound {connection : Connection} {network : Network}
    (absent : site.host.slot family = .absent)
    (succeeds : site.bindSocket family = (.ok connection, site.setNetwork network)) :
    ∃ loaded, site.setUpFamily family =
      match (site.setNetwork network).setUpStack family (site.loadState family).1 connection with
      | (.error _, site) => ([], loaded ++ [.disabled], site)
      | (.ok (commands, log), site) => (commands, loaded ++ log ++ [.enabled], site) := by
  unfold setUpFamily
  rw [absent, succeeds]
  exact ⟨_, rfl⟩

/-- A setup that is refused a handle to its socket closes it, and leaves the host as
it was. -/
theorem setUpFamily_of_refused {connection : Connection} {network : Network}
    (absent : site.host.slot family = .absent)
    (succeeds : site.bindSocket family = (.ok connection, site.setNetwork network))
    (opened : Opened site.world.network family (site.listenIp family) connection network)
    (refuses : site.world.network.refusesClones = true) :
    ∃ log after, site.setUpFamily family = ([], log, after) ∧ after.host = site.host ∧
      site.world.Undisturbed after.world := by
  obtain ⟨loaded, whole⟩ := setUpFamily_of_bound absent succeeds
  have stillAbsent : (site.setNetwork network).host.slot family = .absent := absent
  have refused : connection.readinessHandle (site.setNetwork network).world.network =
      .error (.system .cloneRefused) :=
    clone_of_refused (opened.refusesClones.trans refuses) connection.localAddress
  obtain ⟨drawn, entropy, fails, -⟩ :=
    setUpStack_eq stillAbsent (site.loadState family).1 connection
  rw [whole, fails _ refused]
  refine ⟨_, _, rfl, rfl, ?_⟩
  cases family with
  | ipv4 => exact ⟨rfl, rfl, rfl, rfl, opened.release, List.prefix_append _ _⟩
  | ipv6 => exact ⟨rfl, rfl, rfl, rfl, opened.release, List.prefix_rfl⟩

/-- A setup that can bind a socket, and gets a further handle to it, makes its stack
active. -/
theorem setUpFamily_of_allowed {connection : Connection} {network : Network}
    (absent : site.host.slot family = .absent)
    (succeeds : site.bindSocket family = (.ok connection, site.setNetwork network))
    (opened : Opened site.world.network family (site.listenIp family) connection network)
    (port : site.host.udpPort ≠ 0 → connection.port = site.host.udpPort)
    (allows : site.world.network.refusesClones = false) :
    ∃ stack commands log after, site.setUpFamily family = (commands, log, after) ∧
      Activated site family stack commands after := by
  obtain ⟨loaded, whole⟩ := setUpFamily_of_bound absent succeeds
  have stillAbsent : (site.setNetwork network).host.slot family = .absent := absent
  obtain ⟨shared, cloned⟩ :=
    exists_clone (opened.refusesClones.trans allows) connection.localAddress
  obtain ⟨drawn, entropy, -, makes⟩ :=
    setUpStack_eq stillAbsent (site.loadState family).1 connection
  obtain ⟨commands, log, numbered, comes⟩ := makes shared cloned
  have fresh := (site.setNetwork network).persists_newStack (site.loadState family).1 connection
    drawn
  have kinds_eq := congrArg (List.map Action.kind) numbered.actions_eq
  rw [List.map_map, map_kind_actions] at kinds_eq
  have ports : (site.host.udpPort = 0 ∨ site.host.udpPort = connection.port) ∧
      (if site.host.udpPort = 0 then connection.port else site.host.udpPort) =
        connection.port := by
    by_cases portless : site.host.udpPort = 0
    · exact ⟨.inl portless, if_pos portless⟩
    · exact ⟨.inr (port portless).symm, (if_neg portless).trans (port portless).symm⟩
  rw [whole, comes]
  refine ⟨(site.setNetwork network).newStack (site.loadState family).1 connection drawn, commands,
    _, _, rfl, ?_⟩
  constructor
  case slot => cases family <;> rfl
  case other =>
    intro other different
    cases family with
    | ipv4 =>
      cases other with
      | ipv4 => exact absurd rfl different
      | ipv6 => rfl
    | ipv6 =>
      cases other with
      | ipv4 => rfl
      | ipv6 => exact absurd rfl different
  case config => cases family <;> rfl
  case wired => exact fresh.fullyWired (Stack.fullyWired_assembled _ _ _ _ _)
  case stack_family => exact fresh.family.trans opened.connection_family
  case local_port =>
    rw [fresh.localNode, fresh.connection]
    exact (site.setNetwork network).port_newNode _ connection
  case port_ne_zero =>
    rw [fresh.connection]
    exact opened.port_ne_zero
  case host_port =>
    rw [fresh.connection]
    exact ports.2
  case shared_port =>
    rw [fresh.connection]
    exact ports.1
  case kinds_eq => exact kinds_eq
  case cuids_eq => exact numbered.cuids_eq
  case family_eq => exact numbered.family_eq
  case nextCuid => rfl
  case ephemeral =>
    intro small
    have kept := ephemeral_clone cloned
    change shared.ephemeral < ephemeralPorts
    rw [kept]
    exact opened.ephemeral small

/-- A setup of an absent family makes its stack active, or leaves the host as it
was. -/
theorem setUpFamily_outcome (absent : site.host.slot family = .absent) :
    (∃ log after, site.setUpFamily family = ([], log, after) ∧ after.host = site.host ∧
      site.world.Undisturbed after.world) ∨
    ∃ stack commands log after, site.setUpFamily family = (commands, log, after) ∧
      Activated site family stack commands after := by
  rcases site.bindSocket_outcome family with
    ⟨connection, network, succeeds, opened, port⟩ | ⟨error, network, fails, tried⟩
  · cases refuses : site.world.network.refusesClones with
    | true => exact .inl (setUpFamily_of_refused absent succeeds opened refuses)
    | false => exact .inr (setUpFamily_of_allowed absent succeeds opened port refuses)
  · obtain ⟨log, whole⟩ := setUpFamily_of_unbound absent fails
    exact .inl ⟨log, site.setNetwork network, whole, rfl, rfl, rfl, rfl, rfl, tried,
      List.prefix_rfl⟩

/-- A setup of an absent family succeeds exactly if the address to listen on is of
the family, there is a free port, and sockets may have further handles. -/
theorem setUpFamily_ne_nil_iff (absent : site.host.slot family = .absent) :
    (site.setUpFamily family).1 ≠ [] ↔
      (site.listenIp family).family = family ∧ site.HasFreePort family ∧
        site.world.network.refusesClones = false := by
  have bindable := site.exists_bindSocket_iff family
  rcases site.bindSocket_outcome family with
    ⟨connection, network, succeeds, opened, port⟩ | ⟨error, network, fails, tried⟩
  · obtain ⟨ofFamily, free⟩ := bindable.1 ⟨connection, congrArg Prod.fst succeeds⟩
    cases refuses : site.world.network.refusesClones with
    | true =>
      obtain ⟨log, after, whole, -⟩ := setUpFamily_of_refused absent succeeds opened refuses
      rw [whole]
      exact iff_of_false (fun filled => filled rfl) fun all => nomatch all.2.2
    | false =>
      obtain ⟨stack, commands, log, after, whole, activated⟩ :=
        setUpFamily_of_allowed absent succeeds opened port refuses
      rw [whole]
      exact iff_of_true activated.commands_ne_nil ⟨ofFamily, free, rfl⟩
  · obtain ⟨log, whole⟩ := setUpFamily_of_unbound absent fails
    have unbindable : ¬ ∃ connection, (site.bindSocket family).1 = .ok connection := by
      rw [fails]
      exact nofun
    rw [whole]
    exact iff_of_false (fun filled => filled rfl) fun all =>
      unbindable (bindable.2 ⟨all.1, all.2.1⟩)

end Site

end Kademlia
