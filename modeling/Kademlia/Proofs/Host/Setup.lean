import Kademlia.Host.Setup
import Kademlia.Proofs.Network.Binding
import Kademlia.Proofs.Outcome
import Kademlia.Proofs.Stack.Frame

/-!
# What a setup does

A setup of an absent family fails where its socket cannot be bound, or where no
further handle to the socket can be made, and then takes back what it did.  If it
succeeds, the stack that is active then is a new one with the nodes that were
saved.
-/

namespace Kademlia.Site

open Connection Network

variable {site : Site} {family : Family} {connection : Connection} {snapshot : Snapshot}

/-! ## Binding -/

/-- The IP that the socket of a family is bound on. -/
def listenIp (site : Site) (family : Family) : Ip :=
  (site.host.config.forFamily family).listenAddress.getD (.unspecified family)

/-- There is a port to bind: the host's own is free, or, while it has none, one of
those configured. -/
def HasFreePort (site : Site) (family : Family) : Prop :=
  if site.host.udpPort = 0 then
    site.world.network.Free (site.listenIp family) site.host.config.listenPorts
  else site.world.network.inUse ⟨site.listenIp family, site.host.udpPort⟩ = false

/-- Binding a socket changes the network only. -/
theorem bindSocket_frame (site : Site) (family : Family) :
    ∃ network, (site.bindSocket family).2 = site.setNetwork network :=
  ⟨_, rfl⟩

/-- What comes of binding is a socket, on the host's port if it has one, or nothing
but attempts that failed. -/
theorem bindSocket_outcome (site : Site) (family : Family) :
    (∃ connection network, site.bindSocket family = (.ok connection, site.setNetwork network) ∧
      Opened site.world.network family (site.listenIp family) connection network ∧
      (site.host.udpPort ≠ 0 → connection.port = site.host.udpPort)) ∨
    ∃ error network, site.bindSocket family = (.error error, site.setNetwork network) ∧
      Tried site.world.network network := by
  let ip := (site.host.config.forFamily family).listenAddress
  unfold bindSocket
  dsimp only
  split
  · rename_i unset
    rcases bindNext_outcome site.world.network family ip 0 site.host.config.listenPorts with
      ⟨connection, network, succeeds, opened⟩ | ⟨error, network, fails, tried⟩
    · rw [bindCandidates, succeeds]
      exact .inl ⟨connection, network, rfl, opened, fun given => absurd unset given⟩
    · rw [bindCandidates, fails]
      exact .inr ⟨error, network, rfl, tried⟩
  · rename_i given
    rcases bind_outcome site.world.network family ip site.host.udpPort with
      ⟨connection, network, succeeds, opened, port⟩ | ⟨error, network, fails, tried⟩
    · rw [succeeds]
      exact .inl ⟨connection, network, rfl, opened, fun _ => port given⟩
    · rw [fails]
      exact .inr ⟨error, network, rfl, tried⟩

/-- A socket that is bound for a family is of that family. -/
theorem family_of_bindSocket (bound : (site.bindSocket family).1 = .ok connection) :
    connection.family = family := by
  rcases site.bindSocket_outcome family with
    ⟨other, network, succeeds, opened, -⟩ | ⟨error, network, fails, -⟩
  · rw [succeeds] at bound
    cases bound
    exact opened.connection_family
  · rw [fails] at bound
    cases bound

/-- A socket can be bound exactly if the IP is of the family and there is a free
port. -/
theorem exists_bindSocket_iff (site : Site) (family : Family) :
    (∃ connection, (site.bindSocket family).1 = .ok connection) ↔
      (site.listenIp family).family = family ∧ site.HasFreePort family := by
  have fails_of_ne (foreign : (site.listenIp family).family ≠ family) :
      ¬ ∃ connection, (site.bindSocket family).1 = .ok connection := by
    rintro ⟨connection, bound⟩
    rcases site.bindSocket_outcome family with
      ⟨other, network, -, opened, -⟩ | ⟨error, network, fails, -⟩
    · exact foreign opened.ip_family
    · rw [fails] at bound
      cases bound
  by_cases ofFamily : (site.listenIp family).family = family
  · unfold bindSocket HasFreePort
    rw [and_iff_right ofFamily]
    dsimp only
    split
    · exact exists_bindNext_iff ofFamily site.world.network 0 site.host.config.listenPorts
    · rename_i given
      have given : (⟨site.listenIp family, site.host.udpPort⟩ : Address).port ≠ 0 := given
      have asked := resolve_of_ne_zero given site.world.network
      cases used : site.world.network.inUse ⟨site.listenIp family, site.host.udpPort⟩ with
      | false =>
        obtain ⟨connection, after, succeeds, -⟩ :=
          bind_of_not_inUse ofFamily (by rw [← listenIp, asked]; exact used)
        rw [succeeds]
        exact iff_of_true ⟨connection, rfl⟩ rfl
      | true =>
        obtain ⟨after, fails, -⟩ :=
          Connection.bind_of_inUse ofFamily (by rw [← listenIp, asked]; exact used)
        rw [fails]
        exact iff_of_false nofun nofun
  · exact iff_of_false (fails_of_ne ofFamily) fun both => ofFamily both.1

/-! ## The new stack -/

/-- The id that a new stack has: the one that was saved, or a random one. -/
def newNode (site : Site) (snapshot : Snapshot) (connection : Connection) : LocalNode :=
  (site.identify snapshot connection).1

/-- Choosing an id uses random bytes at most. -/
theorem identify_eq (site : Site) (snapshot : Snapshot) (connection : Connection) :
    ∃ entropy, site.identify snapshot connection =
      (site.newNode snapshot connection, site.setEntropy entropy) := by
  unfold newNode identify
  cases snapshot.localNode with
  | some saved => exact ⟨site.world.entropy, rfl⟩
  | none => exact ⟨_, rfl⟩

theorem port_newNode (site : Site) (snapshot : Snapshot) (connection : Connection) :
    (site.newNode snapshot connection).port = connection.port := by
  unfold newNode identify
  cases snapshot.localNode with
  | some saved => rfl
  | none => rfl

/-- Building a stack always succeeds. -/
theorem build_eq (site : Site) (localNode : LocalNode) (connection : Connection) :
    ∃ entropy, site.build localNode connection =
      (.ok (.assembled localNode connection site.host.config.messageTimeout site.world.now
        site.world.entropy), site.setEntropy entropy) := by
  let made := Stack.assemble localNode connection site.host.config.messageTimeout site.world.now
    site.world.entropy
  refine ⟨made.2, ?_⟩
  change (made.1.wireAll, site.setEntropy made.2) = _
  rw [Stack.wireAll_assemble]

/-- The stack that a setup makes around a socket: a wired one, to which the saved
nodes were added. -/
def newStack (site : Site) (snapshot : Snapshot) (connection : Connection) (entropy : Entropy) :
    Stack :=
  (Stack.assembled (site.newNode snapshot connection) connection site.host.config.messageTimeout
    site.world.now entropy).addNodes site.world.now snapshot.nodes

/-- A new stack is the wired one it was before nodes were added. -/
theorem persists_newStack (site : Site) (snapshot : Snapshot) (connection : Connection)
    (entropy : Entropy) :
    (Stack.assembled (site.newNode snapshot connection) connection
      site.host.config.messageTimeout site.world.now entropy).Persists
        (site.newStack snapshot connection entropy) :=
  Stack.persists_addNodes _ site.world.now snapshot.nodes

/-! ## From staging a stack to making it active -/

/-- A site at which a setup staged a stack: random bytes were used, and the tracker
client is a new one if the family shares its socket with it. -/
def prepared (site : Site) (family : Family) (stack : Stack) (entropy : Entropy) : Site :=
  ({ site.setEntropy entropy with
    host := site.host.setSlot (.activating stack) family }.renewClient family).2

/-- The tracker client that a setup of a family makes, if any. -/
def newClient (site : Site) (family : Family) : Option ClientHandle :=
  (site.renewClient family).1

/-- Until the commands are made, a setup goes by what there was before it. -/
theorem prepared_frame (site : Site) (family : Family) (stack : Stack) (entropy : Entropy) :
    let prepared := site.prepared family stack entropy
    prepared.world.network = site.world.network ∧ prepared.host.config = site.host.config ∧
      prepared.host.nextCuid = site.host.nextCuid ∧
      prepared.host.udpPort = site.host.udpPort := by
  cases family <;> exact ⟨rfl, rfl, rfl, rfl⟩

theorem stage_eq_ok (absent : site.host.slot family = .absent) (stack : Stack)
    (entropy : Entropy) :
    (site.setEntropy entropy).stage family stack =
      .ok { site.setEntropy entropy with
        host := site.host.setSlot (.activating stack) family } := by
  change ((site.host.slot family).stage family stack).map _ = _
  rw [absent]
  rfl

/-- Nodes are added to the stack that is staged. -/
theorem seed_prepared (site : Site) (family : Family) (stack : Stack) (entropy : Entropy)
    (nodes : List Node) :
    (site.prepared family stack entropy).seed family nodes =
      site.prepared family (stack.addNodes site.world.now nodes) entropy := by
  cases family <;> rfl

/-- Rolling back empties the slot, closes the socket, and leaves the host as it was
before. -/
theorem rollBack_prepared (absent : site.host.slot family = .absent) (stack : Stack)
    (entropy : Entropy) :
    (site.prepared family stack entropy).rollBack family site.host.client =
      ⟨{ (site.prepared family stack entropy).world with
        network := site.world.network.release stack.connection.localAddress }, site.host⟩ := by
  obtain ⟨world, config, ipv4, ipv6, udpPort, client, nextCuid⟩ := site
  cases family with
  | ipv4 =>
    obtain rfl : ipv4 = .absent := absent
    rfl
  | ipv6 =>
    obtain rfl : ipv6 = .absent := absent
    rfl

/-! ## The commands -/

/-- Commands of a family that do some things in order, numbered in turn. -/
structure Numbered (family : Family) (first : Nat) (actions : List Action)
    (commands : List Command) : Prop where
  actions_eq : commands.map Command.action = actions
  cuids_eq : commands.map Command.cuid = List.range' first commands.length
  family_eq : ∀ command ∈ commands, command.family = family

/-- Numbering commands moves the number of the next one on, and nothing else. -/
theorem number_eq (family : Family) (actions : List Action) (host : Host) :
    ∃ commands, Numbered family host.nextCuid actions commands ∧
      number family actions host =
        (commands, { host with nextCuid := host.nextCuid + commands.length }) := by
  induction actions generalizing host with
  | nil => exact ⟨[], ⟨rfl, rfl, nofun⟩, rfl⟩
  | cons action actions ih =>
    obtain ⟨commands, ⟨sameActions, cuids, families⟩, numbered⟩ := ih host.newCuid.2
    refine ⟨⟨host.nextCuid, family, action⟩ :: commands, ⟨?_, ?_, ?_⟩, ?_⟩
    · rw [List.map_cons, sameActions]
    · rw [List.map_cons, cuids]
      rfl
    · exact List.forall_mem_cons.2 ⟨rfl, families⟩
    · rw [number]
      dsimp only
      rw [numbered, List.length_cons, Nat.add_comm commands.length 1, ← Nat.add_assoc]
      rfl

variable {stack : Stack} {network : Network} {error : Error}

/-- Without a further handle to the socket no commands are made. -/
theorem schedule_of_refused (whole : stack.wiring.ensureAll = .ok ())
    (refused : stack.connection.readinessHandle site.world.network = .error error)
    (client : Option ClientHandle) (recovered : Bool) :
    site.schedule family stack client recovered = .error error := by
  rw [schedule, whole, ok_bind, refused, error_bind]

/-- The commands of a wired stack are made if a further handle to its socket can be. -/
theorem schedule_eq_ok (whole : stack.wiring.ensureAll = .ok ())
    (handle : stack.connection.readinessHandle site.world.network = .ok network)
    (client : Option ClientHandle) (recovered : Bool) :
    ∃ commands log,
      Numbered family site.host.nextCuid
        (actions (site.host.config.forFamily family) stack.connection.localAddress client
          recovered).1 commands ∧
      site.schedule family stack client recovered =
        .ok (commands, log,
          ⟨{ site.world with network },
            { site.host with nextCuid := site.host.nextCuid + commands.length }⟩) := by
  let made := actions (site.host.config.forFamily family) stack.connection.localAddress client
    recovered
  obtain ⟨commands, numbered, same⟩ := number_eq family made.1 site.host
  refine ⟨commands, made.2, numbered, ?_⟩
  rw [schedule, whole, ok_bind, handle, ok_bind]
  change pure ((number family made.1 site.host).1, made.2,
    (⟨{ site.world with network }, (number family made.1 site.host).2⟩ : Site)) = _
  rw [same]
  rfl

/-- A staged stack is made active, and its port the host's if that has none. -/
theorem publish_eq_ok (staged : site.host.slot family = .activating stack)
    (connection : Connection) :
    site.publish family connection =
      .ok ⟨site.world, { site.host.setSlot (.active stack) family with
        udpPort := if site.host.udpPort = 0 then connection.port else site.host.udpPort }⟩ := by
  rw [publish, staged]
  cases family <;> rfl

/-! ## The whole setup -/

/-- A setup around a socket gets as far as making the commands. -/
theorem setUpStack_eq_schedule (absent : site.host.slot family = .absent) (snapshot : Snapshot)
    (connection : Connection) :
    ∃ drawn entropy,
      let fresh := Stack.assembled (site.newNode snapshot connection) connection
        site.host.config.messageTimeout site.world.now drawn
      let prepared := site.prepared family (site.newStack snapshot connection drawn) entropy
      site.setUpStack family snapshot connection =
        match prepared.schedule family fresh (site.newClient family) !snapshot.nodes.isEmpty with
        | .error error => (.error error, prepared.rollBack family site.host.client)
        | .ok (commands, log, scheduled) =>
            match scheduled.publish family connection with
            | .error error =>
                (.error error, (scheduled.discard commands).rollBack family site.host.client)
            | .ok published => (.ok (commands, log), published) := by
  obtain ⟨drawn, identified⟩ := site.identify_eq snapshot connection
  obtain ⟨entropy, built⟩ :=
    (site.setEntropy drawn).build_eq (site.newNode snapshot connection) connection
  let fresh := Stack.assembled (site.newNode snapshot connection) connection
    site.host.config.messageTimeout site.world.now drawn
  change (site.setEntropy drawn).build _ _ = (.ok fresh, site.setEntropy entropy) at built
  have client : ({ site.setEntropy entropy with
      host := site.host.setSlot (.activating fresh) family }.renewClient family).1 =
        site.newClient family := by
    cases family <;> rfl
  have seeded := site.seed_prepared family fresh entropy snapshot.nodes
  refine ⟨drawn, entropy, ?_⟩
  unfold setUpStack
  rw [identified]
  dsimp only
  rw [built]
  dsimp only
  rw [stage_eq_ok absent]
  dsimp only
  rw [client, ← prepared, seeded]
  rfl

/-- What a setup around a socket comes to: it rolls back if no further handle to
the socket can be made; otherwise the stack becomes active. -/
theorem setUpStack_eq (absent : site.host.slot family = .absent) (snapshot : Snapshot)
    (connection : Connection) :
    ∃ drawn entropy,
      let stack := site.newStack snapshot connection drawn
      let prepared := site.prepared family stack entropy
      (∀ error, connection.readinessHandle site.world.network = .error error →
        site.setUpStack family snapshot connection =
          (.error error, ⟨{ prepared.world with
            network := site.world.network.release connection.localAddress }, site.host⟩)) ∧
      ∀ network, connection.readinessHandle site.world.network = .ok network →
        ∃ commands log,
          Numbered family site.host.nextCuid
            (actions (site.host.config.forFamily family) connection.localAddress
              (site.newClient family) !snapshot.nodes.isEmpty).1 commands ∧
          site.setUpStack family snapshot connection =
            (.ok (commands, log),
              ⟨{ prepared.world with network },
                { prepared.host.setSlot (.active stack) family with
                  nextCuid := site.host.nextCuid + commands.length
                  udpPort := if site.host.udpPort = 0 then connection.port
                    else site.host.udpPort }⟩) := by
  obtain ⟨drawn, entropy, reached⟩ := setUpStack_eq_schedule absent snapshot connection
  let fresh := Stack.assembled (site.newNode snapshot connection) connection
    site.host.config.messageTimeout site.world.now drawn
  let stack := site.newStack snapshot connection drawn
  have whole : fresh.wiring.ensureAll = .ok () := Stack.ensureAll_wholeWiring
  have socket : stack.connection = connection :=
    (site.persists_newStack snapshot connection drawn).connection
  obtain ⟨network_eq, config_eq, nextCuid_eq, udpPort_eq⟩ :=
    site.prepared_frame family stack entropy
  refine ⟨drawn, entropy, ?_, ?_⟩
  · intro error refused
    rw [← network_eq] at refused
    have fails : (site.prepared family stack entropy).schedule family fresh
        (site.newClient family) (!snapshot.nodes.isEmpty) = .error error :=
      schedule_of_refused whole refused _ _
    rw [reached]
    dsimp only
    rw [fails]
    dsimp only
    rw [rollBack_prepared absent, socket]
  · intro network handle
    rw [← network_eq] at handle
    obtain ⟨commands, log, numbered, makes⟩ :=
      schedule_eq_ok whole handle (site.newClient family) !snapshot.nodes.isEmpty
    rw [config_eq, nextCuid_eq] at numbered
    refine ⟨commands, log, numbered, ?_⟩
    let scheduled : Site := ⟨{ (site.prepared family stack entropy).world with network },
      { (site.prepared family stack entropy).host with
        nextCuid := site.host.nextCuid + commands.length }⟩
    have staged : scheduled.host.slot family = .activating stack := by
      cases family <;> rfl
    rw [reached]
    dsimp only
    rw [makes, nextCuid_eq]
    dsimp only
    rw [publish_eq_ok staged]
    dsimp only
    rw [udpPort_eq]
    cases family <;> rfl

/-- A setup around a socket succeeds if a further handle to the socket can be made. -/
theorem setUpStack_eq_ok {network : Network} (absent : site.host.slot family = .absent)
    (handle : connection.readinessHandle site.world.network = .ok network)
    (snapshot : Snapshot) :
    ∃ commands log later entropy client,
      site.setUpStack family snapshot connection = (.ok (commands, log), later) ∧
      later.host.stack? family = some (site.newStack snapshot connection entropy) ∧
      commands.map Command.action =
        (actions (site.host.config.forFamily family) connection.localAddress client
          !snapshot.nodes.isEmpty).1 := by
  obtain ⟨drawn, entropy, -, succeeds⟩ := setUpStack_eq absent snapshot connection
  obtain ⟨commands, log, numbered, comes⟩ := succeeds network handle
  refine ⟨commands, log, _, drawn, site.newClient family, comes, ?_, numbered.actions_eq⟩
  cases family <;> rfl

end Kademlia.Site
