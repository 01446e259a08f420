import Kademlia.Host.Command

/-!
# Setting up a family

A setup loads what was saved, binds the socket, builds and stages the stack,
seeds its table, makes the commands and activates the stack.  When a step fails,
what the steps before it did to the host is taken back: the slot is absent again
and the tracker client is the one from before.
-/

namespace Kademlia

/-- A host in its world. -/
structure Site where
  world : World
  host : Host

namespace Site

/-- A site with its network changed. -/
def setNetwork (site : Site) (network : Network) : Site :=
  { site with world := { site.world with network } }

/-- A site with its random bytes used. -/
def setEntropy (site : Site) (entropy : Entropy) : Site :=
  { site with world := { site.world with entropy } }

/-- Closes a handle to a socket. -/
def close (site : Site) (address : Address) : Site :=
  site.setNetwork (site.world.network.release address)

/-! ## The steps -/

/-- What was saved for a family, as far as it is usable. -/
def loadState (site : Site) (family : Family) : Snapshot × List Notice :=
  match site.world.disk.read (site.host.config.forFamily family).stateFile with
  | .error (.system .notFound) => (.empty, [.noStateFile])
  | .error _ => (.empty, [.stateFileRefused])
  | .ok contents =>
      match Snapshot.load family contents with
      | .ok snapshot => (snapshot, [])
      | .error _ => (.empty, [.stateFileRefused])

/-- Binds the socket of a family: on the host's port, or, if there is none yet,
on the first free one of the configured ports. -/
def bindSocket (site : Site) (family : Family) : Except Error Connection × Site :=
  let ip := (site.host.config.forFamily family).listenAddress
  let (outcome, network) :=
    if site.host.udpPort = 0 then
      Connection.bindCandidates site.world.network family ip site.host.config.listenPorts
    else Connection.bind site.world.network family ip site.host.udpPort
  (outcome, site.setNetwork network)

/-- The node that a stack is: with the id that was saved, or a new one. -/
def identify (site : Site) (snapshot : Snapshot) (connection : Connection) : LocalNode × Site :=
  match snapshot.localNode with
  | some saved => (⟨saved.id, connection.port⟩, site)
  | none =>
      let (id, entropy) := Id.random site.world.entropy
      (⟨id, connection.port⟩, site.setEntropy entropy)

/-- Builds a wired stack. -/
def build (site : Site) (localNode : LocalNode) (connection : Connection) :
    Except Error Stack × Site :=
  let (stack, entropy) :=
    Stack.assemble localNode connection site.host.config.messageTimeout site.world.now
      site.world.entropy
  (stack.wireAll, site.setEntropy entropy)

/-- Puts a stack into its slot, not active yet. -/
def stage (site : Site) (family : Family) (stack : Stack) : Except Error Site :=
  ((site.host.slot family).stage family stack).map fun slot =>
    { site with host := site.host.setSlot slot family }

/-- Gives the host a new tracker client if the family is the one it shares a
socket with. -/
def renewClient (site : Site) (family : Family) : Option ClientHandle × Site :=
  match family with
  | .ipv4 =>
      let (handle, world) := site.world.makeClient
      (some handle, { world, host := { site.host with client := some handle } })
  | .ipv6 => (none, site)

/-- Adds nodes to the table of a staged stack. -/
def seed (site : Site) (family : Family) (nodes : List Node) : Site :=
  let add (stack : Stack) (node : Node) := (stack.addNode site.world.now node).2
  { site with
    host :=
      site.host.setSlot ((site.host.slot family).modify fun stack => nodes.foldl add stack)
        family }

/-- Numbers commands in turn. -/
def number (family : Family) : List Action → Host → List Command × Host
  | [], host => ([], host)
  | action :: rest, host =>
      let (cuid, host) := host.newCuid
      let (commands, host) := number family rest host
      (⟨cuid, family, action⟩ :: commands, host)

/-- What the commands of a stack do, in order; those to recover and to join come
last, if there is anything to recover or to join. -/
def actions (config : FamilyConfig) (readiness : Address) (client : Option ClientHandle)
    (recovered : Bool) : List Action × List Notice :=
  let fixed : List Action :=
    [.interaction readiness client, .tokenUpdate (10 * 60 * 1000), .bucketRefresh (5 * 60 * 1000),
      .peerAnnounce (5 * 60 * 1000), .autoSave config.stateFile (30 * 60 * 1000)]
  let recovering : List Action := if recovered then [.forcedBucketRefresh false] else []
  match config.entryPoint with
  | some point =>
      if point.isBlank then (fixed ++ recovering, [.noEntryPoint])
      else (fixed ++ recovering ++ [.entryPoint [point] true false], [])
  | none => (fixed ++ recovering, [.noEntryPoint])

/-- Makes the commands of a stack that is wired, with a further handle to its
socket. -/
def schedule (site : Site) (family : Family) (stack : Stack) (client : Option ClientHandle)
    (recovered : Bool) : Except Error (List Command × List Notice × Site) := do
  stack.wiring.ensureAll
  let network ← stack.connection.readinessHandle site.world.network
  let (actions, log) :=
    actions (site.host.config.forFamily family) stack.connection.localAddress client recovered
  let (commands, host) := number family actions site.host
  pure (commands, log, { site.setNetwork network with host })

/-- Makes a staged stack active, and its port the host's if it has none. -/
def publish (site : Site) (family : Family) (connection : Connection) : Except Error Site :=
  ((site.host.slot family).activate family).map fun slot =>
    let host := site.host.setSlot slot family
    let udpPort := if host.udpPort = 0 then connection.port else host.udpPort
    { site with host := { host with udpPort } }

/-- Takes back what a setup did: empties the slot, closing the socket of its
stack, and restores the tracker client. -/
def rollBack (site : Site) (family : Family) (client : Option ClientHandle) : Site :=
  let site := { site with host := { site.host with client } }
  match (site.host.slot family).content? with
  | some stack =>
      { site with host := site.host.setSlot .absent family }.close stack.connection.localAddress
  | none => site

/-- Closes the handles that commands have. -/
def discard (site : Site) (commands : List Command) : Site :=
  (commands.filterMap (·.action.readiness?)).foldl close site

/-! ## The whole setup -/

/-- Sets up a stack around a socket that is bound. -/
def setUpStack (site : Site) (family : Family) (snapshot : Snapshot) (connection : Connection) :
    Except Error (List Command × List Notice) × Site :=
  let previous := site.host.client
  let (localNode, site) := site.identify snapshot connection
  match site.build localNode connection with
  | (.error error, site) => (.error error, site.close connection.localAddress)
  | (.ok stack, site) =>
      match site.stage family stack with
      | .error error => (.error error, site.close connection.localAddress)
      | .ok site =>
          let (client, site) := site.renewClient family
          let site := site.seed family snapshot.nodes
          match site.schedule family stack client !snapshot.nodes.isEmpty with
          | .error error => (.error error, site.rollBack family previous)
          | .ok (commands, log, site) =>
              match site.publish family connection with
              | .error error => (.error error, (site.discard commands).rollBack family previous)
              | .ok site => (.ok (commands, log), site)

/-- Sets up a family whose slot is absent; gives the commands of its stack, or
none if it failed. -/
def setUpFamily (site : Site) (family : Family) : List Command × List Notice × Site :=
  if (site.host.slot family).isAbsent then
    let (snapshot, loaded) := site.loadState family
    match site.bindSocket family with
    | (.error _, site) => ([], loaded ++ [.disabled], site)
    | (.ok connection, site) =>
        match site.setUpStack family snapshot connection with
        | (.error _, site) => ([], loaded ++ [.disabled], site)
        | (.ok (commands, log), site) => (commands, loaded ++ log ++ [.enabled], site)
  else ([], [], site)

/-- Sets up the family with a number; one without does nothing. -/
def setUp (site : Site) (code : Int) : List Command × List Notice × Site :=
  match Family.ofCode? code with
  | some family => site.setUpFamily family
  | none => ([], [], site)

end Site

end Kademlia
