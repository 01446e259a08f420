import Kademlia.Proofs.Host.Run
import Kademlia.Proofs.Stack.Confinement

/-!
# Two stacks on one host

Each stack of a host keeps to its own family, and what is done for one family leaves the
stack of the other as it is.
-/

namespace Kademlia

namespace Program

variable {program : Program} {family other : Family}

/-- The slot of a family, as long as the program has its host. -/
def slot? (program : Program) (family : Family) : Option Slot :=
  program.host.map (·.slot family)

/-- The family whose stack is set up, worked on, or given a command. -/
def subject? (program : Program) : Event → Option Family
  | .setUp code => Family.ofCode? code
  | .setUpFamily family => some family
  | .addCommand family _ => some family
  | .execute cuid => (program.command? cuid).map Command.family
  | .shutDown cuid => (program.command? cuid).map Command.family
  | _ => none

theorem slot?_setUpFamily (different : other ≠ family) :
    (program.setUpFamily family).2.2.slot? other = program.slot? other := by
  cases running : program.host with
  | none => rw [setUpFamily, setUpBy, running]
  | some host =>
    by_cases absent : host.slot family = .absent
    · rcases setUpFamily_of_absent running absent with
        ⟨log, world, fails, -⟩ | ⟨stack, commands, log, after, succeeds, activated⟩
      · rw [fails, slot?, slot?, running]
      · rw [succeeds, slot?, slot?, running]
        exact congrArg some (activated.other other different)
    · rw [setUpFamily_of_present running absent]

theorem slot?_runBy {command : Command} (different : other ≠ command.family)
    (way : Action → World → Stack → Execution) :
    (program.runBy command way).2.2.slot? other = program.slot? other := by
  unfold runBy
  split
  · rfl
  · rename_i stack there
    let worked := (way command.action program.world stack).stack
    change (program.host.map (·.setStack command.family worked)).map (·.slot other) = _
    rw [Option.map_map]
    refine congrArg (program.host.map ·) (funext fun host => ?_)
    exact Host.slot_setSlot_of_ne different host _

theorem slot?_withHost {change : Host → Host}
    (keeps : ∀ host, (change host).slot other = host.slot other) :
    (program.withHost change).slot? other = program.slot? other := by
  rw [slot?, withHost, Option.map_map]
  exact congrArg (program.host.map ·) (funext keeps)

/-- Making a command leaves the slots as they are. -/
theorem slot?_addCommand (family : Family) (action : Stack → Action) :
    (program.step (.addCommand family action)).2.slot? other = program.slot? other := by
  cases running : program.host with
  | none => rw [step, running]
  | some host =>
    have same : some (host.newCuid.2.slot other) = program.slot? other := by
      rw [slot?, running]
      rfl
    rw [step, running]
    dsimp only
    rcases program.addCommand_outcome host family action with
      ⟨outcome, failed, comes⟩ | ⟨command, network, number, counter, comes⟩
    · rw [comes]
      split
      · rename_i command after parts
        exact absurd (congrArg Prod.fst parts) (failed command)
      · rename_i parts
        cases parts
        exact same
    · rw [comes]
      exact same

/-- A slot changes only by what is done for its family, or with the host. -/
theorem slot?_step {event : Event} (kept : event ≠ .dropHost)
    (different : program.subject? event ≠ some other) :
    (program.step event).2.slot? other = program.slot? other := by
  cases event with
  | setUp code =>
    cases known : Family.ofCode? code with
    | none => rw [step, setUp_of_unknown known]
    | some family =>
      rw [step, setUp_of_code known]
      apply slot?_setUpFamily
      rintro rfl
      exact different known
  | setUpFamily family =>
    apply slot?_setUpFamily
    rintro rfl
    exact different rfl
  | addCommand family action => exact slot?_addCommand family action
  | execute cuid =>
    rw [step]
    split
    · rfl
    · rename_i command found
      apply slot?_runBy
      rintro rfl
      exact different (congrArg (Option.map Command.family) found)
  | shutDown cuid =>
    rw [step]
    split
    · rfl
    · rename_i command found
      apply slot?_runBy
      rintro rfl
      exact different (congrArg (Option.map Command.family) found)
  | dropHost => exact absurd rfl kept
  | setUdpPort port => exact slot?_withHost fun host => by cases other <;> rfl
  | newCuid => exact slot?_withHost fun host => by cases other <;> rfl
  | makeClient =>
    let made : Program := { program with world := program.world.makeClient.2 }
    have kept : (made.withHost fun host =>
        { host with client := some program.world.makeClient.1 }).slot? other = made.slot? other :=
      slot?_withHost fun host => by cases other <;> rfl
    exact kept
  | clearClient => exact slot?_withHost fun host => by cases other <;> rfl
  | _ => rfl

end Program

namespace StackCourse

/-! ## Keeping to a family -/

/-- A stack that was just made, with the nodes of a state file added to its table, has
what keeps it to its family. -/
theorem confined_seeded (localNode : LocalNode) (connection : Connection) (timeout begun : Nat)
    (entropy : Entropy) (nodes : List Node) :
    let first : StackCourse :=
      ⟨begun, (Stack.assembled localNode connection timeout begun entropy).addNodes begun nodes, []⟩
    first.Confined connection.family ∧ first.Native connection.family := by
  intro first
  let fresh := Stack.assembled localNode connection timeout begun entropy
  have unnamed (address : Address) (names : fresh.Names address) :
      address.family = connection.family := by
    obtain ⟨task, waits, -⟩ := names
    exact absurd waits List.not_mem_nil
  have empty : fresh.table.Reachable connection.family localNode.id := ⟨[], rfl⟩
  obtain ⟨reached, named, table, tasks, became⟩ :=
    Stack.addNodes_within empty unnamed begun nodes
  have wired : first.stack.FullyWired := (fresh.persists_addNodes begun nodes).fullyWired
    (Stack.fullyWired_assembled localNode connection timeout begun entropy)
  have queue : first.stack.outbox.queue = [] := congrArg (·.outbox.queue) became
  have inflight : first.stack.inflight = [] := congrArg Stack.inflight became
  have announces : first.stack.announces = .empty := congrArg Stack.announces became
  refine ⟨⟨wired, congrArg Stack.family became, ⟨localNode.id, reached⟩, ?inflight, ?listed,
    ?sent⟩, ⟨named, ?queued, ?peers⟩⟩
  case inflight =>
    intro query mem
    rw [inflight] at mem
    exact absurd mem List.not_mem_nil
  case listed =>
    intro outgoing mem
    rw [messages, queue] at mem
    exact absurd mem List.not_mem_nil
  case sent =>
    intro outgoing mem
    exact absurd mem List.not_mem_nil
  case queued =>
    intro outgoing mem
    rw [queue] at mem
    exact absurd mem List.not_mem_nil
  case peers =>
    intro infoHash peer announcedAt listed
    rw [announces] at listed
    obtain ⟨peers, mem, -⟩ := listed
    exact absurd mem List.not_mem_nil

/-- A stack into whose table the nodes of any state file were put keeps to its family,
whatever it reads, whatever tasks it is given and whatever else happens to it.  Its nodes,
those that are seen and those that may replace them, and the queries that wait are of the
family; what it sends goes to addresses of the family, lists nodes of it only, and leaves
the sockets of others alone.  If all that is read comes from the family, and the tasks that
are given to it from outside name addresses of it only, so are the peers that are announced
and the addresses that are to be written to.  The commands of a host give it no other
tasks.  What a program does for one family leaves the stack of the other. -/
theorem keeps_to_family (localNode : LocalNode) (connection : Connection) (timeout begun : Nat)
    (entropy : Entropy) (nodes : List Node) (events : List StackEvent) :
    let family := connection.family
    let socket := connection.localAddress
    let first : StackCourse :=
      ⟨begun, (Stack.assembled localNode connection timeout begun entropy).addNodes begun nodes, []⟩
    let last := first.run events
    (∀ node, last.stack.table.Holds node → node.family = family) ∧
    (∀ query ∈ last.stack.inflight, query.destination.family = family) ∧
    (∀ outgoing ∈ last.messages, ∀ node ∈ outgoing.message.body.nodes, node.family = family) ∧
    (∀ network, ∃ letters : List Outgoing,
      letters.Sublist last.stack.outbox.queue ∧
      (∀ outgoing ∈ letters, outgoing.destination.family = family) ∧
      (last.stack.sendAll last.now network).2.1 = network.deliverAll socket
        (letters.map fun outgoing => (outgoing.destination, outgoing.message.encode family)) ∧
      ∀ address, address.family ≠ family →
        (last.stack.sendAll last.now network).2.1.channel? address = network.channel? address) ∧
    ((∀ event ∈ events, event.Within family socket) →
      (∀ infoHash peer announcedAt,
        last.stack.announces.Lists infoHash peer announcedAt → peer.family = family) ∧
      ∀ outgoing ∈ last.stack.outbox.queue, outgoing.destination.family = family) ∧
    (∀ (action : Action) (world : World), world.now = last.now → ∃ more,
      (last.run more).stack = (action.execute world last.stack).stack ∧
      (∀ kind job, .schedule kind job ∈ more →
        (StackEvent.schedule kind job).Within family socket) ∧
      ((StackEvent.receive world.network).Within family socket →
        ∀ event ∈ more, event.Within family socket)) ∧
    ∀ (program : Program) (event : Program.Event) (other : Family), other ≠ family →
      program.subject? event = some family →
      (program.step event).2.slot? other = program.slot? other := by
  intro family socket first last
  obtain ⟨confined, native⟩ :=
    confined_seeded localNode connection timeout begun entropy nodes
  have last_confined : last.Confined family := confined.run events
  have socket_eq : first.stack.connection = connection :=
    (Stack.persists_addNodes _ begun nodes).connection
  have persists : first.stack.Persists last.stack := first.persists_run events
  have last_connection : last.stack.connection = connection :=
    persists.connection.trans socket_eq
  refine ⟨fun _ => last_confined.family_of_holds, last_confined.inflight, last_confined.listed,
    ?sent, ?native, ?command, ?slots⟩
  case sent =>
    intro network
    have sent := last_confined.exists_sendAll network
    rw [last_connection] at sent
    exact sent
  case native =>
    intro within
    have here : first.stack.connection.localAddress = socket :=
      congrArg Connection.localAddress socket_eq
    have last_native := confined.native_run native (here ▸ within)
    exact ⟨last_native.peers, last_native.queued⟩
  case command =>
    intro action world time
    have executed := last_confined.exists_run_execute action time
    rw [last_connection] at executed
    exact executed
  case slots =>
    intro program event other different subject
    apply Program.slot?_step
    · rintro rfl
      cases subject
    · intro same
      rw [subject] at same
      exact different (Option.some.inj same).symm

/-- Of two nodes of a state file one is of the family.  A node of the family is pinged, and
the other family is set up. -/
theorem keeps_to_family_two_nodes :
    let home : Address := ⟨.v4 (.zero 4), 6881⟩
    let node : Node := ⟨.ofNat 24, ⟨.v4 (.zero 4), 7000⟩⟩
    let foreign : Node := ⟨.ofNat 25, ⟨.v6 (.zero 16) 0 0, 7000⟩⟩
    let fresh := Stack.assembled ⟨⟨.zero 20⟩, 6881⟩ ⟨.ipv4, home⟩ 1000 0 ⟨1⟩
    let events : List StackEvent := [.schedule .immediate (.ping node.address none), .work ⟨1⟩]
    let last := run ⟨0, fresh.addNodes 0 [node, foreign], []⟩ events
    let world : World := ⟨0, 1700000000, ⟨1⟩, .empty, .empty, ⟨[]⟩, []⟩
    let program := Program.start world
      ⟨[6881], 1000, ⟨"dht.dat", none, none⟩, ⟨"dht6.dat", none, none⟩⟩
    last.stack.table.nodes = [node] ∧
      (∀ event ∈ events, event.Within .ipv4 home) ∧
      last.stack.outbox.queue ≠ [] ∧
      (∀ outgoing ∈ last.stack.outbox.queue, outgoing.destination.family = .ipv4) ∧
      world.now = last.now ∧
      (∃ more, (last.run more).stack =
        ((Action.bucketRefresh 1000).execute world last.stack).stack) ∧
      program.subject? (.setUpFamily .ipv4) = some .ipv4 ∧
      (program.step (.setUpFamily .ipv4)).2.slot? .ipv6 = program.slot? .ipv6 := by
  intro home node foreign fresh events last world program
  have within : ∀ event ∈ events, event.Within .ipv4 home := by
    intro event mem
    rcases List.mem_cons.1 mem with rfl | mem
    · intro address named
      obtain rfl := List.mem_singleton.1 named
      rfl
    · obtain rfl := List.mem_singleton.1 mem
      trivial
  obtain ⟨-, -, -, -, native, commands, slots⟩ :=
    keeps_to_family ⟨⟨.zero 20⟩, 6881⟩ ⟨.ipv4, home⟩ 1000 0 ⟨1⟩ [node, foreign] events
  obtain ⟨more, ran, -, -⟩ := commands (.bucketRefresh 1000) world rfl
  exact ⟨by decide +kernel, within, by decide +kernel, (native within).2, rfl, ⟨more, ran⟩, rfl,
    slots program (.setUpFamily .ipv4) .ipv6 (by decide) rfl⟩

/-- A stack on IPv4 that reads nothing, and is given a task that names an IPv6 address,
queues a message that is to go there. -/
theorem foreign_ping_queued :
    let home : Address := ⟨.v4 (.zero 4), 6881⟩
    let foreign : Address := ⟨.v6 (.zero 16) 0 0, 6881⟩
    let fresh := Stack.assembled ⟨⟨.zero 20⟩, 6881⟩ ⟨.ipv4, home⟩ 1000 0 ⟨1⟩
    let events : List StackEvent := [.schedule .immediate (.ping foreign none), .work ⟨1⟩]
    let last := run ⟨0, fresh.addNodes 0 [], []⟩ events
    fresh.FullyWired ∧ (∀ network, .receive network ∉ events) ∧
      ∃ outgoing ∈ last.stack.outbox.queue, outgoing.destination.family ≠ .ipv4 := by
  intro home foreign fresh events last
  refine ⟨Stack.fullyWired_assembled _ _ _ _ _, ?_, ?_⟩
  · intro network mem
    simp [events] at mem
  · decide +kernel

end StackCourse

end Kademlia
