import Kademlia.Program
import Kademlia.Proofs.Disk
import Kademlia.Proofs.Host.Setup
import Kademlia.Proofs.Snapshot
import Kademlia.Proofs.Table.Run

/-!
# Restarts

A stack that saved its state and is set up again from the file is the node that
it was: it has its id and its table again, and looks after the buckets at once if
there is anything in them.  Only the scope and the flow info of the addresses in the
table are lost, for which the file has no place.
-/

namespace Kademlia

/-! ## Saving -/

/-- A state file that could be saved holds the id and the nodes of the stack. -/
theorem Action.read_of_save {path : String} {world : World} {stack : Stack}
    (saved : (Action.save path world stack).result = .ok ()) :
    (Action.save path world stack).world.disk.read path =
      .ok (Snapshot.save stack.family stack.localNode stack.table.nodes world.wallClock) := by
  unfold Action.save at saved ⊢
  dsimp only at saved ⊢
  split at saved
  · rename_i replaced
    exact Disk.read_of_replace replaced
  · cases saved

namespace Program

variable {program after : Program} {family : Family} {stack : Stack} {path : String}
  {interval cuid : Nat} {log : List Notice}

/-- A command to save the state of a family. -/
def saving (cuid : Nat) (family : Family) (path : String) (interval : Nat) : Command :=
  ⟨cuid, family, .autoSave path interval⟩

theorem runBy_eq (active : program.stack? family = some stack) (action : Action)
    (way : Action → World → Stack → Execution) :
    program.runBy ⟨cuid, family, action⟩ way =
      ((way action program.world stack).result, (way action program.world stack).log,
        program.setStack (way action program.world stack).world family
          (way action program.world stack).stack) := by
  rw [runBy, active]

/-- Whether it is executed or shut down, a command that saved left the state of
its stack in the file. -/
theorem read_of_saving (active : program.stack? family = some stack)
    (saved : program.execute (saving cuid family path interval) = (.ok (), log, after) ∨
      program.shutDown (saving cuid family path interval) = (.ok (), log, after)) :
    after.world.disk.read path =
      .ok (Snapshot.save stack.family stack.localNode stack.table.nodes
        program.world.wallClock) := by
  rcases saved with executed | shut
  · rw [execute, saving, runBy_eq active] at executed
    simp only [Prod.mk.injEq] at executed
    obtain ⟨result, -, rfl⟩ := executed
    exact Action.read_of_save result
  · rw [shutDown, saving, runBy_eq active] at shut
    simp only [Prod.mk.injEq] at shut
    obtain ⟨result, -, rfl⟩ := shut
    exact Action.read_of_save result

end Program

namespace Site

variable {site : Site} {family : Family}

/-- The buckets are to be looked after at once exactly when nodes were recovered. -/
theorem exists_forcedBucketRefresh_iff (config : FamilyConfig) (readiness : Address)
    (client : Option ClientHandle) (recovered : Bool) :
    (∃ done, .forcedBucketRefresh done ∈ (actions config readiness client recovered).1) ↔
      recovered = true := by
  cases entry : config.entryPoint with
  | none => cases recovered <;> simp [actions, entry]
  | some point =>
    by_cases blank : point.isBlank = true
    · cases recovered <;> simp [actions, entry, blank]
    · cases recovered <;> simp [actions, entry, blank]

/-- What a file that was saved for a family is loaded as. -/
theorem loadState_of_saved {localNode : LocalNode} {nodes : List Node} {wallClock : Int}
    (kept : site.world.disk.read (site.host.config.forFamily family).stateFile =
      .ok (Snapshot.save family localNode nodes wallClock)) :
    site.loadState family =
      (⟨some ⟨localNode.id, 0⟩, (nodes.filter (·.family = family)).map Node.bare⟩, []) := by
  rw [loadState, kept]
  dsimp only
  rw [Snapshot.load_save]

/-- A new stack that is told of the nodes of a table makes that table again, at the bare
addresses that it is told, and queues no task for it. -/
theorem newStack_of_saved {table : RoutingTable} (wf : table.WellFormed) {connection : Connection}
    (ofFamily : connection.family = table.family) (entropy : Entropy) :
    site.newStack ⟨some ⟨table.id, 0⟩, table.nodes.map Node.bare⟩ connection entropy =
      { Stack.assembled ⟨table.id, connection.port⟩ connection site.host.config.messageTimeout
          site.world.now entropy with
        table := table.reload site.world.now } := by
  let fresh := Stack.assembled ⟨table.id, connection.port⟩ connection
    site.host.config.messageTimeout site.world.now entropy
  have unfilled : fresh.table = .empty table.family table.id := by
    rw [← ofFamily]
    rfl
  have admits : fresh.table.Admits (table.nodes.map Node.bare) := by
    rw [unfilled]
    exact wf.admits_nodes.map_bare
  have added := Stack.addNodes_eq admits site.world.now
  rw [unfilled] at added
  exact added

section

variable {program after : Program} {stack : Stack} {id : Id} {cuid interval : Nat} {path : String}
  {log : List Notice} {connection : Connection} {network : Network}
  (active : program.stack? family = some stack) (ofFamily : stack.family = family)
  (own : stack.localNode.id = id) (reached : stack.table.Reachable family id)
  (saved :
    program.execute (Program.saving cuid family path interval) = (.ok (), log, after) ∨
      program.shutDown (Program.saving cuid family path interval) = (.ok (), log, after))
  (absent : site.host.slot family = .absent)
  (configured : (site.host.config.forFamily family).stateFile = path)
  (kept : site.world.disk.read path = after.world.disk.read path)
  (bound : (site.bindSocket family).1 = .ok connection)
  (cloned : connection.readinessHandle (site.bindSocket family).2.world.network = .ok network)

include active ofFamily own reached saved absent configured kept bound cloned

/-- A family that is set up from the file that its stack saved before is active again, with
the id that it had and the table made again. -/
theorem exists_reloaded_of_saved :
    ∃ renewed now,
      (site.setUpFamily family).2.2.host.stack? family = some renewed ∧
      renewed.localNode.id = id ∧ renewed.table = stack.table.reload now ∧
      renewed.tasks = .empty ∧
      ((∃ done, .forcedBucketRefresh done ∈ (site.setUpFamily family).1.map Command.action) ↔
        stack.table.nodes ≠ []) := by
  have wf := reached.wellFormed
  have written := Program.read_of_saving active saved
  rw [ofFamily, ← kept, ← configured] at written
  have confined : stack.table.nodes.filter (·.family = family) = stack.table.nodes := by
    apply List.filter_eq_self.2
    intro node mem
    rw [decide_eq_true_eq, ← reached.family_eq]
    exact (wf.of_mem_nodesAt (wf.mem_nodes_iff.1 mem)).1
  have loaded := loadState_of_saved written
  rw [confined, own, ← reached.id_eq] at loaded
  have bindsSocket : site.bindSocket family = (.ok connection, (site.bindSocket family).2) :=
    Prod.ext bound rfl
  obtain ⟨moved, frame⟩ := site.bindSocket_frame family
  have stillAbsent : (site.bindSocket family).2.host.slot family = .absent := by
    rw [frame]
    exact absent
  obtain ⟨commands, notices, later, entropy, client, succeeds, renewed, same⟩ :=
    setUpStack_eq_ok stillAbsent cloned
      ⟨some ⟨stack.table.id, 0⟩, stack.table.nodes.map Node.bare⟩
  have whole : site.setUpFamily family = (commands, [] ++ notices ++ [.enabled], later) := by
    rw [setUpFamily, absent, Slot.isAbsent, if_pos rfl, loaded]
    dsimp only
    rw [bindsSocket]
    dsimp only
    rw [succeeds]
  have connectionFamily : connection.family = stack.table.family := by
    rw [reached.family_eq]
    exact family_of_bindSocket bound
  rw [newStack_of_saved wf connectionFamily] at renewed
  rw [whole]
  refine ⟨_, _, renewed, reached.id_eq, rfl, rfl, ?_⟩
  rw [same, exists_forcedBucketRefresh_iff]
  simp

/-- A family that is set up from the file that its stack saved before is active again, with
the id and the nodes it had then, every bucket's in their order, and nothing else in its table;
no task was queued for that.  The nodes are at the same IPs and ports, without the scopes and
the flow info that they had: if they had none, as over IPv4, they are the same.  The buckets are
to be looked after at once exactly when there are nodes in them. -/
theorem setUpFamily_of_saved :
    ∃ renewed,
      (site.setUpFamily family).2.2.host.stack? family = some renewed ∧
      renewed.localNode.id = id ∧
      (∀ distance,
        renewed.table.nodesAt distance = (stack.table.nodesAt distance).map Node.bare ∧
        ((family = .ipv4 ∨ ∀ node ∈ stack.table.nodes, node.address.Bare) →
          renewed.table.nodesAt distance = stack.table.nodesAt distance) ∧
        renewed.table.cachedAt distance = []) ∧
      renewed.tasks = .empty ∧
      ((∃ done, .forcedBucketRefresh done ∈ (site.setUpFamily family).1.map Command.action) ↔
        stack.table.nodes ≠ []) := by
  obtain ⟨renewed, now, there, sameId, reloaded, tasks, refreshed⟩ :=
    exists_reloaded_of_saved active ofFamily own reached saved absent configured kept bound cloned
  have wf := reached.wellFormed
  refine ⟨renewed, there, sameId, fun distance => ?_, tasks, refreshed⟩
  rw [reloaded, wf.nodesAt_reload, wf.cachedAt_reload]
  refine ⟨rfl, fun plain => Node.map_bare_eq_self_iff.2 fun node live => ?_, rfl⟩
  rcases plain with ipv4 | bare
  · apply Address.bare_of_ipv4
    exact (wf.of_mem_nodesAt live).1.trans (reached.family_eq.trans ipv4)
  · exact bare node (wf.ascending.mem_nodes_iff.2 ⟨distance, live⟩)

end

/-- A table with one node, saved by a command that is executed, in a directory. -/
theorem setUpFamily_of_saved_one_node :
    let node : Node := ⟨.ofNat 1, ⟨.v4 (.zero 4), 7000⟩⟩
    let config : Config := ⟨[6881], 1000, ⟨"dht/ipv4", none, none⟩, ⟨"dht/ipv6", none, none⟩⟩
    let socket : Connection := ⟨.ipv4, ⟨.unspecified .ipv4, 6881⟩⟩
    let stack : Stack :=
      { Stack.assembled ⟨⟨.zero 20⟩, 6881⟩ socket 1000 0 ⟨1⟩ with
        table := .run [.insert 0 node] (.empty .ipv4 ⟨.zero 20⟩) }
    let disk : Disk := ⟨[("dht", .directory)]⟩
    let world : World := ⟨0, 1700000000, ⟨1⟩, .empty, disk, ⟨[]⟩, []⟩
    let program : Program := ⟨world, some { Host.start config with ipv4 := .active stack }, []⟩
    let saved := program.execute (Program.saving 5 .ipv4 "dht/ipv4" 1000)
    let site : Site := ⟨{ world with disk := saved.2.2.world.disk }, .start config⟩
    saved.1 = .ok () ∧ stack.table.nodes = [node] ∧ (site.bindSocket .ipv4).1 = .ok socket ∧
      ∃ renewed,
        (site.setUpFamily .ipv4).2.2.host.stack? .ipv4 = some renewed ∧
        renewed.localNode.id = ⟨.zero 20⟩ ∧ renewed.table.nodesAt 1 = [node] ∧
        renewed.table.cachedAt 1 = [] ∧ renewed.tasks = .empty ∧
        ∃ done, .forcedBucketRefresh done ∈ (site.setUpFamily .ipv4).1.map Command.action := by
  intro node config socket stack disk world program saved site
  have running : program.stack? .ipv4 = some stack := rfl
  have reached : stack.table.Reachable .ipv4 ⟨.zero 20⟩ := ⟨[.insert 0 node], rfl⟩
  have written : saved.1 = .ok () := rfl
  have listed : stack.table.nodes = [node] := rfl
  have bound : (site.bindSocket .ipv4).1 = .ok socket := rfl
  have cloned : socket.readinessHandle (site.bindSocket .ipv4).2.world.network =
      .ok ((site.bindSocket .ipv4).2.world.network.acquire socket.localAddress) := rfl
  have executed : program.execute (Program.saving 5 .ipv4 "dht/ipv4" 1000) =
      (.ok (), saved.2.1, saved.2.2) := Prod.ext written rfl
  have kept : site.world.disk.read "dht/ipv4" = saved.2.2.world.disk.read "dht/ipv4" := rfl
  obtain ⟨renewed, active, own, nodes, tasks, refreshed⟩ :=
    setUpFamily_of_saved running rfl rfl reached (.inl executed) rfl rfl kept bound cloned
  have filled : stack.table.nodes ≠ [] := by simp [listed]
  exact ⟨written, listed, bound, renewed, active, own, (nodes 1).1, (nodes 1).2.2, tasks,
    refreshed.2 filled⟩

/-- A node that is known in a scope is known outside of it after a restart. -/
theorem setUpFamily_loses_scope :
    let node : Node := ⟨.ofNat 1, ⟨.v6 (.zero 16) 0 1, 7000⟩⟩
    let config : Config := ⟨[6881], 1000, ⟨"dht/ipv4", none, none⟩, ⟨"dht/ipv6", none, none⟩⟩
    let socket : Connection := ⟨.ipv6, ⟨.unspecified .ipv6, 6881⟩⟩
    let stack : Stack :=
      { Stack.assembled ⟨⟨.zero 20⟩, 6881⟩ socket 1000 0 ⟨1⟩ with
        table := .run [.insert 0 node] (.empty .ipv6 ⟨.zero 20⟩) }
    let disk : Disk := ⟨[("dht", .directory)]⟩
    let world : World := ⟨0, 1700000000, ⟨1⟩, .empty, disk, ⟨[]⟩, []⟩
    let program : Program := ⟨world, some { Host.start config with ipv6 := .active stack }, []⟩
    let saved := program.execute (Program.saving 5 .ipv6 "dht/ipv6" 1000)
    let site : Site := ⟨{ world with disk := saved.2.2.world.disk }, .start config⟩
    stack.table.Reachable .ipv6 ⟨.zero 20⟩ ∧ saved.1 = .ok () ∧
      (site.bindSocket .ipv6).1 = .ok socket ∧ stack.table.nodesAt 1 = [node] ∧
      ∃ renewed,
        (site.setUpFamily .ipv6).2.2.host.stack? .ipv6 = some renewed ∧
        renewed.table.nodesAt 1 ≠ [node] := by
  intro node config socket stack disk world program saved site
  have reached : stack.table.Reachable .ipv6 ⟨.zero 20⟩ := ⟨[.insert 0 node], rfl⟩
  have written : saved.1 = .ok () := rfl
  have bound : (site.bindSocket .ipv6).1 = .ok socket := rfl
  have cloned : socket.readinessHandle (site.bindSocket .ipv6).2.world.network =
      .ok ((site.bindSocket .ipv6).2.world.network.acquire socket.localAddress) := rfl
  have running : program.stack? .ipv6 = some stack := rfl
  have executed : program.execute (Program.saving 5 .ipv6 "dht/ipv6" 1000) =
      (.ok (), saved.2.1, saved.2.2) := Prod.ext written rfl
  have kept : site.world.disk.read "dht/ipv6" = saved.2.2.world.disk.read "dht/ipv6" := rfl
  obtain ⟨renewed, now, active, -, reloaded, -⟩ :=
    exists_reloaded_of_saved running rfl rfl reached (.inl executed) rfl rfl kept bound cloned
  refine ⟨reached, written, bound, rfl, renewed, active, ?_⟩
  rw [reloaded, reached.wellFormed.nodesAt_reload]
  change [node.bare] ≠ [node]
  decide

end Site

end Kademlia
