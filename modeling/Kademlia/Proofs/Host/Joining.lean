import Kademlia.Proofs.Host.Once
import Kademlia.Proofs.Stack.Alone
import Kademlia.Proofs.Table.Nearest

/-!
# Joining through entry points

The command that resolves entry points queues its tasks when it is executed for the first
time, and never again.  A stack that hears nobody else meanwhile pings one address in each
round, and then looks for its own id at the nearest nodes and at the addresses of no node.
-/

namespace Kademlia

namespace Action

/-- The addresses that entry points have in a family, in their order. -/
def entrances (names : Names) (family : Family) (points : List EntryPoint) : List Address :=
  points.flatMap fun point => ((names.addresses point).getD []).filter (·.family = family)

theorem entrances_cons (names : Names) (family : Family) (point : EntryPoint)
    (points : List EntryPoint) :
    entrances names family (point :: points) =
      ((names.addresses point).getD []).filter (·.family = family) ++
        entrances names family points :=
  List.flatMap_cons

/-- A point that is not known has no addresses, and those behind it have theirs. -/
theorem resolvePoints_fst (names : Names) (family : Family) (points : List EntryPoint) :
    (resolvePoints names family points).1 = entrances names family points := by
  induction points with
  | nil => rfl
  | cons point points ih =>
    rw [resolvePoints, entrances_cons, ← ih]
    dsimp only
    cases names.addresses point with
    | none => rfl
    | some resolved => rfl

/-- The first time, the tasks to join through the addresses are queued, if there are any. -/
theorem execute_entryPoint (points : List EntryPoint) (bootstrap : Bool) (world : World)
    (stack : Stack) :
    let addresses := entrances world.names stack.family points
    let jobs := if addresses = [] then [] else joinJobs stack.localNode.id addresses bootstrap
    let execution := (entryPoint points bootstrap false).execute world stack
    execution.world = world ∧ execution.stack = stack.addTasks .periodic1 (jobs.map stack.task) := by
  intro addresses jobs execution
  change (join points bootstrap world stack).world = world ∧
    (join points bootstrap world stack).stack = _
  have resolved := resolvePoints_fst world.names stack.family points
  unfold join
  dsimp only
  rw [resolved]
  by_cases unresolved : entrances world.names stack.family points = []
  · have nothing : jobs = [] := if_pos unresolved
    rw [if_pos unresolved, nothing]
    exact ⟨rfl, (stack.addTasks_nil .periodic1).symm⟩
  · have all : jobs = joinJobs stack.localNode.id addresses bootstrap := if_neg unresolved
    rw [if_neg unresolved, all]
    exact ⟨rfl, rfl⟩

end Action

namespace Stack

variable {stack : Stack} {addresses : List Address} {worlds : List World} {world : World}
  {address : Address} {own : Id}

theorem lookupTargets_eq (nearest : List Node) (contacts : List Address) :
    lookupTargets nearest contacts =
      nearest.map (fun node => (node.address, some node.id)) ++
        (contacts.filter (· ∉ nearest.map Node.address)).map (·, none) := by
  have same : (fun contact => !nearest.any (·.address = contact)) =
      fun contact => decide (contact ∉ nearest.map Node.address) := by
    funext contact
    rw [Bool.eq_iff_iff]
    simp
  rw [lookupTargets, same]

/-- A query to an address at which no node is asked spares the table. -/
theorem sparesTable_of_mem_numbered {timeout now : Nat} {request : Request} {first : UInt16}
    {targets : List (Address × Option Id)} {query : Query}
    (mem : query ∈ (numbered timeout request first targets).filterMap (queryOf now))
    (unnamed : ∀ remote, (query.destination, remote) ∈ targets → remote = none) :
    query.SparesTable := by
  obtain ⟨outgoing, sent, made⟩ := List.mem_filterMap.1 mem
  rw [queryOf, exists_request_of_mem_numbered sent] at made
  cases made
  exact sparesTable_of_unnamed (unnamed _ (mem_of_mem_numbered sent))

/-- The jobs of a stack that joins through some addresses ask within its family, up to the
refresh, which comes last. -/
theorem asksIn_of_mem_take {addresses : List Address} {own : Id} {family : Family} {job : Job}
    (ofFamily : ∀ address ∈ addresses, address.family = family)
    (mem : job ∈ (Action.joinJobs own addresses true).take (addresses.length + 1)) :
    job.AsksIn family := by
  have parts : (Action.joinJobs own addresses true).take (addresses.length + 1) =
      addresses.map (.ping · none) ++ [.nodeLookup own addresses] := by
    have count : (addresses.map (Job.ping · none)).length = addresses.length := List.length_map _
    have all : Action.joinJobs own addresses true =
        addresses.map (.ping · none) ++ [.nodeLookup own addresses, .bucketRefresh false] := rfl
    rw [all, ← count, List.take_length_add_append]
    rfl
  rw [parts] at mem
  rcases List.mem_append.1 mem with ping | lookup
  · obtain ⟨address, listed, rfl⟩ := List.mem_map.1 ping
    exact ⟨nofun, List.forall_mem_singleton.2 (ofFamily address listed)⟩
  · obtain rfl := List.mem_singleton.1 lookup
    exact ⟨nofun, ofFamily⟩

/-- A stack that joins through some addresses asks what it is to ask in the rounds that come:
one address after another whether it is there, and then for its own id. -/
theorem Awaiting.joins (awaiting : stack.Awaiting (Action.joinJobs stack.localNode.id addresses true))
    (ofFamily : ∀ address ∈ addresses, address.family = stack.family)
    (alone : ∀ other ∈ worlds ++ [world], stack.Alone other.network)
    {readiness : Address} {client : Option ClientHandle} {before : Stack} {execution : Execution}
    (sofar : stack.afterRounds readiness client worlds = before)
    (executed : (Action.interaction readiness client).execute world before = execution) :
    let own := stack.localNode.id
    let number := before.nextTransaction
    let nearest := before.table.closest own
    (∀ address, addresses[worlds.length]? = some address →
      before.Asks world (numbered stack.taskTimeout (.ping own) number [(address, none)]) execution ∧
        execution.stack.Alone execution.world.network) ∧
    (worlds.length = addresses.length →
      before.Asks world
        (numbered stack.taskTimeout (.findNode own own) number
          (nearest.map (fun node => (node.address, some node.id)) ++
            (addresses.filter (· ∉ nearest.map Node.address)).map (·, none))) execution ∧
        before.table.Reachable stack.family own) := by
  intro own number nearest
  have asksIn {job : Job} (few : worlds.length ≤ addresses.length)
      (mem : job ∈ (Action.joinJobs own addresses true).take (worlds.length + 1)) :
      job.AsksIn stack.family :=
    asksIn_of_mem_take ofFamily (List.take_subset_take_left _ (Nat.succ_le_succ few) mem)
  -- A round does one job, so after as many rounds as addresses the lookup is the next one.
  constructor
  · intro address next
    obtain ⟨here, -⟩ := List.getElem?_eq_some_iff.1 next
    have job : (Action.joinJobs own addresses true)[worlds.length]? = some (.ping address none) := by
      rw [Action.joinJobs, List.getElem?_append_left (by simpa using here), List.getElem?_map, next]
      rfl
    obtain ⟨asks, still, persists, timeout, -⟩ :=
      awaiting.asks_of_getElem? alone (fun _ => asksIn (Nat.le_of_lt here)) job sofar executed
    rw [queriesFor, inquiry, timeout, persists.localNode] at asks
    exact ⟨asks, still⟩
  · intro all
    have job : (Action.joinJobs own addresses true)[worlds.length]? =
        some (.nodeLookup own addresses) := by
      rw [Action.joinJobs, List.getElem?_append_right (by simp [all])]
      simp [all]
    obtain ⟨asks, -, persists, timeout, reached⟩ :=
      awaiting.asks_of_getElem? alone (fun _ => asksIn (Nat.le_of_eq all)) job sofar executed
    rw [queriesFor, inquiry, timeout, persists.localNode, lookupTargets_eq] at asks
    exact ⟨asks, reached⟩

end Stack

namespace Program

open Stack

variable {program : Program} {family : Family} {cuid : Nat} {points : List EntryPoint}
  {stack : Stack}

/-- The command that resolves entry points queues, when it is executed for the first time, a
ping for each address of the family that there is, in the order of the points, then a lookup
of the own id and a refresh that is not forced; with no such address, nothing.  Points that
are not known have no addresses and stand in nobody's way.  Whatever happens afterwards, it
changes nothing when it is executed again.

If the stack had nothing to do and to send, and hears nobody else, then in each round it pings
the next address, once for each time that it is listed, and in the round after that it asks for
its own id: each of the nearest nodes in the table, up to eight, once under its id, and each
address that is listed, as often as it is, unless one of those nodes is there.  But for replies
to itself it sends nothing else.  When the pings, and what was asked under no id, are given up
on, that makes no difference to the table. -/
theorem joins_once_through_entry_points (counted : program.Numbered)
    (kept : program.command? cuid = some ⟨cuid, family, .entryPoint points true false⟩)
    (active : program.stack? family = some stack) (wired : stack.FullyWired)
    (reached : stack.table.Reachable stack.family stack.localNode.id) :
    let own := stack.localNode.id
    let addresses := points.flatMap fun point =>
      ((program.world.names.addresses point).getD []).filter (·.family = stack.family)
    let jobs : List Job :=
      if addresses = [] then []
      else addresses.map (.ping · none) ++ [.nodeLookup own addresses, .bucketRefresh false]
    let joined :=
      { stack with
        tasks := { stack.tasks with
          periodic1 := stack.tasks.periodic1 ++ jobs.map stack.task } }
    let after := program.move (.event (.execute cuid))
    (after.world = program.world ∧ after.stack? family = some joined) ∧
    (∀ moves,
      let later := after.moveAll moves
      let again := later.move (.event (.execute cuid))
      again.world = later.world ∧ again.host = later.host) ∧
    (addresses ≠ [] → stack.tasks = .empty → stack.outbox.queue = [] →
      ∀ readiness client (earlier : List World) (world : World),
        (∀ other ∈ earlier ++ [world], joined.Alone other.network) →
        let before := joined.afterRounds readiness client earlier
        let execution := (Action.interaction readiness client).execute world before
        let number := before.nextTransaction
        let nearest := before.table.closest own
        (∀ address, addresses[earlier.length]? = some address →
          let asked := numbered stack.taskTimeout (.ping own) number [(address, none)]
          before.Asks world asked execution ∧
            (∀ query ∈ asked.filterMap (queryOf world.now), query.SparesTable) ∧
            execution.stack.Alone execution.world.network) ∧
        (earlier.length = addresses.length →
          let others := addresses.filter (· ∉ nearest.map Node.address)
          let asked := numbered stack.taskTimeout (.findNode own own) number
            (nearest.map (fun node => (node.address, some node.id)) ++ others.map (·, none))
          before.Asks world asked execution ∧
            (∀ query ∈ asked.filterMap (queryOf world.now), query.destination ∈ others →
              query.SparesTable) ∧
            nearest.length = min 8 before.table.size ∧
            (∀ node ∈ nearest, node ∈ before.table.nodes) ∧ (nearest.map Node.id).Nodup ∧
            ∀ node ∈ before.table.nodes, node ∉ nearest → ∀ near ∈ nearest,
              near.gap own < node.gap own)) := by
  intro own addresses jobs joined after
  obtain ⟨world, executed⟩ := stack?_execute kept active
  obtain ⟨sameWorld, queued⟩ := Action.execute_entryPoint points true program.world stack
  refine ⟨⟨world.trans sameWorld, executed.trans (congrArg some queued)⟩, fun moves => ?_, ?_⟩
  · exact ((spent_execute counted kept rfl).moveAll moves).execute_eq
  · intro listed idle unsent readiness client earlier world alone before execution number nearest
    have ofFamily : ∀ address ∈ addresses, address.family = joined.family := by
      intro address mem
      have resolved :
          address ∈ (Action.resolvePoints program.world.names stack.family points).1 := by
        rw [Action.resolvePoints_fst]
        exact mem
      exact StackCourse.family_of_mem_resolvePoints resolved
    have awaiting : joined.Awaiting (Action.joinJobs joined.localNode.id addresses true) := by
      refine ⟨⟨wired.wired, wired.whole⟩, reached, ?_, unsent⟩
      have all : jobs = Action.joinJobs own addresses true := if_neg listed
      change { stack.tasks with periodic1 := stack.tasks.periodic1 ++ jobs.map stack.task } = _
      rw [idle, all]
      rfl
    have sofar : joined.afterRounds readiness client earlier = before := rfl
    have executed : (Action.interaction readiness client).execute world before = execution := rfl
    obtain ⟨pings, lookup⟩ := awaiting.joins ofFamily alone sofar executed
    constructor
    · intro address next asked
      obtain ⟨asks, still⟩ := pings address next
      refine ⟨asks, fun query mem => sparesTable_of_mem_numbered mem ?_, still⟩
      intro remote listed
      exact (Prod.mk.inj (List.mem_singleton.1 listed)).2
    · intro all others asked
      obtain ⟨asks, reachedThen⟩ := lookup all
      refine ⟨asks, fun query mem apart => sparesTable_of_mem_numbered mem ?_,
        before.table.length_closest own, fun _ => RoutingTable.mem_nodes_of_mem_closest,
        reachedThen.wellFormed.distinct_closest own, fun node live left near given =>
          reachedThen.wellFormed.gap_lt_of_not_mem_closest live left given⟩
      intro remote listed
      -- An address at which one of the nearest nodes is was left out of the others.
      rcases List.mem_append.1 listed with near | other
      · obtain ⟨node, given, same⟩ := List.mem_map.1 near
        have there : query.destination ∈ nearest.map Node.address :=
          List.mem_map.2 ⟨node, given, (Prod.mk.inj same).1⟩
        exact absurd there (of_decide_eq_true (List.mem_filter.1 apart).2)
      · obtain ⟨address, -, same⟩ := List.mem_map.1 other
        exact (Prod.mk.inj same).2.symm

/-- One point is not known; the other one has an IP twice, at which there is a node, and one of
the other family.  The node is asked for the own id under its id, and is not asked again under
none. -/
theorem joins_once_through_known_point :
    let home : Address := ⟨.v4 (.zero 4), 6881⟩
    let near : Address := ⟨.v4 ⟨[10, 0, 0, 1], rfl⟩, 6881⟩
    let other : Address := ⟨.v4 ⟨[10, 0, 0, 2], rfl⟩, 6881⟩
    let own : Id := ⟨.zero 20⟩
    let names : Names := ⟨[("router", [near.ip, .v6 (.zero 16), other.ip, near.ip])]⟩
    let points : List EntryPoint := [⟨"nowhere", 6881⟩, ⟨"router", 6881⟩]
    let world : World :=
      ⟨0, 1700000000, ⟨1⟩, ⟨[(home, ⟨1, []⟩)], [], false, 0⟩, .empty, names, []⟩
    let config : Config := ⟨[6881], 1000, ⟨"dht.dat", none, none⟩, ⟨"dht6.dat", none, none⟩⟩
    let stack : Stack :=
      { assembled ⟨own, 6881⟩ ⟨.ipv4, home⟩ 1000 0 ⟨1⟩ with
        table := .run [.insert 0 ⟨.ofNat 7, near⟩] (.empty .ipv4 own) }
    let host : Host := { Host.start config with ipv4 := .active stack, nextCuid := 2 }
    let program : Program := ⟨world, some host, [⟨1, .ipv4, .entryPoint points true false⟩]⟩
    let jobs : List Job :=
      [.ping near none, .ping other none, .ping near none, .nodeLookup own [near, other, near],
        .bucketRefresh false]
    let joined : Stack := { stack with tasks := ⟨jobs.map stack.task, [], []⟩ }
    let after := program.move (.event (.execute 1))
    let again := (after.moveAll [.event (.execute 1)]).move (.event (.execute 1))
    let looking := joined.afterRounds home none [world, world, world]
    program.Numbered ∧ program.command? 1 = some ⟨1, .ipv4, .entryPoint points true false⟩ ∧
      program.stack? .ipv4 = some stack ∧ stack.FullyWired ∧
      stack.table.Reachable stack.family stack.localNode.id ∧
      after.stack? .ipv4 = some joined ∧
      again.host = (after.moveAll [.event (.execute 1)]).host ∧
      joined.Alone world.network ∧
      joined.Asks world (numbered 1000 (.ping own) joined.nextTransaction [(near, none)])
        ((Action.interaction home none).execute world joined) ∧
      looking.Asks world
        (numbered 1000 (.findNode own own) looking.nextTransaction
          [(near, some (.ofNat 7)), (other, none)])
        ((Action.interaction home none).execute world looking) := by
  intro home near other own names points world config stack host program jobs joined after again
    looking
  have counted : program.Numbered := by
    rintro running ⟨⟩ tag mem
    obtain rfl := List.mem_singleton.1 mem
    decide
  have kept : program.command? 1 = some ⟨1, .ipv4, .entryPoint points true false⟩ := rfl
  have whole := fullyWired_assembled ⟨own, 6881⟩ ⟨.ipv4, home⟩ 1000 0 ⟨1⟩
  have wired : stack.FullyWired := ⟨whole.wired, whole.whole⟩
  have reached : stack.table.Reachable stack.family stack.localNode.id := ⟨_, rfl⟩
  have alone : joined.Alone world.network := ⟨[], ⟨1, rfl⟩, nofun⟩
  obtain ⟨⟨-, queued⟩, once, rounds⟩ :=
    joins_once_through_entry_points counted kept rfl wired reached
  have addresses : (points.flatMap fun point =>
      ((names.addresses point).getD []).filter (·.family = .ipv4)) = [near, other, near] := rfl
  have listed : (points.flatMap fun point =>
      ((names.addresses point).getD []).filter (·.family = .ipv4)) ≠ [] := by
    rw [addresses]
    exact List.cons_ne_nil _ _
  have targets :
      (looking.table.closest own).map (fun node => (node.address, some node.id)) ++
        ([near, other, near].filter (· ∉ (looking.table.closest own).map Node.address)).map
          (·, none) =
      [(near, some (.ofNat 7)), (other, none)] := by
    decide +kernel
  obtain ⟨pings, -⟩ := rounds listed rfl rfl home none [] world
    fun later mem => List.mem_singleton.1 mem ▸ alone
  obtain ⟨-, lookup⟩ := rounds listed rfl rfl home none [world, world, world] world
    fun later mem => List.eq_of_mem_replicate (n := 4) mem ▸ alone
  have pinged := (pings near (congrArg (·[0]?) addresses)).1
  have looked := (lookup (congrArg List.length addresses).symm).1
  exact ⟨counted, kept, rfl, wired, reached, queued, (once _).2, alone, pinged, targets ▸ looked⟩

end Program

end Kademlia
