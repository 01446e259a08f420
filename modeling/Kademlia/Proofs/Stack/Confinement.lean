import Kademlia.Proofs.Stack.Portless

/-!
# Keeping to a family

A stack reads datagrams from addresses of either family, and may be given tasks that name
any address.  Only addresses of its own family come into its table, and nothing goes out to
others, so no query waits for one and no reply lists one.  What is queued and who is
announced is of the family too, as long as what comes from outside is.
-/

namespace Kademlia

/-! ## Nodes of a table -/

namespace RoutingTable

variable {table : RoutingTable} {family : Family} {own : Id} {node oldest : Node}
  {now : Nat}

theorem Reachable.family_of_holds (reached : table.Reachable family own)
    (holds : table.Holds node) : node.family = family := by
  obtain ⟨⟨distance, bucket⟩, listed, mem⟩ := holds
  rw [← reached.family_eq]
  exact (reached.wellFormed.buckets listed).family_eq node mem

/-- A node that another one has to wait for is in the table. -/
theorem holds_of_deferred (deferred : (table.insert now node).1 = .deferred oldest) :
    table.Holds oldest := by
  have inserted := table.inserted_insert now node
  generalize table.insert now node = result at inserted deferred
  cases inserted with
  | refused unfit => cases deferred
  | stored ofFamily apart fits => cases deferred
  | deferred ofFamily apart absent nodes_eq full =>
    cases deferred
    have among : oldest ∈ (table.bucketFor now node.id).nodes ++
        (table.bucketFor now node.id).cached := by
      rw [nodes_eq]
      exact List.mem_append_left _ List.mem_cons_self
    exact holds_of_bucketFor among

end RoutingTable

/-! ## Tasks that wait -/

namespace TaskQueue

variable {queue : TaskQueue} {kind : QueueKind} {task : Task} {added : List Task}

/-- The tasks that wait in some queue. -/
def tasks (queue : TaskQueue) : List Task :=
  queue.periodic1 ++ queue.periodic2 ++ queue.immediate

theorem mem_tasks_add :
    task ∈ (queue.add kind added).tasks ↔ task ∈ queue.tasks ∨ task ∈ added := by
  cases kind <;> simp only [tasks, add, List.mem_append] <;> grind

theorem mem_tasks_of_mem_ready (ready : task ∈ queue.takeReady.1) : task ∈ queue.tasks := by
  simp only [takeReady, List.mem_append] at ready
  simp only [tasks, List.mem_append]
  rcases ready with (first | second) | third
  · exact .inl (.inl (List.mem_of_mem_take first))
  · exact .inl (.inr (List.mem_of_mem_take second))
  · exact .inr (List.mem_of_mem_take third)

theorem mem_tasks_of_mem_left (left : task ∈ queue.takeReady.2.tasks) : task ∈ queue.tasks := by
  simp only [takeReady, tasks, List.mem_append] at left
  simp only [tasks, List.mem_append]
  rcases left with (first | second) | third
  · exact .inl (.inl (List.mem_of_mem_drop first))
  · exact .inl (.inr (List.mem_of_mem_drop second))
  · exact .inr (List.mem_of_mem_drop third)

end TaskQueue

namespace Stack

variable {stack : Stack} {now : Nat} {entropy : Entropy} {task : Task} {node : Node}
  {message : Message} {source address : Address} {outgoing : Outgoing} {query : Query}

/-- A task that waits names an address. -/
def Names (stack : Stack) (address : Address) : Prop :=
  ∃ task ∈ stack.tasks.tasks, address ∈ task.job.addresses

/-- A node at an address is in the table. -/
def Knows (stack : Stack) (address : Address) : Prop :=
  ∃ node, stack.table.Holds node ∧ node.address = address

theorem names_addTasks_iff {kind : QueueKind} {added : List Task} :
    (stack.addTasks kind added).Names address ↔
      stack.Names address ∨ ∃ task ∈ added, address ∈ task.job.addresses := by
  simp only [Names, addTasks, TaskQueue.mem_tasks_add, or_and_right, exists_or]

theorem names_schedule_iff {kind : QueueKind} {job : Job} :
    (stack.schedule kind job).Names address ↔ stack.Names address ∨ address ∈ job.addresses := by
  rw [schedule, names_addTasks_iff]
  simp [task]

/-- The node that another one has to wait for is pinged, which is one in the table. -/
theorem names_addNode (names : (stack.addNode now node).2.Names address) :
    stack.Names address ∨ stack.Knows address := by
  have waits (oldest : Node) (deferred : (stack.table.insert now node).1 = .deferred oldest) :
      stack.table.Holds oldest := RoutingTable.holds_of_deferred deferred
  unfold addNode at names
  generalize stack.table.insert now node = result at names waits
  obtain ⟨_ | _ | oldest, table⟩ := result
  · exact .inl names
  · exact .inl names
  · dsimp only at names
    split at names
    · rcases names_schedule_iff.1 names with before | ping
      · exact .inl before
      · have same : address = oldest.address := List.mem_singleton.1 ping
        exact .inr ⟨oldest, waits oldest rfl, same.symm⟩
    · exact .inl names

theorem names_noted (names : (stack.noted now message source).Names address) :
    stack.Names address ∨ stack.Knows address := by
  unfold noted at names
  split at names
  · exact .inl names
  · exact names_addNode names

theorem FullyWired.names_accept (wired : stack.FullyWired)
    (names : (stack.accept now message source).2.Names address) :
    stack.Names address ∨ stack.Knows address := by
  obtain ⟨transactionId, body⟩ := message
  by_cases query : ∃ asked, body = .request asked
  · obtain ⟨asked, rfl⟩ := query
    let replied := stack.replied now transactionId asked source
    rw [wired.accept_request] at names
    have either : replied.Names address ∨ replied.Knows address := names_addNode names
    exact either
  · rw [wired.accept_reply now source fun asked same => query ⟨asked, same⟩] at names
    split at names
    · exact .inl names
    · rename_i inflight _
      let left : Stack := { stack with inflight }
      have either : left.Names address ∨ left.Knows address := names_noted names
      exact either

/-! ## Tasks that run -/

theorem tasks_sendQuery (stack : Stack) (task : Task) (request : Request) (destination : Address)
    (remote : Option Id) :
    (stack.sendQuery task request destination remote).2.tasks = stack.tasks := by
  unfold sendQuery
  split
  · rfl
  · dsimp only
    split
    · rfl
    · rfl

theorem tasks_sendQueries (task : Task) (request : Request)
    (targets : List (Address × Option Id)) (stack : Stack) :
    (sendQueries task request targets stack).2.tasks = stack.tasks := by
  induction targets generalizing stack with
  | nil => rfl
  | cons target targets ih =>
    have sent := stack.tasks_sendQuery task request target.1 target.2
    unfold sendQueries
    split
    all_goals
      rename_i outcome
      rw [outcome] at sent
    · exact sent
    · exact (ih _).trans sent

theorem tasks_runPing (stack : Stack) (task : Task) (destination : Address) (remote : Option Id) :
    (stack.runPing task destination remote).2.tasks = stack.tasks := by
  unfold runPing
  split
  · rfl
  · exact stack.tasks_sendQuery task _ destination remote

theorem tasks_runLookup (stack : Stack) (task : Task) (target : Id) (contacts : List Address)
    (request : Id → Request) :
    (stack.runLookup task target contacts request).2.tasks = stack.tasks := by
  unfold runLookup
  split
  · rfl
  · exact tasks_sendQueries task _ _ stack

/-- Lookups that a refresh queues name no addresses. -/
theorem names_runRefresh {force : Bool}
    (names : (stack.runRefresh now entropy task force).2.2.Names address) :
    stack.Names address := by
  unfold runRefresh at names
  split at names
  · exact names
  · dsimp only at names
    split at names
    · exact names
    · rcases names_addTasks_iff.1 names with before | ⟨lookup, added, named⟩
      · exact before
      · obtain ⟨target, -, rfl⟩ := List.mem_map.1 added
        exact absurd named List.not_mem_nil

theorem names_runTask (names : (stack.runTask now entropy task).2.2.Names address) :
    stack.Names address := by
  unfold runTask at names
  split at names
  · rw [Names, tasks_runPing] at names
    exact names
  · rw [Names, tasks_runLookup] at names
    exact names
  · rw [Names, tasks_runLookup] at names
    exact names
  · exact names_runRefresh names

theorem names_runTasks {tasks : List Task}
    (names : (runTasks now tasks entropy stack).2.2.Names address) : stack.Names address := by
  induction tasks generalizing entropy stack with
  | nil => exact names
  | cons task tasks ih => exact names_runTask (ih names)

/-- Tasks that run leave no new address to be named. -/
theorem names_runReady (names : (stack.runReady now entropy).2.2.Names address) :
    stack.Names address := by
  obtain ⟨task, left, named⟩ := names_runTasks names
  exact ⟨task, TaskQueue.mem_tasks_of_mem_left left, named⟩

/-! ## Whom tasks ask -/

theorem mem_lookupTargets {nearest : List Node} {contacts : List Address}
    {target : Address × Option Id} (mem : target ∈ lookupTargets nearest contacts) :
    (∃ node ∈ nearest, node.address = target.1) ∨ target.1 ∈ contacts := by
  rcases List.mem_append.1 mem with near | contact
  · obtain ⟨node, listed, rfl⟩ := List.mem_map.1 near
    exact .inl ⟨node, listed, rfl⟩
  · obtain ⟨address, listed, rfl⟩ := List.mem_map.1 contact
    exact .inr (List.mem_filter.1 listed).1

/-- A task asks nodes in the table, and addresses that it names. -/
theorem destination_of_mem_queriesOf (mem : outgoing ∈ stack.queriesOf task) :
    stack.Knows outgoing.destination ∨ outgoing.destination ∈ task.job.addresses := by
  have nearest {target : Id} {contacts : List Address} {asked : Address × Option Id}
      (listed : asked ∈ lookupTargets (stack.table.closest target) contacts) :
      stack.Knows asked.1 ∨ asked.1 ∈ contacts := by
    rcases mem_lookupTargets listed with ⟨node, close, same⟩ | contact
    · exact .inl ⟨node,
        RoutingTable.holds_of_mem_nodes (RoutingTable.mem_nodes_of_mem_closest close), same⟩
    · exact .inr contact
  unfold queriesOf at mem
  dsimp only at mem
  split at mem
  · have listed := mem_of_mem_numbered mem
    cases job : task.job with
    | ping destination remote =>
      rw [job] at listed
      exact .inr (List.mem_singleton.2 (Prod.mk.inj (List.mem_singleton.1 listed)).1)
    | nodeLookup target contacts =>
      rw [job] at listed
      exact nearest listed
    | peerLookup infoHash =>
      rw [job] at listed
      exact nearest listed
    | bucketRefresh force =>
      rw [job] at listed
      exact absurd listed List.not_mem_nil
  · exact absurd mem List.not_mem_nil

theorem knows_of_tended {before after : Stack} (tended : Tended before after)
    (knows : after.Knows address) : before.Knows address := by
  obtain ⟨node, holds, same⟩ := knows
  obtain ⟨operations, ran, touches⟩ := tended.table
  rw [ran] at holds
  rcases holds.of_run with before | ⟨time, added⟩
  · exact ⟨node, before, same⟩
  · obtain ⟨_, _, touch⟩ := touches _ added
    cases touch

theorem destination_of_mem_queriesOfAll {tasks : List Task}
    (mem : outgoing ∈ queriesOfAll now tasks entropy stack) :
    stack.Knows outgoing.destination ∨
      ∃ task ∈ tasks, outgoing.destination ∈ task.job.addresses := by
  induction tasks generalizing entropy stack with
  | nil => exact absurd mem List.not_mem_nil
  | cons task tasks ih =>
    rcases List.mem_append.1 mem with own | later
    · exact (destination_of_mem_queriesOf own).imp_right fun named =>
        ⟨task, List.mem_cons_self, named⟩
    · rcases ih later with knows | ⟨other, listed, named⟩
      · exact .inl (knows_of_tended (respected_tended.runTask stack now entropy task) knows)
      · exact .inr ⟨other, List.mem_cons_of_mem _ listed, named⟩

/-- The tasks of a round ask nodes in the table, and addresses that they name. -/
theorem destination_of_mem_readyQueries (mem : outgoing ∈ stack.readyQueries now entropy) :
    stack.Knows outgoing.destination ∨ stack.Names outgoing.destination := by
  refine (destination_of_mem_queriesOfAll mem).imp_right ?_
  rintro ⟨task, ready, named⟩
  exact ⟨task, TaskQueue.mem_tasks_of_mem_ready ready, named⟩

/-! ## Nodes that are added, queries that wait, datagrams that are read -/

/-- Nodes are added to the table as far as they are of its family, and queue no task that
names other addresses. -/
theorem addNodes_within {family : Family} {own : Id}
    (reached : stack.table.Reachable family own)
    (named : ∀ address, stack.Names address → address.family = family) (now : Nat)
    (nodes : List Node) :
    (stack.addNodes now nodes).table.Reachable family own ∧
      (∀ address, (stack.addNodes now nodes).Names address → address.family = family) ∧
      ∃ table tasks, stack.addNodes now nodes = { stack with table, tasks } := by
  induction nodes generalizing stack with
  | nil => exact ⟨reached, named, _, _, rfl⟩
  | cons node nodes ih =>
    obtain ⟨tasks, added⟩ := stack.addNode_frame now node
    have first : (stack.addNode now node).2.table.Reachable family own := by
      obtain ⟨operations, came⟩ := reached
      rw [added, came]
      refine ⟨operations ++ [.insert now node], ?_⟩
      rw [RoutingTable.run_append]
      rfl
    have others (address : Address) (names : (stack.addNode now node).2.Names address) :
        address.family = family := by
      rcases names_addNode names with before | ⟨oldest, holds, rfl⟩
      · exact named address before
      · exact reached.family_of_holds holds
    obtain ⟨last, within, table, waiting, became⟩ := ih first others
    exact ⟨last, within, table, waiting, became.trans (by rw [added])⟩

theorem family_of_mem_requests {family : Family} {messages : List Outgoing}
    (mem : query ∈ requests now family messages) : query.destination.family = family := by
  obtain ⟨outgoing, listed, asked⟩ := List.mem_filterMap.1 mem
  have ofFamily : outgoing.destination.family = family :=
    of_decide_eq_true (List.mem_filter.1 listed).2
  unfold queryOf at asked
  split at asked
  · cases asked
    exact ofFamily
  · cases asked

theorem FullyWired.mem_inflight_accept (wired : stack.FullyWired)
    (mem : query ∈ (stack.accept now message source).2.inflight) : query ∈ stack.inflight := by
  obtain ⟨transactionId, body⟩ := message
  by_cases asks : ∃ asked, body = .request asked
  · obtain ⟨asked, rfl⟩ := asks
    obtain ⟨table, tasks, became⟩ := wired.exists_accept_request now transactionId asked source
    rw [became] at mem
    exact mem
  · rw [wired.accept_reply now source fun asked same => asks ⟨asked, same⟩] at mem
    split at mem
    · exact mem
    · rename_i answered inflight found
      obtain ⟨table, tasks, became⟩ :=
        exists_noted { stack with inflight } now ⟨transactionId, body⟩ source
      dsimp only at mem
      rw [became] at mem
      obtain ⟨-, older, newer, parts, rfl, -⟩ := Inflight.answer_eq_some_iff.1 found
      rw [parts]
      exact ((List.sublist_cons_self answered newer).append_left older).subset mem

/-- A message that is accepted was read from what waits at the socket. -/
theorem FullyWired.waits_of_received {network : Network} (wired : stack.FullyWired)
    (received : (stack.receive now network).1 = .ok (.message message source)) :
    ∃ waiting, network.Waits stack.connection.localAddress waiting ∧
      ∃ datagram ∈ waiting, datagram.source = source := by
  have linked : stack.require .receiver .connection = .ok () := wired.require (by decide)
  unfold receive at received
  rw [linked] at received
  unfold Connection.receive Network.receive at received
  cases bound : network.channel? stack.connection.localAddress with
  | none =>
    rw [bound] at received
    cases received
  | some channel =>
    obtain ⟨handles, waiting⟩ := channel
    rw [bound] at received
    cases waiting with
    | nil => cases received
    | cons datagram others =>
      obtain ⟨same, -⟩ := wired.holds_of_handle received
      exact ⟨_, ⟨handles, bound⟩, datagram, List.mem_cons_self, same.symm⟩

end Stack

/-- Datagrams that go out to addresses of a family leave what waits at others. -/
theorem Network.channel?_deliverAll_of_ne {family : Family} {letters : List (Address × Bytes)}
    (within : ∀ letter ∈ letters, letter.1.family = family) (network : Network)
    (source : Address) {address : Address} (foreign : address.family ≠ family) :
    (network.deliverAll source letters).channel? address = network.channel? address := by
  have unaddressed : Network.arriving source address letters = [] := by
    rw [Network.arriving, List.map_eq_nil_iff, List.filter_eq_nil_iff]
    intro letter mem
    have elsewhere : letter.1 ≠ address := fun same => foreign (same ▸ within letter mem)
    simpa using elsewhere
  rw [Network.channel?_deliverAll, unaddressed]
  simp

/-! ## One event -/

/-- What an event brings in is of a family: all that waits at a socket when it is read
comes from there, and a task that is queued names addresses of it only. -/
def StackEvent.Within (family : Family) (socket : Address) : StackEvent → Prop
  | .receive network => ∀ waiting, network.Waits socket waiting →
      ∀ datagram ∈ waiting, datagram.source.family = family
  | .schedule _ job => ∀ address ∈ job.addresses, address.family = family
  | _ => True

namespace StackCourse

variable {course : StackCourse} {event : StackEvent} {family : Family} {address : Address}
  {query : Query} {outgoing : Outgoing} {message : Message} {source : Address}

/-- An address comes to be named by a task for a node in the table, or by one that is
queued from outside. -/
theorem names_step (wired : course.stack.FullyWired)
    (names : (course.step event).stack.Names address) :
    course.stack.Names address ∨ course.stack.Knows address ∨
      ∃ kind job, event = .schedule kind job ∧ address ∈ job.addresses := by
  cases event with
  | receive network =>
    rcases wired.receive_cases course.now network with
      ⟨-, same⟩ | ⟨message, source, port, outcome, became⟩
    · rw [step, same] at names
      exact .inl names
    · rw [step, became] at names
      exact (wired.names_accept names).imp_right .inl
  | schedule kind job =>
    rcases Stack.names_schedule_iff.1 names with before | named
    · exact .inl before
    · exact .inr (.inr ⟨kind, job, rfl, named⟩)
  | work entropy => exact .inl (Stack.names_runReady names)
  | expire =>
    rw [step, Stack.expire_eq] at names
    exact .inl names
  | send network =>
    rw [step, Stack.sendAll_stack (wired.resolves (by decide))] at names
    exact .inl names
  | want infoHash =>
    unfold step Stack.want at names
    dsimp only at names
    split at names
    · exact .inl names
    · rcases Stack.names_schedule_iff.1 names with before | named
      · exact .inl before
      · exact absurd named List.not_mem_nil
  | purge => exact .inl names
  | rotate entropy => exact .inl names
  | advance milliseconds => exact .inl names

/-- A message comes to be queued for a node in the table, for an address that a task
names, or for one that a message came from. -/
theorem destination_step (wired : course.stack.FullyWired)
    (mem : outgoing ∈ (course.step event).stack.outbox.queue) :
    outgoing ∈ course.stack.outbox.queue ∨ course.stack.Knows outgoing.destination ∨
      course.stack.Names outgoing.destination ∨
      ∃ message, course.Accepts event message outgoing.destination := by
  cases event with
  | receive network =>
    rcases wired.receive_cases course.now network with
      ⟨-, same⟩ | ⟨message, source, port, outcome, became⟩
    · rw [step, same] at mem
      exact .inl mem
    · rw [step, became] at mem
      rcases wired.mem_queue_accept mem with old | ⟨transactionId, asked, rfl, rfl⟩
      · exact .inl old
      · exact .inr (.inr (.inr ⟨_, network, rfl, outcome⟩))
  | schedule kind job => exact .inl mem
  | work entropy =>
    rw [step, Stack.outbox_runReady] at mem
    rcases List.mem_append.1 mem with old | new
    · exact .inl old
    · rcases Stack.destination_of_mem_readyQueries new with known | named
      · exact .inr (.inl known)
      · exact .inr (.inr (.inl named))
  | expire =>
    rw [step, Stack.expire_eq] at mem
    exact .inl mem
  | send network =>
    rw [step, Stack.sendAll_stack (wired.resolves (by decide))] at mem
    exact absurd mem List.not_mem_nil
  | want infoHash =>
    obtain ⟨tasks, wanted⟩ := course.stack.want_frame infoHash
    rw [step, wanted] at mem
    exact .inl mem
  | purge => exact .inl mem
  | rotate entropy => exact .inl mem
  | advance milliseconds => exact .inl mem

/-- A query comes to wait when it goes out, and so to an address of the stack's family. -/
theorem inflight_step (wired : course.stack.FullyWired)
    (mem : query ∈ (course.step event).stack.inflight) :
    query ∈ course.stack.inflight ∨ query.destination.family = course.stack.family := by
  cases event with
  | receive network =>
    rcases wired.receive_cases course.now network with
      ⟨-, same⟩ | ⟨message, source, port, outcome, became⟩
    · rw [step, same] at mem
      exact .inl mem
    · rw [step, became] at mem
      exact .inl (wired.mem_inflight_accept mem)
  | schedule kind job => exact .inl mem
  | work entropy =>
    rw [step, (course.stack.tended_runReady course.now entropy).inflight] at mem
    exact .inl mem
  | expire =>
    rw [step, Stack.expire_eq] at mem
    have kept : query ∈ (Inflight.expire course.now course.stack.inflight).2 := mem
    rw [Inflight.expire, List.partition_eq_filter_filter] at kept
    exact .inl (List.mem_filter.1 kept).1
  | send network =>
    rw [step, Stack.sendAll_stack (wired.resolves (by decide))] at mem
    exact (List.mem_append.1 mem).imp_right Stack.family_of_mem_requests
  | want infoHash =>
    obtain ⟨tasks, wanted⟩ := course.stack.want_frame infoHash
    rw [step, wanted] at mem
    exact .inl mem
  | purge => exact .inl mem
  | rotate entropy => exact .inl mem
  | advance milliseconds => exact .inl mem

theorem Accepts.source_family (wired : course.stack.FullyWired)
    (accepts : course.Accepts event message source)
    (within : event.Within family course.stack.connection.localAddress) :
    source.family = family := by
  obtain ⟨network, rfl, received⟩ := accepts
  obtain ⟨waiting, waits, datagram, listed, rfl⟩ := wired.waits_of_received received
  exact within waiting waits datagram listed

/-! ## Any number of events -/

/-- A stack of a family that knows and asks nobody outside of it, and lists nobody else in
its messages, of which none went anywhere else. -/
structure Confined (family : Family) (course : StackCourse) : Prop where
  wired : course.stack.FullyWired
  family_eq : course.stack.family = family
  reached : ∃ own, course.stack.table.Reachable family own
  inflight : ∀ query ∈ course.stack.inflight, query.destination.family = family
  listed : ∀ outgoing ∈ course.messages, ∀ node ∈ outgoing.message.body.nodes,
    node.family = family
  sent : ∀ outgoing ∈ course.sent, outgoing.destination.family = family

/-- All addresses that are to be written to, and all peers, are of a family. -/
structure Native (family : Family) (course : StackCourse) : Prop where
  named : ∀ address, course.stack.Names address → address.family = family
  queued : ∀ outgoing ∈ course.stack.outbox.queue, outgoing.destination.family = family
  peers : ∀ infoHash peer announcedAt,
    course.stack.announces.Lists infoHash peer announcedAt → peer.family = family

namespace Confined

variable (confined : course.Confined family)

include confined

theorem family_of_holds {node : Node} (holds : course.stack.table.Holds node) :
    node.family = family := by
  obtain ⟨own, reached⟩ := confined.reached
  exact reached.family_of_holds holds

theorem family_of_knows (knows : course.stack.Knows address) : address.family = family := by
  obtain ⟨node, holds, rfl⟩ := knows
  exact confined.family_of_holds holds

/-- Whatever happens to a stack, it keeps to its family. -/
theorem step (event : StackEvent) : (course.step event).Confined family where
  wired := (course.persists_step event).fullyWired confined.wired
  family_eq := (course.persists_step event).family.trans confined.family_eq
  reached := by
    obtain ⟨own, reached⟩ := confined.reached
    exact ⟨own, table_run confined.wired reached [event]⟩
  inflight := by
    intro query mem
    rcases inflight_step confined.wired mem with old | new
    · exact confined.inflight query old
    · exact new.trans confined.family_eq
  listed := by
    intro outgoing mem node listed
    rcases messages_step confined.wired mem with
      old | ⟨asked, query⟩ | ⟨transactionId, asked, source, -, rfl⟩
    · exact confined.listed outgoing old node listed
    · rw [query] at listed
      exact absurd listed List.not_mem_nil
    · exact confined.family_of_holds (Stack.holds_of_mem_reply listed)
  sent := by
    intro outgoing mem
    cases event with
    | send network =>
      rcases List.mem_append.1 mem with before | now
      · exact confined.sent outgoing before
      · exact (of_decide_eq_true (List.mem_filter.1 now).2).trans confined.family_eq
    | _ => exact confined.sent outgoing mem

theorem run (events : List StackEvent) : (course.run events).Confined family := by
  induction events generalizing course with
  | nil => exact confined
  | cons event events ih => exact ih (confined.step event)

/-- As long as all that comes from outside is of the family, so is all that is to be
written to and all that is announced. -/
theorem native_step (native : course.Native family)
    (within : event.Within family course.stack.connection.localAddress) :
    (course.step event).Native family where
  named := by
    intro address names
    rcases names_step confined.wired names with
      before | known | ⟨kind, job, rfl, named⟩
    · exact native.named address before
    · exact confined.family_of_knows known
    · exact within address named
  queued := by
    intro outgoing mem
    rcases destination_step confined.wired mem with old | known | named | ⟨message, accepts⟩
    · exact native.queued outgoing old
    · exact confined.family_of_knows known
    · exact native.named _ named
    · exact accepts.source_family confined.wired within
  peers := by
    intro infoHash peer announcedAt listed
    rcases lists_step confined.wired listed with
      before | ⟨message, source, accepts, -, -, authorised⟩
    · exact native.peers infoHash peer announcedAt before
    · have sameFamily : peer.family = source.family := congrArg Ip.family authorised.ip_eq
      exact sameFamily.trans (accepts.source_family confined.wired within)

theorem native_run (native : course.Native family) {events : List StackEvent}
    (within : ∀ event ∈ events, event.Within family course.stack.connection.localAddress) :
    (course.run events).Native family := by
  induction events generalizing course with
  | nil => exact native
  | cons event events ih =>
    rw [List.forall_mem_cons] at within
    refine ih (confined.step event) (confined.native_step native within.1) ?_
    rw [(course.persists_step event).connection]
    exact within.2

/-- What goes out goes to addresses of the family, and leaves what waits at others. -/
theorem exists_sendAll (network : Network) :
    ∃ letters : List Outgoing,
      letters.Sublist course.stack.outbox.queue ∧
      (∀ outgoing ∈ letters, outgoing.destination.family = family) ∧
      (course.stack.sendAll course.now network).2.1 =
        network.deliverAll course.stack.connection.localAddress
          (letters.map fun outgoing =>
            (outgoing.destination, outgoing.message.encode family)) ∧
      ∀ address, address.family ≠ family →
        (course.stack.sendAll course.now network).2.1.channel? address =
          network.channel? address := by
  let letters := course.stack.outbox.queue.filter (·.destination.family = family)
  have within : ∀ outgoing ∈ letters, outgoing.destination.family = family :=
    fun _ mem => of_decide_eq_true (List.mem_filter.1 mem).2
  have delivered : (course.stack.sendAll course.now network).2.1 =
      network.deliverAll course.stack.connection.localAddress
        (letters.map fun outgoing =>
          (outgoing.destination, outgoing.message.encode family)) := by
    rw [Stack.sendAll_network, confined.family_eq]
    rfl
  refine ⟨letters, List.filter_sublist, within, delivered, ?_⟩
  intro address foreign
  rw [delivered]
  apply Network.channel?_deliverAll_of_ne _ network _ foreign
  intro letter mem
  obtain ⟨outgoing, goesOut, rfl⟩ := List.mem_map.1 mem
  exact within outgoing goesOut

/-- What a command does is a course on which no task that names an address of another
family is queued from outside, and nothing is read but what waits. -/
theorem exists_run_execute (action : Action) {world : World} (time : world.now = course.now) :
    ∃ more, (course.run more).stack = (action.execute world course.stack).stack ∧
      (∀ kind job, .schedule kind job ∈ more →
        (StackEvent.schedule kind job).Within family course.stack.connection.localAddress) ∧
      ((StackEvent.receive world.network).Within family course.stack.connection.localAddress →
        ∀ event ∈ more, event.Within family course.stack.connection.localAddress) := by
  obtain ⟨more, ran, reads, schedules⟩ :=
    StackCourse.exists_run_execute action world course.stack course.sent
  rw [time] at ran
  rw [confined.family_eq] at schedules
  refine ⟨more, ran, schedules, ?_⟩
  intro within event mem
  cases event with
  | receive rest =>
    intro waiting waits datagram listed
    obtain ⟨count, consumed⟩ := reads rest mem
    obtain ⟨earlier, there, rfl⟩ := consumed.exists_waits waits
    exact within earlier there datagram (List.mem_of_mem_drop listed)
  | schedule kind job => exact schedules kind job mem
  | _ => trivial

end Confined

end StackCourse

end Kademlia
