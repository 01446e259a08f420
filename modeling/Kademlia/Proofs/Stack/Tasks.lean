import Kademlia.Proofs.Stack.Wiring
import Kademlia.Stack.Run

/-!
# What tasks ask

A task that finds what it needs queues its queries behind all that is queued,
numbered in a row; one that does not queues none.
-/

namespace Kademlia

/-- The parts that a task needs before it can do anything. -/
def Job.needs : Job → List Part
  | .ping .. => [.localNode, .factory, .dispatcher]
  | .nodeLookup .. => [.localNode, .table, .factory, .dispatcher]
  | .peerLookup _ => [.localNode, .table, .factory, .dispatcher]
  | .bucketRefresh _ => [.localNode, .table]

/-- The addresses that a job names. -/
def Job.addresses : Job → List Address
  | .ping destination _ => [destination]
  | .nodeLookup _ contacts => contacts
  | .peerLookup _ => []
  | .bucketRefresh _ => []

namespace Stack

variable {stack : Stack} {now : Nat} {task : Task} {part : Part}

/-! ## Links of a task -/

/-- Whether a task finds a part by its own links. -/
def finds (stack : Stack) (task : Task) (part : Part) : Bool :=
  ((task.links.link ⟨.taskFactory, part⟩).get stack.owned).isSome

theorem requireFor_of_finds (found : stack.finds task part = true) :
    stack.requireFor task part = .ok () := by
  unfold finds at found
  unfold requireFor requireVia Link.require
  cases owned : (task.links.link ⟨.taskFactory, part⟩).get stack.owned with
  | none =>
    rw [owned] at found
    cases found
  | some value => rfl

theorem exists_requireFor (lost : stack.finds task part = false) :
    ∃ error, stack.requireFor task part = .error error := by
  unfold finds at lost
  unfold requireFor requireVia Link.require
  cases owned : (task.links.link ⟨.taskFactory, part⟩).get stack.owned with
  | none => exact ⟨_, rfl⟩
  | some value =>
    rw [owned] at lost
    cases lost

/-- A task that a whole stack made finds every part that tasks work with. -/
theorem FullyWired.finds (wired : stack.FullyWired)
    (links : task.links = stack.wiring.ofPart .taskFactory)
    (known : ⟨.taskFactory, part⟩ ∈ Wire.all) : stack.finds task part = true := by
  have mem : ⟨.taskFactory, part⟩ ∈ (stack.wiring.ofPart .taskFactory).wired :=
    List.mem_filter.2 ⟨Wiring.ensureAll_eq_ok_iff.1 wired.wired _ known, by simp⟩
  rw [Stack.finds, links, Wiring.link_of_mem mem, Link.get_wiredTo, wired.owned]
  rfl

/-! ## Queries in a row -/

/-- The same query to several addresses, numbered in a row. -/
def numbered (timeout : Nat) (request : Request) :
    UInt16 → List (Address × Option Id) → List Outgoing
  | _, [] => []
  | first, (destination, remote) :: rest =>
      ⟨⟨first, .request request⟩, destination, remote, timeout⟩ ::
        numbered timeout request (first + 1) rest

/-- Each of them goes to one of the addresses. -/
theorem mem_of_mem_numbered {timeout : Nat} {request : Request} {first : UInt16}
    {targets : List (Address × Option Id)} {outgoing : Outgoing}
    (mem : outgoing ∈ numbered timeout request first targets) :
    (outgoing.destination, outgoing.remote) ∈ targets := by
  induction targets generalizing first with
  | nil => exact absurd mem List.not_mem_nil
  | cons target targets ih =>
    rcases List.mem_cons.1 mem with rfl | later
    · exact List.mem_cons_self
    · exact List.mem_cons_of_mem target (ih later)

/-- A task that finds what it needs queues one query for each address. -/
theorem sendQueries_of_finds (factory : stack.finds task .factory = true)
    (dispatcher : stack.finds task .dispatcher = true) (request : Request)
    (targets : List (Address × Option Id)) :
    sendQueries task request targets stack =
      (.ok (),
        { stack with
          outbox := { stack.outbox with
            queue := stack.outbox.queue ++
              numbered task.timeout request stack.nextTransaction targets }
          nextTransaction := stack.nextTransaction + UInt16.ofNat targets.length }) := by
  induction targets generalizing stack with
  | nil => simp [sendQueries, numbered]
  | cons target targets ih =>
    obtain ⟨destination, remote⟩ := target
    let outgoing : Outgoing :=
      ⟨⟨stack.nextTransaction, .request request⟩, destination, remote, task.timeout⟩
    let after : Stack :=
      { stack with
        outbox := { stack.outbox with queue := stack.outbox.queue ++ [outgoing] }
        nextTransaction := stack.nextTransaction + 1 }
    have first : stack.sendQuery task request destination remote = (.ok (), after) := by
      have still : { stack with nextTransaction := stack.nextTransaction + 1 }.requireFor task
          .dispatcher = .ok () := requireFor_of_finds dispatcher
      rw [sendQuery, requireFor_of_finds factory]
      dsimp only [query]
      rw [still]
      rfl
    have others : sendQueries task request targets after = _ := ih factory dispatcher
    have count : stack.nextTransaction + 1 + UInt16.ofNat targets.length =
        stack.nextTransaction + UInt16.ofNat (targets.length + 1) := by
      rw [UInt16.ofNat_add, UInt16.add_assoc, UInt16.add_comm 1]
      rfl
    rw [sendQueries, first]
    dsimp only
    rw [others]
    dsimp only [after]
    rw [count, List.append_assoc]
    rfl

/-- A task that does not find one of them queues nothing. -/
theorem outbox_sendQueries_of_lost
    (lost : stack.finds task .factory = false ∨ stack.finds task .dispatcher = false)
    (request : Request) (targets : List (Address × Option Id)) :
    (sendQueries task request targets stack).2.outbox = stack.outbox := by
  cases targets with
  | nil => rfl
  | cons target targets =>
    obtain ⟨destination, remote⟩ := target
    have failed : ∃ error after,
        stack.sendQuery task request destination remote = (.error error, after) ∧
          after.outbox = stack.outbox := by
      cases factory : stack.finds task .factory with
      | false =>
        obtain ⟨error, refused⟩ := exists_requireFor factory
        exact ⟨error, stack, by rw [sendQuery, refused], rfl⟩
      | true =>
        have dispatcher : { stack with nextTransaction := stack.nextTransaction + 1 }.finds task
            .dispatcher = false := by
          rcases lost with other | lost
          · rw [factory] at other
            cases other
          · exact lost
        obtain ⟨error, refused⟩ := exists_requireFor dispatcher
        refine ⟨error, { stack with nextTransaction := stack.nextTransaction + 1 }, ?_, rfl⟩
        rw [sendQuery, requireFor_of_finds factory]
        dsimp only [query]
        rw [refused]
    obtain ⟨error, after, failed, same⟩ := failed
    rw [sendQueries, failed]
    exact same

/-- One address is asked as a row of one. -/
theorem sendQuery_eq (stack : Stack) (task : Task) (request : Request) (destination : Address)
    (remote : Option Id) :
    stack.sendQuery task request destination remote =
      sendQueries task request [(destination, remote)] stack := by
  unfold sendQueries
  split
  · assumption
  · assumption

/-! ## Queries of a task -/

/-- Whom a task asks what, when it finds what it needs. -/
def inquiry (stack : Stack) : Job → Request × List (Address × Option Id)
  | .ping destination remote => (.ping stack.localNode.id, [(destination, remote)])
  | .nodeLookup target contacts =>
      (.findNode stack.localNode.id target, lookupTargets (stack.table.closest target) contacts)
  | .peerLookup infoHash =>
      (.getPeers stack.localNode.id infoHash, lookupTargets (stack.table.closest infoHash) [])
  | .bucketRefresh _ => (.ping stack.localNode.id, [])

/-- The queries that a task queues. -/
def queriesOf (stack : Stack) (task : Task) : List Outgoing :=
  let (request, targets) := stack.inquiry task.job
  if task.job.needs.all (stack.finds task) then
    numbered task.timeout request stack.nextTransaction targets
  else []

/-- What is sent by a task that finds the parts it starts from. -/
theorem outbox_sendQueries (stack : Stack) (task : Task) (request : Request)
    (targets : List (Address × Option Id)) :
    (sendQueries task request targets stack).2.outbox =
      { stack.outbox with
        queue := stack.outbox.queue ++
          if stack.finds task .factory && stack.finds task .dispatcher then
            numbered task.timeout request stack.nextTransaction targets
          else [] } := by
  cases factory : stack.finds task .factory with
  | false =>
    rw [outbox_sendQueries_of_lost (.inl factory)]
    simp
  | true =>
    cases dispatcher : stack.finds task .dispatcher with
    | false =>
      rw [outbox_sendQueries_of_lost (.inr dispatcher)]
      simp
    | true =>
      rw [sendQueries_of_finds factory dispatcher]
      simp

theorem outbox_runPing (stack : Stack) (task : Task) (destination : Address)
    (remote : Option Id) (job : task.job = .ping destination remote) :
    (stack.runPing task destination remote).2.outbox =
      { stack.outbox with queue := stack.outbox.queue ++ stack.queriesOf task } := by
  rw [queriesOf, job]
  dsimp only [inquiry, Job.needs]
  cases own : stack.finds task .localNode with
  | false =>
    obtain ⟨error, refused⟩ := exists_requireFor own
    rw [runPing, refused]
    simp [own]
  | true =>
    rw [runPing, requireFor_of_finds own]
    dsimp only
    rw [sendQuery_eq, outbox_sendQueries]
    simp [own]

theorem outbox_runLookup (stack : Stack) (task : Task) (target : Id) (contacts : List Address)
    (request : Id → Request) :
    (stack.runLookup task target contacts request).2.outbox =
      { stack.outbox with
        queue := stack.outbox.queue ++
          if [.localNode, .table, .factory, .dispatcher].all (stack.finds task) then
            numbered task.timeout (request stack.localNode.id) stack.nextTransaction
              (lookupTargets (stack.table.closest target) contacts)
          else [] } := by
  unfold runLookup
  cases own : stack.finds task .localNode with
  | false =>
    obtain ⟨error, refused⟩ := exists_requireFor own
    rw [refused]
    simp [own]
  | true =>
    rw [requireFor_of_finds own]
    cases table : stack.finds task .table with
    | false =>
      obtain ⟨error, refused⟩ := exists_requireFor table
      rw [refused]
      simp [table]
    | true =>
      rw [requireFor_of_finds table]
      dsimp only [ok_bind]
      rw [outbox_sendQueries]
      simp [own, table]

theorem outbox_runRefresh (stack : Stack) (now : Nat) (entropy : Entropy) (task : Task)
    (force : Bool) : (stack.runRefresh now entropy task force).2.2.outbox = stack.outbox := by
  unfold runRefresh
  split
  · rfl
  · dsimp only
    split
    · rfl
    · rfl

/-- A task queues its queries, and nothing else. -/
theorem outbox_runTask (stack : Stack) (now : Nat) (entropy : Entropy) (task : Task) :
    (stack.runTask now entropy task).2.2.outbox =
      { stack.outbox with queue := stack.outbox.queue ++ stack.queriesOf task } := by
  unfold runTask
  cases job : task.job with
  | ping destination remote => exact stack.outbox_runPing task destination remote job
  | nodeLookup target contacts =>
    rw [queriesOf, job]
    exact stack.outbox_runLookup task target contacts _
  | peerLookup infoHash =>
    rw [queriesOf, job]
    exact stack.outbox_runLookup task infoHash [] _
  | bucketRefresh force =>
    have asksNothing : stack.queriesOf task = [] := by
      rw [queriesOf, job]
      dsimp only [inquiry, numbered]
      exact ite_self []
    rw [asksNothing]
    dsimp only
    rw [outbox_runRefresh, List.append_nil]

/-- The queries that tasks queue, each in the state that the earlier ones left. -/
def queriesOfAll (now : Nat) : List Task → Entropy → Stack → List Outgoing
  | [], _, _ => []
  | task :: rest, entropy, stack =>
      let (_, entropy, after) := stack.runTask now entropy task
      stack.queriesOf task ++ queriesOfAll now rest entropy after

/-- Tasks that run in order have their queries queued in order. -/
theorem outbox_runTasks (now : Nat) (tasks : List Task) (entropy : Entropy) (stack : Stack) :
    (runTasks now tasks entropy stack).2.2.outbox =
      { stack.outbox with
        queue := stack.outbox.queue ++ queriesOfAll now tasks entropy stack } := by
  induction tasks generalizing entropy stack with
  | nil => simp [runTasks, queriesOfAll]
  | cons task tasks ih =>
    have others := ih (stack.runTask now entropy task).2.1 (stack.runTask now entropy task).2.2
    rw [outbox_runTask, List.append_assoc] at others
    exact others

/-- The queries that the first task of each queue queues. -/
def readyQueries (stack : Stack) (now : Nat) (entropy : Entropy) : List Outgoing :=
  let (ready, tasks) := stack.tasks.takeReady
  queriesOfAll now ready entropy { stack with tasks }

theorem outbox_runReady (stack : Stack) (now : Nat) (entropy : Entropy) :
    (stack.runReady now entropy).2.2.outbox =
      { stack.outbox with queue := stack.outbox.queue ++ stack.readyQueries now entropy } :=
  outbox_runTasks now _ entropy _

/-- Without tasks nothing is done. -/
theorem runReady_of_idle (idle : stack.tasks = .empty) (now : Nat) (entropy : Entropy) :
    (stack.runReady now entropy).2.2 = stack := by
  unfold runReady
  rw [idle]
  change { stack with tasks := .empty } = stack
  rw [← idle]

/-- A task of a whole stack that is no refresh queues its queries, and does nothing else. -/
theorem FullyWired.runTask_eq (wired : stack.FullyWired)
    (links : task.links = stack.wiring.ofPart .taskFactory)
    (asks : ∀ force, task.job ≠ .bucketRefresh force) (now : Nat) (entropy : Entropy) :
    (stack.runTask now entropy task).2.2 =
      let (request, targets) := stack.inquiry task.job
      { stack with
        outbox := { stack.outbox with
          queue := stack.outbox.queue ++
            numbered task.timeout request stack.nextTransaction targets }
        nextTransaction := stack.nextTransaction + UInt16.ofNat targets.length } := by
  have own : stack.finds task .localNode = true := wired.finds links (by decide)
  have table : stack.finds task .table = true := wired.finds links (by decide)
  have factory : stack.finds task .factory = true := wired.finds links (by decide)
  have dispatcher : stack.finds task .dispatcher = true := wired.finds links (by decide)
  have lookup (target : Id) (contacts : List Address) (request : Id → Request) :
      stack.runLookup task target contacts request =
        sendQueries task (request stack.localNode.id)
          (lookupTargets (stack.table.closest target) contacts) stack := by
    rw [runLookup, requireFor_of_finds own, requireFor_of_finds table]
    rfl
  unfold runTask
  cases job : task.job with
  | ping destination remote =>
    dsimp only
    rw [runPing, requireFor_of_finds own]
    dsimp only
    rw [sendQuery_eq, sendQueries_of_finds factory dispatcher]
    rfl
  | nodeLookup target contacts =>
    dsimp only
    rw [lookup, sendQueries_of_finds factory dispatcher]
    rfl
  | peerLookup infoHash =>
    dsimp only
    rw [lookup, sendQueries_of_finds factory dispatcher]
    rfl
  | bucketRefresh force => exact absurd job (asks force)

/-- A ping that is the only task is sent. -/
theorem FullyWired.runReady_of_ping (wired : stack.FullyWired) {destination : Address}
    {remote : Option Id} (tasks : stack.tasks = ⟨[], [], [task]⟩)
    (job : task.job = .ping destination remote)
    (links : task.links = stack.wiring.ofPart .taskFactory) (now : Nat) (entropy : Entropy) :
    (stack.runReady now entropy).2.2 =
      { stack with
        tasks := .empty
        outbox := stack.outbox.addWithTimeout
          ⟨stack.nextTransaction, .request (.ping stack.localNode.id)⟩ destination remote
          task.timeout
        nextTransaction := stack.nextTransaction + 1 } := by
  let taken : Stack := { stack with tasks := .empty }
  have whole : taken.FullyWired := ⟨wired.wired, wired.whole⟩
  have ready : (stack.runReady now entropy).2.2 = (taken.runTask now entropy task).2.2 := by
    rw [runReady, tasks]
    rfl
  rw [ready, whole.runTask_eq links (by simp [job]), job]
  rfl

/-- No more than three tasks run in a round. -/
theorem length_takeReady_le (queue : TaskQueue) : queue.takeReady.1.length ≤ 3 := by
  have one (tasks : List Task) : (tasks.take 1).length ≤ 1 := List.length_take_le 1 tasks
  have first := one queue.periodic1
  have second := one queue.periodic2
  have third := one queue.immediate
  rw [TaskQueue.takeReady, List.length_append, List.length_append]
  omega

end Stack

end Kademlia
