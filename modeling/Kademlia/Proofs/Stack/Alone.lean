import Kademlia.Proofs.Distance
import Kademlia.Proofs.Stack.Confinement
import Kademlia.Proofs.Stack.Fitting

/-!
# Rounds in which no other node is heard

Of what a stack says itself, and of what is no message, it may receive what it will: its
table and its tasks stay as they are.  So if it has nothing to do but some jobs, each round
does the first of them, and sends what that asks.
-/

namespace Kademlia

open Krpc

/-- No node but one says this. -/
def Body.SaidBy (body : Body) (own : Id) : Prop :=
  ∀ id, body.author = some id → id = own

/-- A job that asks some nodes, and names addresses of a family only. -/
structure Job.AsksIn (job : Job) (family : Family) : Prop where
  asks : ∀ force, job ≠ .bucketRefresh force
  addresses : ∀ address ∈ job.addresses, address.family = family

theorem RoutingTable.Reachable.evict {family : Family} {own : Id} {table : RoutingTable}
    (reached : table.Reachable family own) (ids : List Id) :
    (table.evict ids).Reachable family own := by
  obtain ⟨operations, rfl⟩ := reached
  exact ⟨operations ++ ids.map .remove, by rw [evict_eq_run, ← run_append]⟩

namespace Stack

variable {stack between after : Stack} {world : World} {now handles : Nat} {datagram : Datagram}
  {job : Job} {jobs : List Job} {waiting : List Datagram} {execution : Execution}
  {readiness : Address} {client : Option ClientHandle}

/-- Of what waits for a stack nothing is a message from another node. -/
def Alone (stack : Stack) (network : Network) : Prop :=
  ∃ waiting, network.Waits stack.connection.localAddress waiting ∧
    ∀ datagram ∈ waiting, ∀ message,
      Message.decode stack.family (datagram.cut mtu).bytes = .ok message →
        message.body.SaidBy stack.localNode.id

theorem Persists.alone (persists : stack.Persists after) {network : Network}
    (alone : stack.Alone network) : after.Alone network := by
  rw [Alone, persists.connection, persists.family, persists.localNode]
  exact alone

/-! ## Receiving -/

/-- What a stack keeps that receives nothing from another node. -/
structure Unmoved (before after : Stack) : Prop where
  persists : before.Persists after
  table : after.table = before.table
  tasks : after.tasks = before.tasks
  taskTimeout : after.taskTimeout = before.taskTimeout
  nextTransaction : after.nextTransaction = before.nextTransaction
  inflight : after.inflight.Sublist before.inflight

namespace Unmoved

theorem refl (stack : Stack) : Unmoved stack stack :=
  ⟨.refl stack, rfl, rfl, rfl, rfl, .refl _⟩

theorem trans (first : Unmoved stack between) (second : Unmoved between after) :
    Unmoved stack after :=
  ⟨first.persists.trans second.persists, second.table.trans first.table,
    second.tasks.trans first.tasks, second.taskTimeout.trans first.taskTimeout,
    second.nextTransaction.trans first.nextTransaction, second.inflight.trans first.inflight⟩

end Unmoved

/-- A stack does not put itself into its table. -/
theorem addNode_own (stack : Stack) (own : stack.table.id = stack.localNode.id) (now : Nat) (source : Address) :
    (stack.addNode now ⟨stack.localNode.id, source⟩).2 = stack := by
  have here : stack.table.id.distance stack.localNode.id = 0 := Id.distance_eq_zero_iff.2 own
  have refused : stack.table.insert now ⟨stack.localNode.id, source⟩ = (.refused, stack.table) :=
    if_pos (.inr here)
  rw [addNode, refused]

/-- What nobody else said adds nobody. -/
theorem noted_of_saidBy (stack : Stack) (own : stack.table.id = stack.localNode.id) {message : Message}
    (said : message.body.SaidBy stack.localNode.id) (now : Nat) (source : Address) :
    stack.noted now message source = stack := by
  unfold noted
  split
  · rfl
  · rename_i id author
    rw [said id author]
    exact stack.addNode_own own now source

theorem sublist_of_answer {inflight rest : Inflight} {query : Query} {transactionId : UInt16}
    {source : Address}
    (answered : Inflight.answer transactionId source inflight = some (query, rest)) :
    rest.Sublist inflight := by
  obtain ⟨-, older, newer, rfl, rfl, -⟩ := Inflight.answer_eq_some_iff.1 answered
  exact (List.sublist_cons_self query newer).append_left older

/-- A datagram that holds no message from another node leaves all this as it is.  If it is a
query, the stack's own, it is replied to. -/
theorem FullyWired.unmoved_handle (wired : stack.FullyWired)
    (own : stack.table.id = stack.localNode.id)
    (said : ∀ message, Message.decode stack.family datagram.bytes = .ok message →
      message.body.SaidBy stack.localNode.id) (now : Nat) :
    Unmoved stack (stack.handle now datagram).2 := by
  have handled := wired.handled now datagram
  generalize stack.handle now datagram = outcome at handled
  cases handled with
  | portless port => exact .refl stack
  | foreign port head => exact .refl stack
  | malformed port head decoded => exact .refl stack
  | @query transactionId asked holds =>
    have requester : asked.requester = stack.localNode.id := said _ holds.decoded _ rfl
    have same := (stack.replied now transactionId asked datagram.source).addNode_own own now
      datagram.source
    rw [requester]
    exact same.symm ▸ ⟨⟨rfl, rfl, rfl, rfl⟩, rfl, rfl, rfl, rfl, .refl _⟩
  | unawaited port head decoded reply unanswered => exact .refl stack
  | @answer message query inflight port head decoded reply answered =>
    have same := noted_of_saidBy { stack with inflight } own (said message decoded) now
      datagram.source
    exact same.symm ▸ ⟨⟨rfl, rfl, rfl, rfl⟩, rfl, rfl, rfl, rfl, sublist_of_answer answered⟩

/-- A message to be sent that the own family understands, and that comes from nobody else. -/
structure OwnWord (stack : Stack) (message : Message) : Prop where
  fits : message.Fits stack.family
  said : message.body.SaidBy stack.localNode.id

theorem saidBy_reply (stack : Stack) (now : Nat) (source : Address) (asked : Request) :
    (stack.reply now source asked).1.SaidBy stack.localNode.id := by
  have author : (stack.reply now source asked).1.author = some stack.localNode.id ∨
      (stack.reply now source asked).1.author = none := by
    cases asked with
    | announcePeer requester infoHash port impliedPort token =>
      dsimp only [reply]
      split
      · exact .inl rfl
      · exact .inr rfl
    | _ => exact .inl rfl
  intro id same
  rcases author with own | none
  · exact Option.some.inj (same.symm.trans own)
  · exact absurd (none.symm.trans same) (Option.some_ne_none id).symm

/-- Datagrams that hold no message from another node leave all this as it is, and what is
replied to them is a word of the stack's own. -/
theorem FullyWired.exists_own_replies (wired : stack.FullyWired)
    (reached : stack.table.Reachable stack.family stack.localNode.id) (now : Nat)
    (datagrams : List Datagram)
    (said : ∀ datagram ∈ datagrams, ∀ message,
      Message.decode stack.family datagram.bytes = .ok message →
        message.body.SaidBy stack.localNode.id) :
    ∃ replies, RepliedTo now stack datagrams replies ∧
      Unmoved stack (handleAll now datagrams stack) ∧
      (handleAll now datagrams stack).outbox =
        { stack.outbox with queue := stack.outbox.queue ++ replies } ∧
      ∀ reply ∈ replies, stack.OwnWord reply.message ∧
        ∀ asked, reply.message.body ≠ .request asked := by
  induction datagrams generalizing stack with
  | nil => exact ⟨[], .nil stack, .refl stack, by simp [handleAll], nofun⟩
  | cons datagram datagrams ih =>
    obtain ⟨own, others⟩ := List.forall_mem_cons.1 said
    have unmoved := wired.unmoved_handle reached.id_eq own now
    have persists := unmoved.persists
    have still : (stack.handle now datagram).2.table.Reachable
        (stack.handle now datagram).2.family (stack.handle now datagram).2.localNode.id := by
      rw [unmoved.table, persists.family, persists.localNode]
      exact reached
    rw [← persists.family, ← persists.localNode] at others
    obtain ⟨replies, replied, later, queued, words⟩ := ih (persists.fullyWired wired) still others
    have words : ∀ reply ∈ replies, stack.OwnWord reply.message ∧
        ∀ asked, reply.message.body ≠ .request asked := by
      intro reply mem
      obtain ⟨⟨fits, said⟩, answers⟩ := words reply mem
      rw [persists.family] at fits
      rw [persists.localNode] at said
      exact ⟨⟨fits, said⟩, answers⟩
    by_cases query : ∃ transactionId asked, HoldsQuery stack.family datagram transactionId asked
    · obtain ⟨transactionId, asked, holds⟩ := query
      refine ⟨_, .query holds (wired.answer_eq now asked datagram.source) replied,
        unmoved.trans later, ?_, List.forall_mem_cons.2 ⟨⟨⟨?_, ?_⟩, ?_⟩, words⟩⟩
      · rw [wired.outbox_handle_of_query holds] at queued
        refine queued.trans ?_
        rw [List.append_cons]
        rfl
      · exact Message.fits_of_modest (modest_reply reached now datagram.source asked)
      · exact stack.saidBy_reply now datagram.source asked
      · exact stack.reply_ne_request now datagram.source asked
    · have unasked : ∀ transactionId asked,
          ¬HoldsQuery stack.family datagram transactionId asked := by
        intro transactionId asked holds
        exact query ⟨transactionId, asked, holds⟩
      rw [wired.outbox_handle_of_not_query unasked] at queued
      exact ⟨replies, .other unasked replied, unmoved.trans later, queued, words⟩

/-! ## One job in a round -/

/-- A whole stack with nothing to send, and nothing to do but some jobs. -/
structure Awaiting (stack : Stack) (jobs : List Job) : Prop where
  wired : stack.FullyWired
  reached : stack.table.Reachable stack.family stack.localNode.id
  tasks : stack.tasks = ⟨jobs.map stack.task, [], []⟩
  unsent : stack.outbox.queue = []

/-- The queries of a job, when it is the next one. -/
def queriesFor (stack : Stack) (job : Job) : List Outgoing :=
  numbered stack.taskTimeout (stack.inquiry job).1 stack.nextTransaction (stack.inquiry job).2

/-- A round in which a stack asks some queries: it sends the replies to what it read and then
these queries, which from then on wait for an answer. -/
structure Asks (stack : Stack) (world : World) (asked : List Outgoing) (execution : Execution) :
    Prop where
  result : execution.result = .ok ()
  sent : ∃ waiting replies drained,
    world.network.Waits stack.connection.localAddress waiting ∧
    RepliedTo world.now stack ((waiting.take 64).map (Datagram.cut 2048)) replies ∧
    (∀ reply ∈ replies, ∀ request, reply.message.body ≠ .request request) ∧
    world.network.Consumed stack.connection.localAddress 64 drained ∧
    execution.world.network = drained.deliverAll stack.connection.localAddress
      (datagrams stack.family replies ++
        asked.map fun query => (query.destination, query.message.encode stack.family))
  waits : ∃ earlier, earlier.Sublist stack.inflight ∧
    execution.stack.inflight = earlier ++ asked.filterMap (queryOf world.now)

/-- A task as one stack makes it is made so by what becomes of it. -/
theorem Persists.task (persists : stack.Persists after)
    (timeout : after.taskTimeout = stack.taskTimeout) (job : Job) :
    after.task job = stack.task job := by
  rw [Stack.task, Stack.task, persists.wiring, timeout]

/-- A whole stack finds all that a job needs. -/
theorem FullyWired.queriesOf_task (wired : stack.FullyWired) (job : Job) :
    stack.queriesOf (stack.task job) = stack.queriesFor job := by
  have known : ∀ part ∈ [Part.localNode, .table, .factory, .dispatcher],
      (⟨.taskFactory, part⟩ : Wire) ∈ Wire.all := by decide
  have needs : job.needs ⊆ [.localNode, .table, .factory, .dispatcher] := by
    cases job <;> simp [Job.needs]
  have found : job.needs.all (stack.finds (stack.task job)) = true := by
    rw [List.all_eq_true]
    exact fun part needed => wired.finds rfl (known part (needs needed))
  exact if_pos found

/-- What a job asks goes to addresses of the stack's family, and is a word of its own. -/
theorem FullyWired.confined_queriesFor (wired : stack.FullyWired)
    (reached : stack.table.Reachable stack.family stack.localNode.id)
    (asks : job.AsksIn stack.family) :
    ∀ query ∈ stack.queriesFor job,
      query.destination.family = stack.family ∧ stack.OwnWord query.message := by
  intro query mem
  have request := exists_request_of_mem_numbered mem
  have requester : (stack.inquiry job).1.requester = stack.localNode.id := by
    cases job <;> rfl
  rw [← wired.queriesOf_task] at mem
  refine ⟨?_, Message.fits_of_modest (modest_of_mem_queriesOf mem), ?_⟩
  · rcases destination_of_mem_queriesOf mem with ⟨node, holds, same⟩ | named
    · rw [← same]
      exact reached.family_of_holds holds
    · exact asks.addresses _ named
  · intro id author
    rw [request, Body.author, requester] at author
    exact (Option.some.inj author).symm

theorem datagrams_of_confined {family : Family} {messages : List Outgoing}
    (confined : ∀ outgoing ∈ messages, outgoing.destination.family = family) :
    datagrams family messages =
      messages.map fun outgoing => (outgoing.destination, outgoing.message.encode family) := by
  rw [datagrams, List.filter_eq_self.2 fun outgoing mem => decide_eq_true (confined outgoing mem)]

theorem requests_of_confined {family : Family} {messages : List Outgoing}
    (confined : ∀ outgoing ∈ messages, outgoing.destination.family = family) (now : Nat) :
    requests now family messages = messages.filterMap (queryOf now) := by
  rw [requests, List.filter_eq_self.2 fun outgoing mem => decide_eq_true (confined outgoing mem)]

theorem requests_append (now : Nat) (family : Family) (first second : List Outgoing) :
    requests now family (first ++ second) =
      requests now family first ++ requests now family second := by
  simp [requests]

/-- Replies are not among the queries that wait for an answer. -/
theorem requests_eq_nil {family : Family} {messages : List Outgoing}
    (answers : ∀ outgoing ∈ messages, ∀ asked, outgoing.message.body ≠ .request asked) (now : Nat) :
    requests now family messages = [] := by
  rw [requests, List.filterMap_eq_nil_iff]
  intro outgoing mem
  exact queryOf_eq_none now (answers outgoing (List.mem_filter.1 mem).1)

/-- What a stack sends to itself is no message from another node. -/
theorem saidBy_of_arriving {messages : List Outgoing} {home : Address}
    (words : ∀ outgoing ∈ messages, stack.OwnWord outgoing.message)
    (mem : datagram ∈ Network.arriving home home (datagrams stack.family messages))
    {message : Message}
    (decoded : Message.decode stack.family (datagram.cut mtu).bytes = .ok message) :
    message.body.SaidBy stack.localNode.id := by
  obtain ⟨⟨destination, bytes⟩, listed, rfl⟩ := List.mem_map.1 mem
  obtain ⟨outgoing, sent, same⟩ := List.mem_map.1 (List.mem_filter.1 listed).1
  obtain ⟨-, rfl⟩ := Prod.mk.inj same
  obtain ⟨fits, said⟩ := words outgoing (List.mem_filter.1 sent).1
  rw [Datagram.cut_eq_self fits.size] at decoded
  rw [← Except.ok.inj (fits.decoded.symm.trans decoded)]
  intro author given
  exact said author ((Body.author_bare _).symm.trans given)

namespace Awaiting

variable (awaiting : stack.Awaiting (job :: jobs))

include awaiting

/-- What a stack that hears nobody else has done before it gives up on queries. -/
theorem exists_worked
    (said : ∀ datagram ∈ waiting, ∀ message,
      Message.decode stack.family (datagram.cut mtu).bytes = .ok message →
        message.body.SaidBy stack.localNode.id)
    (asks : job.AsksIn stack.family) (world : World) :
    ∃ settled replies,
      RepliedTo world.now stack ((waiting.take maxReceived).map (Datagram.cut mtu)) replies ∧
      (∀ reply ∈ replies, stack.OwnWord reply.message ∧
        ∀ asked, reply.message.body ≠ .request asked) ∧
      Unmoved stack settled ∧
      stack.worked world waiting =
        { settled with
          tasks := ⟨jobs.map stack.task, [], []⟩
          outbox := { stack.outbox with queue := replies ++ stack.queriesFor job }
          nextTransaction :=
            stack.nextTransaction + UInt16.ofNat (stack.inquiry job).2.length } := by
  have readSaid : ∀ datagram ∈ (waiting.take maxReceived).map (Datagram.cut mtu), ∀ message,
      Message.decode stack.family datagram.bytes = .ok message →
        message.body.SaidBy stack.localNode.id := by
    intro datagram mem
    obtain ⟨uncut, listed, rfl⟩ := List.mem_map.1 mem
    exact said uncut (List.mem_of_mem_take listed)
  obtain ⟨replies, replied, unmoved, queued, words⟩ :=
    awaiting.wired.exists_own_replies awaiting.reached world.now _ readSaid
  unfold worked
  dsimp only
  generalize handleAll world.now ((waiting.take maxReceived).map (Datagram.cut mtu)) stack =
    settled at unmoved queued ⊢
  refine ⟨settled, replies, replied, words, unmoved, ?_⟩
  rw [awaiting.unsent, List.nil_append] at queued
  let taken : Stack := { settled with tasks := ⟨jobs.map stack.task, [], []⟩ }
  have persists : stack.Persists taken := ⟨unmoved.persists.localNode, unmoved.persists.connection,
    unmoved.persists.wiring, unmoved.persists.gone⟩
  have ready : (settled.runReady world.now world.entropy).2.2 =
      (taken.runTask world.now world.entropy (stack.task job)).2.2 := by
    rw [runReady, unmoved.tasks, awaiting.tasks]
    rfl
  have links : (stack.task job).links = taken.wiring.ofPart .taskFactory := by
    rw [persists.wiring]
    rfl
  have inquiry : taken.inquiry (stack.task job).job = stack.inquiry job := by
    have id := congrArg LocalNode.id persists.localNode
    have table : taken.table = stack.table := unmoved.table
    cases job <;> simp only [Stack.inquiry, Stack.task, id, table]
  have number : taken.nextTransaction = stack.nextTransaction := unmoved.nextTransaction
  have outbox : taken.outbox = { stack.outbox with queue := replies } := queued
  rw [ready, (persists.fullyWired awaiting.wired).runTask_eq links asks.asks, inquiry, number,
    outbox]
  rfl

/-- A round does the first job: it sends what that asks, and the stack is left with the
other jobs.  If nobody else sends, it hears nobody else in the next round either. -/
theorem round (alone : stack.Alone world.network) (asks : job.AsksIn stack.family)
    (readiness : Address) (client : Option ClientHandle) :
    let execution := (Action.interaction readiness client).execute world stack
    stack.Asks world (stack.queriesFor job) execution ∧ execution.stack.Awaiting jobs ∧
      stack.Persists execution.stack ∧ execution.stack.taskTimeout = stack.taskTimeout ∧
      execution.stack.Alone execution.world.network := by
  obtain ⟨waiting, ⟨handles, bound⟩, said⟩ := alone
  have round := awaiting.wired.round bound readiness client
  generalize (Action.interaction readiness client).execute world stack = execution at round ⊢
  obtain ⟨settled, replies, replied, words, unmoved, worked⟩ :=
    awaiting.exists_worked said asks world
  obtain ⟨result, after, drained, consumed, sends⟩ := round
  have confined := awaiting.wired.confined_queriesFor awaiting.reached asks
  have toFamily := fun query mem => (confined query mem).1
  have answers := fun reply mem => (words reply mem).2
  have allWords : ∀ outgoing ∈ replies ++ stack.queriesFor job, stack.OwnWord outgoing.message := by
    intro outgoing mem
    rcases List.mem_append.1 mem with reply | query
    · exact (words outgoing reply).1
    · exact (confined outgoing query).2
  rw [worked] at after sends
  rw [expire_eq] at after
  dsimp only at after sends
  have persists : stack.Persists execution.stack := by
    rw [after]
    exact ⟨unmoved.persists.localNode, unmoved.persists.connection, unmoved.persists.wiring,
      unmoved.persists.gone⟩
  have timeout : execution.stack.taskTimeout = stack.taskTimeout := by
    rw [after]
    exact unmoved.taskTimeout
  have asks : stack.Asks world (stack.queriesFor job) execution := by
    refine ⟨result, ⟨waiting, replies, drained, ⟨handles, bound⟩, replied, answers, consumed, ?_⟩,
      (Inflight.expire world.now settled.inflight).2, ?_, ?_⟩
    · rw [sends, datagrams_append, datagrams_of_confined toFamily]
    · rw [Inflight.expire_eq_filter]
      exact List.filter_sublist.trans unmoved.inflight
    · rw [after, requests_append, requests_eq_nil answers, List.nil_append,
        requests_of_confined toFamily]
  have left : execution.stack.Awaiting jobs := by
    refine ⟨persists.fullyWired awaiting.wired, ?_, ?_, by rw [after]⟩
    · have before : settled.table.Reachable stack.family stack.localNode.id := by
        rw [unmoved.table]
        exact awaiting.reached
      rw [persists.family, persists.localNode, after]
      dsimp only
      split
      · exact before.evict _
      · exact before
    · have same : execution.stack.task = stack.task := funext (persists.task timeout)
      rw [same, after]
  -- What the stack sends may come back to it, and then it hears itself in the next round.
  have here : execution.world.network.channel? stack.connection.localAddress =
      some ⟨handles, waiting.drop maxReceived ++
        Network.arriving stack.connection.localAddress stack.connection.localAddress
          (datagrams stack.family (replies ++ stack.queriesFor job))⟩ := by
    rw [sends, Network.channel?_deliverAll, consumed.here, bound]
    rfl
  refine ⟨asks, left, persists, timeout, persists.alone ⟨_, ⟨handles, here⟩, ?_⟩⟩
  intro datagram mem message decoded
  rcases List.mem_append.1 mem with rest | own
  · exact said datagram (List.mem_of_mem_drop rest) message decoded
  · exact saidBy_of_arriving allWords own decoded

end Awaiting

/-! ## One job after another -/

/-- A stack after some rounds, each in surroundings of its own. -/
def afterRounds (readiness : Address) (client : Option ClientHandle) (worlds : List World)
    (stack : Stack) : Stack :=
  worlds.foldl
    (fun stack world => ((Action.interaction readiness client).execute world stack).stack) stack

theorem afterRounds_cons (readiness : Address) (client : Option ClientHandle) (world : World)
    (worlds : List World) (stack : Stack) :
    stack.afterRounds readiness client (world :: worlds) =
      ((Action.interaction readiness client).execute world stack).stack.afterRounds readiness client
        worlds := by
  rw [afterRounds, List.foldl_cons, ← afterRounds]

/-- In each round one job is done, the first one that is left. -/
theorem Awaiting.afterRounds (awaiting : stack.Awaiting jobs) {worlds : List World}
    (alone : ∀ world ∈ worlds, stack.Alone world.network) (enough : worlds.length ≤ jobs.length)
    (asks : ∀ job ∈ jobs.take worlds.length, job.AsksIn stack.family)
    (readiness : Address) (client : Option ClientHandle) :
    (stack.afterRounds readiness client worlds).Awaiting (jobs.drop worlds.length) ∧
      stack.Persists (stack.afterRounds readiness client worlds) ∧
      (stack.afterRounds readiness client worlds).taskTimeout = stack.taskTimeout := by
  -- On the surroundings: a round leaves the stack waiting for the jobs behind the first one.
  induction worlds generalizing stack jobs with
  | nil => exact ⟨awaiting, .refl stack, rfl⟩
  | cons world worlds ih =>
    obtain ⟨here, later⟩ := List.forall_mem_cons.1 alone
    cases jobs with
    | nil => exact absurd enough (Nat.not_succ_le_zero _)
    | cons job jobs =>
      obtain ⟨asksFirst, asksLater⟩ := List.forall_mem_cons.1 asks
      obtain ⟨-, left, persists, timeout, -⟩ := awaiting.round here asksFirst readiness client
      rw [← persists.family] at asksLater
      rw [afterRounds_cons, List.length_cons, List.drop_succ_cons]
      generalize ((Action.interaction readiness client).execute world stack).stack = next at *
      obtain ⟨last, persistsLater, timeoutLater⟩ :=
        ih left (fun world mem => persists.alone (later world mem)) (Nat.le_of_succ_le_succ enough)
          asksLater
      exact ⟨last, persists.trans persistsLater, timeoutLater.trans timeout⟩

/-- Each round asks what the job that comes then asks, in the state that the rounds before it
left. -/
theorem Awaiting.asks_of_getElem? (awaiting : stack.Awaiting jobs) {worlds : List World}
    (alone : ∀ other ∈ worlds ++ [world], stack.Alone other.network)
    (asks : ∀ job ∈ jobs.take (worlds.length + 1), job.AsksIn stack.family)
    (next : jobs[worlds.length]? = some job) {before : Stack}
    (sofar : stack.afterRounds readiness client worlds = before)
    (executed : (Action.interaction readiness client).execute world before = execution) :
    before.Asks world (before.queriesFor job) execution ∧
      execution.stack.Alone execution.world.network ∧ stack.Persists before ∧
      before.taskTimeout = stack.taskTimeout ∧
      before.table.Reachable stack.family stack.localNode.id := by
  obtain ⟨here, rfl⟩ := List.getElem?_eq_some_iff.1 next
  have earlier : ∀ job ∈ jobs.take worlds.length, job.AsksIn stack.family := by
    intro job mem
    exact asks job (List.take_subset_take_left jobs (Nat.le_succ _) mem)
  have now : jobs[worlds.length] ∈ jobs.take (worlds.length + 1) := by
    rw [List.take_succ_eq_append_getElem here]
    exact List.mem_append_right _ List.mem_cons_self
  obtain ⟨left, persists, timeout⟩ := awaiting.afterRounds
    (fun other mem => alone other (List.mem_append_left _ mem)) (Nat.le_of_lt here) earlier
    readiness client
  rw [sofar] at left persists timeout
  have reached := left.reached
  rw [persists.family, persists.localNode] at reached
  rw [List.drop_eq_getElem_cons here] at left
  have family : jobs[worlds.length].AsksIn before.family := persists.family ▸ asks _ now
  have alone := persists.alone (alone world (List.mem_append_right _ List.mem_cons_self))
  obtain ⟨sent, -, -, -, still⟩ := left.round alone family readiness client
  rw [executed] at sent still
  exact ⟨sent, still, persists, timeout, reached⟩

end Stack

end Kademlia
