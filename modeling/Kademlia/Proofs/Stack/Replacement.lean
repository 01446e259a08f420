import Kademlia.Proofs.Inflight
import Kademlia.Proofs.Stack.Round

/-!
# How a newcomer takes the place of a silent node

A query from a node that finds its bucket full makes the stack ask the oldest node
there whether it still is.  If that stays silent the newcomer takes its place; if it
answers it is the latest one again, and the newcomer stays out.
-/

namespace Kademlia

open Krpc

namespace Stack

variable {stack : Stack} {world : World} {datagram : Datagram} {transactionId : UInt16}
  {asked : Request} {oldest : Node} {others : List Node}

/-- A stack at rest, on whose socket waits nothing but a query, and the author of the
query is new and finds its bucket full. -/
structure MeetsNewcomer (stack : Stack) (world : World) (datagram : Datagram)
    (transactionId : UInt16) (asked : Request) (oldest : Node) (others : List Node) : Prop where
  wired : stack.FullyWired
  reached : stack.table.Reachable stack.family stack.table.id
  idle : stack.tasks = .empty
  unsent : stack.outbox.queue = []
  unasked : stack.inflight = []
  waits : world.network.Waits stack.connection.localAddress [datagram]
  holds : HoldsQuery stack.family (datagram.cut mtu) transactionId asked
  ofFamily : datagram.source.family = stack.family
  absent : stack.table.contains asked.requester = false
  nodes : stack.table.nodesAt (stack.table.id.distance asked.requester) = oldest :: others
  full : (oldest :: others).length = Bucket.capacity

/-- A datagram by which a node answers the query under a number. -/
structure HoldsAnswer (family : Family) (datagram : Datagram) (transactionId : UInt16)
    (node : Node) : Prop where
  origin : datagram.source = node.address
  port : node.address.port ≠ 0
  head : datagram.bytes.head? = some 0x64
  decoded : ∃ answered, answered.responder = node.id ∧
    Message.decode family datagram.bytes = .ok ⟨transactionId, .response answered⟩

/-! ## The oldest node is asked -/

/-- A stack that put a newcomer into its table and asked the oldest node there. -/
def asking (stack : Stack) (now : Nat) (announces : AnnounceStore) (newcomer oldest : Node) :
    Stack :=
  { stack with
    announces
    table := (stack.table.insert now newcomer).2
    inflight :=
      [⟨stack.nextTransaction, oldest.address, some oldest.id, "ping", now, stack.taskTimeout⟩]
    nextTransaction := stack.nextTransaction + 1 }

theorem FullyWired.asking (wired : stack.FullyWired) (now : Nat) (announces : AnnounceStore)
    (newcomer oldest : Node) : (stack.asking now announces newcomer oldest).FullyWired :=
  ⟨wired.wired, wired.whole⟩

/-- A reply to an address, and a ping to a node, as they are queued. -/
def replyAndPing (stack : Stack) (reply : Message) (author : Address) (node : Node) :
    List Outgoing :=
  [⟨reply, author, none, stack.outbox.timeout⟩,
    ⟨⟨stack.nextTransaction, .request (.ping stack.localNode.id)⟩, node.address, some node.id,
      stack.taskTimeout⟩]

theorem datagrams_replyAndPing {author : Address} {node : Node} (reply : Message)
    (toAuthor : author.family = stack.family) (toNode : node.address.family = stack.family) :
    datagrams stack.family (stack.replyAndPing reply author node) =
      [(author, Message.encode stack.family reply),
        (node.address, Message.encode stack.family
          ⟨stack.nextTransaction, .request (.ping stack.localNode.id)⟩)] := by
  rw [replyAndPing, datagrams_cons_of_family toAuthor, datagrams_cons_of_family toNode]
  rfl

/-- Of the two it is the ping that is to be answered. -/
theorem requests_replyAndPing {author : Address} {node : Node} (reply : Message)
    (answers : ∀ asked, reply.body ≠ .request asked) (toAuthor : author.family = stack.family)
    (toNode : node.address.family = stack.family) (now : Nat) :
    requests now stack.family (stack.replyAndPing reply author node) =
      [⟨stack.nextTransaction, node.address, some node.id, "ping", now, stack.taskTimeout⟩] := by
  rw [requests, replyAndPing, List.filter_cons_of_pos (by simpa using toAuthor),
    List.filter_cons_of_pos (by simpa using toNode),
    List.filterMap_cons_none (queryOf_eq_none now answers)]
  rfl

/-- A node that is deferred has the oldest node asked. -/
theorem FullyWired.addNode_of_deferred (wired : stack.FullyWired) {now : Nat} {node : Node}
    (deferred : (stack.table.insert now node).1 = .deferred oldest) :
    (stack.addNode now node).2 =
      { stack with table := (stack.table.insert now node).2 }.schedule .immediate
        (.ping oldest.address (some oldest.id)) := by
  have taskQueue : { stack with table := (stack.table.insert now node).2 }.resolves
      .table .taskQueue = true := wired.resolves (by decide)
  have taskFactory : { stack with table := (stack.table.insert now node).2 }.resolves
      .table .taskFactory = true := wired.resolves (by decide)
  unfold addNode
  generalize stack.table.insert now node = result at deferred taskQueue taskFactory ⊢
  obtain ⟨insertion, table⟩ := result
  cases deferred
  dsimp only at taskQueue taskFactory ⊢
  rw [taskQueue, taskFactory]
  rfl

namespace MeetsNewcomer

variable (meets : stack.MeetsNewcomer world datagram transactionId asked oldest others)

include meets

theorem deferred :
    let newcomer : Node := ⟨asked.requester, datagram.source⟩
    let result := stack.table.insert world.now newcomer
    result.1 = .deferred oldest ∧
      (∀ distance, result.2.nodesAt distance = stack.table.nodesAt distance) ∧
      (result.2.cachedAt (stack.table.id.distance newcomer.id)).getLast? = some newcomer := by
  intro newcomer result
  have ofFamily : newcomer.family = stack.table.family :=
    meets.ofFamily.trans meets.reached.family_eq.symm
  exact meets.reached.wellFormed.insert_of_full ofFamily meets.absent meets.nodes
    (Nat.le_of_eq meets.full.symm) world.now

/-- The newcomer is replied to, and the oldest node is asked. -/
theorem worked_eq :
    let reply := stack.reply world.now datagram.source asked
    let asking := stack.asking world.now reply.2 ⟨asked.requester, datagram.source⟩ oldest
    stack.worked world [datagram] =
      { asking with
        inflight := []
        outbox := { stack.outbox with
          queue := stack.replyAndPing ⟨transactionId, reply.1⟩ datagram.source oldest } } := by
  intro reply asking
  let newcomer : Node := ⟨asked.requester, datagram.source⟩
  let replied := stack.replied world.now transactionId asked datagram.source
  let handled : Stack :=
    { replied with table := (stack.table.insert world.now newcomer).2 }.schedule .immediate
      (.ping oldest.address (some oldest.id))
  have handles : handleAll world.now [datagram.cut mtu] stack = handled := by
    have whole : replied.FullyWired := ⟨meets.wired.wired, meets.wired.whole⟩
    change (stack.handle world.now (datagram.cut mtu)).2 = handled
    rw [meets.wired.handle_request meets.holds]
    exact whole.addNode_of_deferred meets.deferred.1
  have whole : handled.FullyWired := ⟨meets.wired.wired, meets.wired.whole⟩
  have tasks : handled.tasks =
      ⟨[], [], [stack.task (.ping oldest.address (some oldest.id))]⟩ := by
    change stack.tasks.add .immediate _ = _
    rw [meets.idle]
    rfl
  have ran := whole.runReady_of_ping tasks rfl rfl world.now world.entropy
  change ((handleAll world.now [datagram.cut mtu] stack).runReady world.now
    world.entropy).2.2 = _
  rw [handles, ran, ← meets.idle, ← meets.unasked]
  have queued : handled.outbox =
      { stack.outbox with
        queue :=
          [⟨⟨transactionId, reply.1⟩, datagram.source, none, stack.outbox.timeout⟩] } := by
    change stack.outbox.add ⟨transactionId, reply.1⟩ datagram.source none = _
    rw [Outbox.add, Outbox.addWithTimeout, meets.unsent]
    rfl
  rw [queued]
  rfl

theorem oldest_family : oldest.address.family = stack.family := by
  have live : oldest ∈ stack.table.nodesAt (stack.table.id.distance asked.requester) := by
    rw [meets.nodes]
    exact List.mem_cons_self
  exact (meets.reached.wellFormed.of_mem_nodesAt live).1.trans meets.reached.family_eq

/-- In the round that finds the query, the reply and the ping are sent in this order,
and of the two the ping is to be answered. -/
theorem first_round (readiness : Address) (client : Option ClientHandle) :
    let home := stack.connection.localAddress
    let reply := stack.reply world.now datagram.source asked
    let execution := (Action.interaction readiness client).execute world stack
    execution.result = .ok () ∧
      execution.stack =
        stack.asking world.now reply.2 ⟨asked.requester, datagram.source⟩ oldest ∧
      ∃ drained, world.network.Consumed home 64 drained ∧
        execution.world.network = drained.deliverAll home
          [(datagram.source, Message.encode stack.family ⟨transactionId, reply.1⟩),
            (oldest.address, Message.encode stack.family
              ⟨stack.nextTransaction, .request (.ping stack.localNode.id)⟩)] := by
  obtain ⟨handles, bound⟩ := meets.waits
  have round := meets.wired.round bound readiness client
  generalize (Action.interaction readiness client).execute world stack = execution at round ⊢
  intro home reply
  obtain ⟨result, after, drained, consumed, sends⟩ := round
  have waiting := stack.reply_ne_request world.now datagram.source asked
  have asks := requests_replyAndPing ⟨transactionId, reply.1⟩ waiting meets.ofFamily
    meets.oldest_family world.now
  have sent := datagrams_replyAndPing ⟨transactionId, reply.1⟩ meets.ofFamily meets.oldest_family
  rw [meets.worked_eq, expire_of_unasked rfl] at after
  rw [meets.worked_eq] at sends
  refine ⟨result, ?_, drained, consumed, sends.trans (congrArg _ sent)⟩
  have unsent : { stack.outbox with queue := [] } = stack.outbox := by
    rw [← meets.unsent]
  refine after.trans ?_
  dsimp only
  rw [unsent, asks]
  rfl

end MeetsNewcomer

/-! ## The oldest node answers, or does not -/

section

variable {now : Nat} {announces : AnnounceStore} {newcomer : Node} {answer : Datagram}

/-- The ping is given up on once it has waited for too long, and its node removed. -/
theorem FullyWired.expire_asking (wired : stack.FullyWired) (later : Nat) :
    ((stack.asking now announces newcomer oldest).expire later).2 =
      if stack.taskTimeout ≤ later - now then
        { stack.asking now announces newcomer oldest with
          inflight := []
          table := ((stack.table.insert now newcomer).2.remove oldest.id).2 }
      else stack.asking now announces newcomer oldest := by
  let asked := stack.asking now announces newcomer oldest
  have linked : asked.resolves .tracker .table = true := wired.resolves (by decide)
  let ping : Query :=
    ⟨stack.nextTransaction, oldest.address, some oldest.id, "ping", now, stack.taskTimeout⟩
  have waits : Inflight.expire later asked.inflight =
      ([ping].filter (·.isExpired later), [ping].filter (!·.isExpired later)) :=
    Inflight.expire_eq_filter later [ping]
  rw [expire_eq, if_pos linked, silent, waits]
  by_cases elapsed : stack.taskTimeout ≤ later - now
  · have expired : ping.isExpired later = true := decide_eq_true elapsed
    rw [if_pos elapsed]
    simp only [List.filter_cons, List.filter_nil, expired]
    rfl
  · have waiting : ping.isExpired later = false := decide_eq_false elapsed
    rw [if_neg elapsed]
    simp only [List.filter_cons, List.filter_nil, waiting]
    rfl

/-- The answer to the ping is taken for one, and its author is the latest node. -/
theorem FullyWired.handle_answer (wired : stack.FullyWired) (later : Nat)
    (holds : HoldsAnswer stack.family answer stack.nextTransaction oldest)
    (known : ((stack.table.insert now newcomer).2.insert later oldest).1 = .stored) :
    ((stack.asking now announces newcomer oldest).handle later answer).2 =
      { stack.asking now announces newcomer oldest with
        inflight := []
        table := ((stack.table.insert now newcomer).2.insert later oldest).2 } := by
  let asked := stack.asking now announces newcomer oldest
  have whole := wired.asking now announces newcomer oldest
  obtain ⟨origin, port, head, answered, responder, decoded⟩ := holds
  rw [← origin] at port
  have found : Inflight.answer stack.nextTransaction answer.source asked.inflight =
      some (⟨stack.nextTransaction, oldest.address, some oldest.id, "ping", now,
        stack.taskTimeout⟩, []) := by
    rw [Inflight.answer_eq_some_iff]
    exact ⟨⟨rfl, by rw [origin], .inr (by rw [origin])⟩, [], [], rfl, rfl, by simp⟩
  have reply : ∀ asked, Body.response answered ≠ .request asked := fun _ => nofun
  change (asked.handle later answer).2 = _
  rw [whole.handle_of_decoded later port head decoded,
    whole.accept_reply later answer.source reply, found]
  have author : (⟨answered.responder, answer.source⟩ : Node) = oldest := by
    rw [responder, origin]
  change ({ asked with inflight := [] }.addNode later ⟨answered.responder, answer.source⟩).2 = _
  rw [author]
  exact addNode_of_stored known

end

namespace MeetsNewcomer

variable {later : World} {answer : Datagram}
  (meets : stack.MeetsNewcomer world datagram transactionId asked oldest others)

include meets

/-- With nothing to receive a round leaves the stack as it is until the ping has waited
for too long, and then the newcomer takes the place of the oldest node. -/
theorem silent_round (announces : AnnounceStore) (readiness : Address)
    (client : Option ClientHandle)
    (nothing : later.network.Waits stack.connection.localAddress []) :
    let newcomer : Node := ⟨asked.requester, datagram.source⟩
    let asking := stack.asking world.now announces newcomer oldest
    let execution := (Action.interaction readiness client).execute later asking
    execution.result = .ok () ∧
      execution.stack =
        if stack.taskTimeout ≤ later.now - world.now then
          { asking with
            inflight := []
            table := ((stack.table.insert world.now newcomer).2.remove oldest.id).2 }
        else asking := by
  intro newcomer asking
  have whole := meets.wired.asking world.now announces newcomer oldest
  obtain ⟨result, after⟩ := whole.round_of_idle meets.idle meets.unsent nothing readiness client
  exact ⟨result, after.trans (meets.wired.expire_asking later.now)⟩

/-- When the answer to the ping is received nothing waits any more, and the oldest
node is the latest one. -/
theorem answered_round (announces : AnnounceStore) (readiness : Address)
    (client : Option ClientHandle)
    (waits : later.network.Waits stack.connection.localAddress [answer])
    (holds : HoldsAnswer stack.family (answer.cut mtu) stack.nextTransaction oldest) :
    let newcomer : Node := ⟨asked.requester, datagram.source⟩
    let asking := stack.asking world.now announces newcomer oldest
    let execution := (Action.interaction readiness client).execute later asking
    execution.result = .ok () ∧
      execution.stack =
        { asking with
          inflight := []
          table := ((stack.table.insert world.now newcomer).2.insert later.now oldest).2 } := by
  intro newcomer asking
  obtain ⟨handles, bound⟩ := waits
  obtain ⟨-, still, -⟩ := meets.deferred
  have whole := meets.wired.asking world.now announces newcomer oldest
  have wf := meets.reached.wellFormed.insert world.now newcomer
  have known := (wf.insert_oldest ((still _).trans meets.nodes) later.now).1
  let settled : Stack :=
    { asking with
      inflight := []
      table := ((stack.table.insert world.now newcomer).2.insert later.now oldest).2 }
  have handled : (asking.handle later.now (answer.cut mtu)).2 = settled :=
    meets.wired.handle_answer later.now holds known
  have idle : settled.tasks = .empty := meets.idle
  have worked : asking.worked later [answer] = settled := by
    change ((asking.handle later.now (answer.cut mtu)).2.runReady later.now later.entropy).2.2 = _
    rw [handled]
    exact runReady_of_idle idle later.now later.entropy
  have round := whole.round bound readiness client
  have after := round.stack_eq_of_unsent (by rw [worked]; exact meets.unsent)
  rw [worked, expire_of_unasked rfl] at after
  exact ⟨round.result, after⟩

end MeetsNewcomer

/-! ## Who stays -/

namespace MeetsNewcomer

variable (meets : stack.MeetsNewcomer world datagram transactionId asked oldest others)

include meets

/-- The newcomer comes in as the latest node for the oldest one. -/
theorem nodesAt_silent :
    let newcomer : Node := ⟨asked.requester, datagram.source⟩
    let table := ((stack.table.insert world.now newcomer).2.remove oldest.id).2
    table.contains oldest.id = false ∧
      ∀ other, table.nodesAt other =
        if other = stack.table.id.distance newcomer.id then others ++ [newcomer]
        else stack.table.nodesAt other := by
  intro newcomer table
  obtain ⟨-, still, last⟩ := meets.deferred
  have wf := meets.reached.wellFormed.insert world.now newcomer
  refine ⟨(wf.removes oldest.id).gone, ?_⟩
  intro other
  rw [← still other]
  exact wf.nodesAt_remove_oldest ((still _).trans meets.nodes) last other

/-- The oldest node becomes the latest one, and the newcomer stays out. -/
theorem nodesAt_answered (later : Nat) :
    let newcomer : Node := ⟨asked.requester, datagram.source⟩
    let table := ((stack.table.insert world.now newcomer).2.insert later oldest).2
    table.contains newcomer.id = false ∧
      ∀ other, table.nodesAt other =
        if other = stack.table.id.distance newcomer.id then others ++ [oldest]
        else stack.table.nodesAt other := by
  intro newcomer table
  obtain ⟨-, still, -⟩ := meets.deferred
  have wf := meets.reached.wellFormed.insert world.now newcomer
  have placed (other : Nat) : table.nodesAt other =
      if other = stack.table.id.distance newcomer.id then others ++ [oldest]
      else stack.table.nodesAt other := by
    rw [← still other]
    exact (wf.insert_oldest ((still _).trans meets.nodes) later).2 other
  refine ⟨?_, placed⟩
  -- the nodes at the newcomer's distance are those from before, in another order
  have absent := meets.absent
  have own : table.id = stack.table.id :=
    (RoutingTable.id_insert _ _ _).trans (RoutingTable.id_insert _ _ _)
  rw [Bool.eq_false_iff, ne_eq, RoutingTable.contains_iff] at absent ⊢
  rw [own, placed, if_pos rfl]
  rw [meets.nodes] at absent
  rintro ⟨node, mem, named⟩
  have among : node ∈ oldest :: others := by
    rcases List.mem_append.1 mem with other | last
    · exact List.mem_cons_of_mem _ other
    · rw [List.mem_singleton.1 last]
      exact List.mem_cons_self
  exact absent ⟨node, among, named⟩

end MeetsNewcomer

/-- The query of a newcomer to a full bucket is replied to, and the oldest node there
is asked, while no node moves.  As long as nothing is received and the ping has not
waited for too long, it stays so.  After that the newcomer is there in place of the
oldest node, as the latest one; but if the answer is received, the oldest node is the
latest one, the newcomer is not there, and nothing is left that could be given up on. -/
theorem interaction_replaces_silent
    (meets : stack.MeetsNewcomer world datagram transactionId asked oldest others)
    (readiness : Address) (client : Option ClientHandle) :
    let home := stack.connection.localAddress
    let newcomer : Node := ⟨asked.requester, datagram.source⟩
    let distance := stack.table.id.distance newcomer.id
    let execution := (Action.interaction readiness client).execute world stack
    execution.result = .ok () ∧
      (∃ body replied drained,
        stack.answer world.now asked datagram.source = .ok (body, replied) ∧
        world.network.Consumed home 64 drained ∧
        execution.world.network = drained.deliverAll home
          [(datagram.source, Message.encode stack.family ⟨transactionId, body⟩),
            (oldest.address, Message.encode stack.family
              ⟨stack.nextTransaction, .request (.ping stack.localNode.id)⟩)]) ∧
      (∀ other, execution.stack.table.nodesAt other = stack.table.nodesAt other) ∧
      ∀ later readiness client,
        let next := (Action.interaction readiness client).execute later execution.stack
        (later.network.Waits home [] → world.now ≤ later.now →
          later.now < world.now + stack.taskTimeout →
          next.result = .ok () ∧ next.stack = execution.stack) ∧
        (later.network.Waits home [] → world.now + stack.taskTimeout ≤ later.now →
          next.result = .ok () ∧ next.stack.table.contains oldest.id = false ∧
            ∀ other, next.stack.table.nodesAt other =
              if other = distance then others ++ [newcomer] else stack.table.nodesAt other) ∧
        ∀ answer, later.network.Waits home [answer] →
          HoldsAnswer stack.family (answer.cut 2048) stack.nextTransaction oldest →
          next.result = .ok () ∧ next.stack.table.contains newcomer.id = false ∧
            (∀ other, next.stack.table.nodesAt other =
              if other = distance then others ++ [oldest] else stack.table.nodesAt other) ∧
            ∀ time, next.stack.expire time = ([], next.stack) := by
  have first := meets.first_round readiness client
  generalize (Action.interaction readiness client).execute world stack = execution at first ⊢
  intro home newcomer distance execution
  obtain ⟨result, after, drained, consumed, sends⟩ := first
  have answers := meets.wired.answer_eq world.now asked datagram.source
  refine ⟨result, ⟨_, _, drained, answers, consumed, sends⟩, ?_, ?_⟩
  · rw [after]
    exact meets.deferred.2.1
  intro later readiness client
  rw [after]
  refine ⟨?_, ?_, ?_⟩
  · intro nothing past early
    have waiting : ¬stack.taskTimeout ≤ later.now - world.now := by omega
    obtain ⟨ended, left⟩ := meets.silent_round (stack.reply world.now datagram.source asked).2
      readiness client nothing
    rw [if_neg waiting] at left
    exact ⟨ended, left⟩
  · intro nothing elapsed
    have passed : stack.taskTimeout ≤ later.now - world.now := by omega
    obtain ⟨ended, left⟩ := meets.silent_round (stack.reply world.now datagram.source asked).2
      readiness client nothing
    rw [if_pos passed] at left
    refine ⟨ended, ?_⟩
    rw [left]
    exact meets.nodesAt_silent
  · intro answer waits holds
    obtain ⟨ended, left⟩ := meets.answered_round (stack.reply world.now datagram.source asked).2
      readiness client waits holds
    obtain ⟨out, placed⟩ := meets.nodesAt_answered later.now
    rw [left]
    exact ⟨ended, out, placed, expire_of_unasked rfl⟩

/-- Eight nodes, of the ids 16 to 23, all at one port. -/
def eight (port : UInt16) : List Node :=
  (List.range' 16 8).map fun n => ⟨.ofNat n, ⟨.v4 (.zero 4), port⟩⟩

/-- A stack that has them for nodes: they fill a bucket. -/
def filled (port : UInt16) : Stack :=
  { assembled ⟨⟨.zero 20⟩, 6881⟩ ⟨.ipv4, ⟨.v4 (.zero 4), 6881⟩⟩ 1000 0 ⟨1⟩ with
    table := .run ((eight port).map (.insert 0)) (.empty .ipv4 ⟨.zero 20⟩) }

/-- A world at some time, in which datagrams wait on the socket of that stack. -/
def awaiting (now : Nat) (waiting : List Datagram) : World :=
  let home : Address := ⟨.v4 (.zero 4), 6881⟩
  let peer : Address := ⟨.v4 (.zero 4), 7000⟩
  let network : Network := ⟨[(home, ⟨1, waiting⟩), (peer, ⟨1, []⟩)], [], false, 0⟩
  ⟨now, 1700000000, ⟨1⟩, network, .empty, ⟨[]⟩, []⟩

/-- The ping of a ninth node. -/
def ninth : Datagram :=
  ⟨queryUnder [0x61, 0x62] (.ping (.ofNat 24)), ⟨.v4 (.zero 4), 7000⟩⟩

theorem eight_fill {port : UInt16} (known : port = 0 ∨ port = 7000) :
    (filled port).table.contains (.ofNat 24) = false ∧
      (filled port).table.nodesAt ((filled port).table.id.distance (.ofNat 24)) = eight port := by
  rcases known with rfl | rfl
  · decide +kernel
  · decide +kernel

theorem meetsNewcomer_ninth {port : UInt16} (known : port = 0 ∨ port = 7000) :
    (filled port).MeetsNewcomer (awaiting 0 [ninth]) ninth 0x6162 (.ping (.ofNat 24))
      ⟨.ofNat 16, ⟨.v4 (.zero 4), port⟩⟩ (eight port).tail := by
  have wired := fullyWired_assembled ⟨⟨.zero 20⟩, 6881⟩ ⟨.ipv4, ⟨.v4 (.zero 4), 6881⟩⟩ 1000 0 ⟨1⟩
  have reached : (filled port).table.Reachable .ipv4 ⟨.zero 20⟩ :=
    ⟨(eight port).map (.insert 0), by rw [filled]⟩
  have fits : ninth.bytes.length ≤ mtu := by decide +kernel
  obtain ⟨absent, nodes⟩ := eight_fill known
  exact {
    wired := ⟨wired.wired, wired.whole⟩
    reached := by
      rw [reached.id_eq]
      exact reached
    idle := rfl
    unsent := rfl
    unasked := rfl
    waits := ⟨1, rfl⟩
    holds := by
      rw [Datagram.cut_eq_self fits]
      exact ⟨by decide, rfl, decode_queryUnder rfl _ _⟩
    ofFamily := rfl
    absent
    nodes
    full := rfl }

/-- The answer of the oldest of the eight to the ping. -/
def oldestAnswers (port : UInt16) : Datagram :=
  ⟨Message.encode .ipv4 ⟨(filled port).nextTransaction, .response (.ping (.ofNat 16))⟩,
    ⟨.v4 (.zero 4), port⟩⟩

theorem decode_oldestAnswers (port : UInt16) :
    Message.decode .ipv4 (oldestAnswers port).bytes =
      .ok ⟨(filled port).nextTransaction, .response (.ping (.ofNat 16))⟩ :=
  Message.decode_encode (List.forall_mem_nil _)

/-- A ninth node takes the place of the oldest of eight, or does not when that
answers in time. -/
theorem interaction_replaces_silent_sixteen :
    let stack := filled 7000
    let home := stack.connection.localAddress
    let oldest : Node := ⟨.ofNat 16, ⟨.v4 (.zero 4), 7000⟩⟩
    let others := (eight 7000).tail
    let execution := (Action.interaction home none).execute (awaiting 0 [ninth]) stack
    let next (now : Nat) (waiting : List Datagram) :=
      (Action.interaction home none).execute (awaiting now waiting) execution.stack
    stack.MeetsNewcomer (awaiting 0 [ninth]) ninth 0x6162 (.ping (.ofNat 24)) oldest others ∧
      HoldsAnswer stack.family ((oldestAnswers 7000).cut 2048) stack.nextTransaction oldest ∧
      execution.result = .ok () ∧
      (next 999 []).stack = execution.stack ∧
      (next 1000 []).stack.table.contains (.ofNat 16) = false ∧
      (next 999 [oldestAnswers 7000]).stack.table.contains (.ofNat 24) = false := by
  intro stack home oldest others
  have meets : stack.MeetsNewcomer (awaiting 0 [ninth]) ninth 0x6162 (.ping (.ofNat 24)) oldest
      others := meetsNewcomer_ninth (.inr rfl)
  have fits : (oldestAnswers 7000).bytes.length ≤ 2048 := by decide +kernel
  have holds : HoldsAnswer stack.family ((oldestAnswers 7000).cut 2048) stack.nextTransaction
      oldest := by
    rw [Datagram.cut_eq_self fits]
    exact ⟨rfl, by decide, by decide +kernel, _, rfl, decode_oldestAnswers 7000⟩
  have timeout : stack.taskTimeout = 1000 := rfl
  have replaced := interaction_replaces_silent meets home none
  generalize (Action.interaction home none).execute (awaiting 0 [ninth]) stack = execution
    at replaced ⊢
  obtain ⟨result, -, -, later⟩ := replaced
  obtain ⟨waits, -, -⟩ := later (awaiting 999 []) home none
  obtain ⟨-, silent, -⟩ := later (awaiting 1000 []) home none
  obtain ⟨-, -, answered⟩ := later (awaiting 999 [oldestAnswers 7000]) home none
  have same := (waits ⟨1, rfl⟩ (Nat.zero_le _) (by rw [timeout]; decide)).2
  have gone := (silent ⟨1, rfl⟩ (by rw [timeout]; decide)).2.1
  have out := (answered _ ⟨1, rfl⟩ holds).2.1
  dsimp only
  exact ⟨meets, holds, result, same, gone, out⟩

/-- An oldest node that is at port 0 answers, and is removed all the same: what comes
from there is ignored.  And the query of a newcomer that has the form of a list is not
taken for one. -/
theorem interaction_ignores_portless_answer :
    let stack := filled 0
    let home := stack.connection.localAddress
    let oldest : Node := ⟨.ofNat 16, ⟨.v4 (.zero 4), 0⟩⟩
    let round (now : Nat) (waiting : List Datagram) (stack : Stack) :=
      (Action.interaction home none).execute (awaiting now waiting) stack
    let asking := (round 0 [ninth] stack).stack
    let answered := (round 999 [oldestAnswers 0] asking).stack
    let listed : Datagram := ⟨pingList, ninth.source⟩
    stack.MeetsNewcomer (awaiting 0 [ninth]) ninth 0x6162 (.ping (.ofNat 24)) oldest
        (eight 0).tail ∧
      (oldestAnswers 0).source = oldest.address ∧
      Message.decode stack.family (oldestAnswers 0).bytes =
        .ok ⟨stack.nextTransaction, .response (.ping oldest.id)⟩ ∧
      answered.table.nodesAt (stack.table.id.distance (.ofNat 24)) = eight 0 ∧
      (round 1000 [] answered).stack.table.contains oldest.id = false ∧
      Message.decode stack.family listed.bytes = .ok ⟨0x6162, .request (.ping (.ofNat 24))⟩ ∧
      ((round 0 [listed] stack).world.network.take listed.source).1 = [] := by
  refine ⟨meetsNewcomer_ninth (.inl rfl), rfl, decode_oldestAnswers 0, ?_, ?_,
    decode_pingList, ?_⟩
  · decide +kernel
  · decide +kernel
  · decide +kernel

end Stack

end Kademlia
