import Kademlia.Host.Command
import Kademlia.Proofs.Stack.Receiving
import Kademlia.Proofs.Stack.Tasks

/-!
# One round

What an interaction does in one round, step by step: it handles what waits on the
socket, runs one task of each queue, gives up on queries, and sends what is queued
by then.  So a query that is received is replied to within the round, once, and
behind what was queued before.
-/

namespace Kademlia

open Krpc

namespace Stack

variable {stack : Stack} {world : World} {handles : Nat} {waiting : List Datagram}

/-! ## The steps of a round -/

/-- A stack that received what it has room for and ran the tasks of a round. -/
def worked (stack : Stack) (world : World) (waiting : List Datagram) : Stack :=
  let read := (waiting.take maxReceived).map (Datagram.cut mtu)
  ((handleAll world.now read stack).runReady world.now world.entropy).2.2

theorem persists_worked (stack : Stack) (world : World) (waiting : List Datagram) :
    Persists stack (stack.worked world waiting) :=
  (persists_handleAll world.now _ stack).trans (persists_runReady _ world.now world.entropy)

/-- What comes of a stack, and of its world, in a round that found some datagrams
waiting on the socket. -/
structure Round (stack : Stack) (world : World) (waiting : List Datagram)
    (execution : Execution) : Prop where
  result : execution.result = .ok ()
  after : execution.stack =
    let expired := ((stack.worked world waiting).expire world.now).2
    { expired with
      outbox := { expired.outbox with queue := [] }
      inflight := expired.inflight ++ requests world.now stack.family expired.outbox.queue }
  network : ∃ drained,
    world.network.Consumed stack.connection.localAddress maxReceived drained ∧
      execution.world.network = drained.deliverAll stack.connection.localAddress
        (datagrams stack.family (stack.worked world waiting).outbox.queue)

/-- An interaction does what its stack does, whether or not it serves a tracker client. -/
theorem exists_execute_interaction (readiness : Address) (client : Option ClientHandle)
    (world : World) (stack : Stack) :
    ∃ served entropy clients,
      (Action.interaction readiness client).execute world stack =
        ⟨.ok (), [],
          { world with
            entropy
            network := (stack.interact world.now world.entropy world.network served).2.1
            clients },
          (stack.interact world.now world.entropy world.network served).2.2.2⟩ := by
  refine ⟨client.bind world.client?, ?_⟩
  change ∃ entropy clients, Action.interact client world stack = _
  unfold Action.interact
  generalize stack.interact world.now world.entropy world.network (client.bind world.client?) =
    round
  obtain ⟨entropy, network, served, after⟩ := round
  cases client with
  | none => exact ⟨entropy, world.clients, rfl⟩
  | some handle =>
    cases served with
    | none => exact ⟨entropy, world.clients, rfl⟩
    | some served => exact ⟨entropy, world.clients.set handle served, rfl⟩

/-- The steps of a round one after another. -/
theorem interact_eq (stack : Stack) (now : Nat) (entropy : Entropy) (network : Network)
    (client : Option TrackerClient) :
    let drained := drain now maxReceived network client stack
    let ran := drained.2.2.runReady now entropy
    let sent := (ran.2.2.expire now).2.sendAll now drained.1
    stack.interact now entropy network client =
      (ran.2.1, sent.2.1, drained.2.1.map (·.expire now), sent.2.2) := by
  unfold interact
  generalize drain now maxReceived network client stack = drained
  rfl

/-- Every interaction of a whole stack whose socket is bound is a round. -/
theorem FullyWired.round (wired : stack.FullyWired)
    (bound : world.network.channel? stack.connection.localAddress = some ⟨handles, waiting⟩)
    (readiness : Address) (client : Option ClientHandle) :
    stack.Round world waiting ((Action.interaction readiness client).execute world stack) := by
  obtain ⟨served, entropy, clients, executed⟩ :=
    exists_execute_interaction readiness client world stack
  obtain ⟨received, consumed⟩ := wired.drain_eq world.now maxReceived served bound
  have persists := stack.persists_worked world waiting
  have expires := persists.trans (persists_expire _ world.now)
  have linked := (expires.fullyWired wired).resolves
    (show ⟨.dispatcher, .tracker⟩ ∈ Wire.all by decide)
  have outbox : ((stack.worked world waiting).expire world.now).2.outbox =
      (stack.worked world waiting).outbox := by
    rw [expire_eq]
  have ran : ((drain world.now maxReceived world.network served stack).2.2.runReady world.now
      world.entropy).2.2 = stack.worked world waiting := by
    rw [received]
    rfl
  rw [interact_eq] at executed
  generalize drain world.now maxReceived world.network served stack = drained at *
  dsimp only at executed
  rw [ran] at executed
  have stackAfter := sendAll_stack linked world.now drained.1
  have networkAfter :=
    sendAll_network ((stack.worked world waiting).expire world.now).2 world.now drained.1
  rw [expires.family] at stackAfter
  rw [expires.connection, expires.family, outbox] at networkAfter
  rw [executed]
  exact ⟨rfl, stackAfter, drained.1, consumed, networkAfter⟩

/-! ## A round with nothing to send -/

/-- When nothing is to be sent, a round leaves what was received, less the queries it
gives up on. -/
theorem Round.stack_eq_of_unsent {execution : Execution}
    (round : stack.Round world waiting execution)
    (unsent : (stack.worked world waiting).outbox.queue = []) :
    execution.stack = ((stack.worked world waiting).expire world.now).2 := by
  have after := round.after
  generalize stack.worked world waiting = settled at after unsent
  rw [expire_eq] at after ⊢
  dsimp only at after ⊢
  have same : { settled.outbox with queue := [] } = settled.outbox := by
    rw [← unsent]
  have nothing : requests world.now stack.family settled.outbox.queue = [] := by
    rw [unsent]
    rfl
  rw [after, same, nothing, List.append_nil]

/-- Where nothing waits on the socket, no task is left and nothing is to be sent, a
round only gives up on queries. -/
theorem FullyWired.round_of_idle (wired : stack.FullyWired) (idle : stack.tasks = .empty)
    (unsent : stack.outbox.queue = [])
    (nothing : world.network.Waits stack.connection.localAddress [])
    (readiness : Address) (client : Option ClientHandle) :
    ((Action.interaction readiness client).execute world stack).result = .ok () ∧
      ((Action.interaction readiness client).execute world stack).stack =
        (stack.expire world.now).2 := by
  obtain ⟨handles, bound⟩ := nothing
  have round := wired.round bound readiness client
  have same : stack.worked world [] = stack := runReady_of_idle idle world.now world.entropy
  have after := round.stack_eq_of_unsent (by rw [same, unsent])
  rw [same] at after
  exact ⟨round.result, after⟩

/-! ## What a round sends -/

/-- In one round a stack handles the first datagrams that wait on its socket, up to
64 and each as it is read into the buffer, and leaves the others.  It sends what was
queued before, then one reply to each query among them, then the queries of three
tasks at most, as far as all this is to addresses of its family; what it sends to
itself waits behind what it left. -/
theorem interaction_answers (wired : stack.FullyWired)
    (bound : world.network.channel? stack.connection.localAddress = some ⟨handles, waiting⟩)
    (readiness : Address) (client : Option ClientHandle) :
    let home := stack.connection.localAddress
    let read := (waiting.take 64).map (Datagram.cut 2048)
    let handled := handleAll world.now read stack
    let queries := handled.readyQueries world.now world.entropy
    let execution := (Action.interaction readiness client).execute world stack
    execution.result = .ok () ∧ execution.stack.outbox.queue = [] ∧
      handled.tasks.takeReady.1.length ≤ 3 ∧
      ∃ replies drained,
        RepliedTo world.now stack read replies ∧ world.network.Consumed home 64 drained ∧
        let sent := datagrams stack.family (stack.outbox.queue ++ replies ++ queries)
        execution.world.network = drained.deliverAll home sent ∧
        execution.world.network.channel? home =
          some ⟨handles, waiting.drop 64 ++ Network.arriving home home sent⟩ := by
  have round := wired.round bound readiness client
  generalize (Action.interaction readiness client).execute world stack = execution at round ⊢
  intro home read handled queries execution
  obtain ⟨result, after, drained, consumed, sends⟩ := round
  obtain ⟨replies, replied, queued⟩ := wired.exists_replies world.now read
  have worked : (stack.worked world waiting).outbox.queue =
      stack.outbox.queue ++ replies ++ queries := by
    have ran := handled.outbox_runReady world.now world.entropy
    rw [queued] at ran
    exact congrArg Outbox.queue ran
  rw [worked] at sends
  refine ⟨result, ?_, length_takeReady_le _, replies, drained, replied, consumed, sends, ?_⟩
  · rw [after]
  · rw [sends, Network.channel?_deliverAll, consumed.here, bound]
    rfl

/-- A ping that waits, behind what no stack takes for a message, in a round that
serves no tracker client. -/
theorem interaction_answers_ping :
    let home : Address := ⟨.v4 (.zero 4), 6881⟩
    let peer : Address := ⟨.v4 (.zero 4), 7000⟩
    let stack := assembled ⟨⟨.zero 20⟩, 6881⟩ ⟨.ipv4, home⟩ 1000 0 ⟨1⟩
    let ping : Datagram := ⟨queryUnder [0x61, 0x62] (.ping (.ofNat 7)), peer⟩
    let network : Network := ⟨[(home, ⟨1, [⟨[1, 2], peer⟩, ping]⟩), (peer, ⟨1, []⟩)], [], false, 0⟩
    let world : World := ⟨0, 1700000000, ⟨1⟩, network, .empty, ⟨[]⟩, []⟩
    let execution := (Action.interaction home none).execute world stack
    stack.FullyWired ∧ network.channel? home = some ⟨1, [⟨[1, 2], peer⟩, ping]⟩ ∧
      execution.result = .ok () ∧ execution.stack.outbox.queue = [] ∧
      ∃ own, execution.world.network.channel? home = some ⟨1, own⟩ := by
  intro home peer stack ping network world
  have wired : stack.FullyWired := fullyWired_assembled _ _ _ _ _
  have bound : world.network.channel? home = some ⟨1, [⟨[1, 2], peer⟩, ping]⟩ := rfl
  have answers := interaction_answers wired bound home none
  generalize (Action.interaction home none).execute world stack = execution at answers ⊢
  obtain ⟨result, sent, -, replies, drained, -, -, -, own⟩ := answers
  exact ⟨wired, bound, result, sent, _, own⟩

/-- A ping whose record is written as a list, with a mark for each absent field. -/
def pingList : Bytes :=
  key "l2:ab1:q4:pingd2:id20:" ++ (Id.ofNat 24).bytes ++ key "eeeee"

theorem decode_pingList :
    Message.decode .ipv4 pingList = .ok ⟨0x6162, .request (.ping (.ofNat 24))⟩ := by
  apply eq_ok_of_toOption
  decide +kernel

/-- A ping in the form of a list is one to the decoder.  It does not begin like a
dictionary, so a stack leaves it to others and sends no reply. -/
theorem interaction_leaves_list :
    let home : Address := ⟨.v4 (.zero 4), 6881⟩
    let peer : Address := ⟨.v4 (.zero 4), 7000⟩
    let stack := assembled ⟨⟨.zero 20⟩, 6881⟩ ⟨.ipv4, home⟩ 1000 0 ⟨1⟩
    let network : Network := ⟨[(home, ⟨1, [⟨pingList, peer⟩]⟩), (peer, ⟨1, []⟩)], [], false, 0⟩
    let world : World := ⟨0, 1700000000, ⟨1⟩, network, .empty, ⟨[]⟩, []⟩
    let execution := (Action.interaction home none).execute world stack
    stack.FullyWired ∧ network.channel? home = some ⟨1, [⟨pingList, peer⟩]⟩ ∧
      pingList.length ≤ mtu ∧ peer.family = stack.family ∧ peer.port ≠ 0 ∧
      Message.decode stack.family pingList = .ok ⟨0x6162, .request (.ping (.ofNat 24))⟩ ∧
      (execution.world.network.take home).1 = [] ∧
      (execution.world.network.take peer).1 = [] := by
  refine ⟨fullyWired_assembled _ _ _ _ _, rfl, by decide, rfl, by decide, decode_pingList, ?_, ?_⟩
  · decide +kernel
  · decide +kernel

end Stack

end Kademlia
