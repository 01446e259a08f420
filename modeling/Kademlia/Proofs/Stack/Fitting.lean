import Kademlia.Proofs.Krpc.Size
import Kademlia.Proofs.Stack.Classification
import Kademlia.Proofs.Stack.Course

/-!
# What a stack says is understood

Replies and queries alike fit into a datagram and are read as they were written, but for the
scope and the flow info of the addresses that they list, because a table gives few nodes, all
of its family, and the announces give few peers.  A stack
that reads one takes it for the message that it is, and drops it only as a reply that
nobody asked for.
-/

namespace Kademlia.Stack

variable {stack receiver : Stack} {own : Id} {now : Nat} {asked : Request} {source : Address}
  {task : Task} {outgoing : Outgoing} {message : Message} {network : Network} {handles : Nat}
  {waiting : List Datagram}

/-! ## What is said -/

theorem confined_closest (reached : stack.table.Reachable stack.family own) (target : Id) :
    ∀ node ∈ stack.table.closest target, node.family = stack.family := by
  intro node mem
  have live := reached.wellFormed.mem_nodes_iff.1 (RoutingTable.mem_nodes_of_mem_closest mem)
  rw [(reached.wellFormed.of_mem_nodesAt live).1, reached.family_eq]

theorem modest_reply (reached : stack.table.Reachable stack.family own) (now : Nat)
    (source : Address) (asked : Request) :
    (stack.reply now source asked).1.Modest stack.family := by
  cases asked with
  | ping requester => exact .pong _
  | findNode requester target =>
    exact .nodes (stack.table.length_closest_le target) (confined_closest reached target)
  | getPeers requester infoHash =>
    have few : (stack.announces.get infoHash).1.length ≤ 50 := by
      rw [AnnounceStore.get, List.length_map]
      exact List.length_take_le _ _
    exact .peers (Nat.le_of_eq (Secrets.length_token _ _ _))
      (stack.table.length_closest_le infoHash) (confined_closest reached infoHash) few
  | announcePeer requester infoHash port impliedPort token =>
    dsimp only [reply]
    split
    · exact .pong _
    · exact .refusal

theorem modest_of_mem_queriesOf (asks : outgoing ∈ stack.queriesOf task) :
    outgoing.message.body.Modest stack.family := by
  unfold queriesOf at asks
  dsimp only at asks
  split at asks
  · rw [exists_request_of_mem_numbered asks]
    cases task.job with
    | ping destination remote => exact .ping _
    | nodeLookup target contacts => exact .findNode _ _
    | bucketRefresh force => exact .ping _
    | peerLookup infoHash => exact .getPeers _ _
  · exact absurd asks List.not_mem_nil

/-! ## What is read -/

/-- A message that fits is taken for what it is, but for the scope and the flow info of what
it lists: one that asks, or that answers a query that waits, is accepted, and another one is
ignored. -/
theorem FullyWired.handle_of_fits (wired : receiver.FullyWired)
    (fits : message.Fits receiver.family) (port : source.port ≠ 0) (now : Nat) :
    ∃ received, (receiver.handle now ⟨message.encode receiver.family, source⟩).1 = .ok received ∧
      (received = .message message.bare source ↔
        (∃ asked, message.body = .request asked) ∨
          ∃ query ∈ receiver.inflight, query.Awaits message.transactionId source) ∧
      (received = .message message.bare source ∨ received = .ignored) := by
  have holds : HoldsMessage receiver.family ⟨message.encode receiver.family, source⟩
      message.bare := ⟨port, fits.head, fits.decoded⟩
  by_cases query : ∃ asked, message.body = .request asked
  · obtain ⟨transactionId, body⟩ := message
    obtain ⟨asked, rfl⟩ := query
    obtain ⟨reply, announces, tasks, -, handled⟩ := wired.handle_of_query now holds
    rw [handled]
    exact ⟨_, rfl, ⟨fun _ => .inl ⟨asked, rfl⟩, fun _ => rfl⟩, .inl rfl⟩
  · have answer : ∀ asked, message.bare.body ≠ .request asked :=
      fun asked same => query ⟨asked, Body.bare_eq_request_iff.1 same⟩
    rcases wired.handle_of_reply now holds answer with
      ⟨older, first, newer, tasks, parts, awaits, -, handled⟩ | ⟨unawaited, handled⟩
    · have waits : first ∈ receiver.inflight := by
        rw [parts]
        exact List.mem_append_right older List.mem_cons_self
      rw [handled]
      exact ⟨_, rfl, ⟨fun _ => .inr ⟨first, waits, awaits⟩, fun _ => rfl⟩, .inl rfl⟩
    · rw [handled]
      refine ⟨_, rfl, ⟨nofun, ?_⟩, .inr rfl⟩
      rintro (asks | ⟨first, waits, awaits⟩)
      · exact absurd asks query
      · exact absurd awaits (unawaited first waits)

/-- Whatever a whole stack with a table that can come about replies to a query, and
whatever its tasks ask, fits into a datagram and is decoded to what was queued, less the scope
and the flow info of the addresses that it lists: to the same message exactly if they have
none.  A whole stack of the family that has it waiting reads it whole, from whatever port but
0, and takes it for nothing else: it accepts it if it is a query or if a query of its own
awaits it, and ignores it otherwise. -/
theorem emitted_understood (wired : stack.FullyWired)
    (reached : stack.table.Reachable stack.family own) :
    (∀ now asked transactionId source, ∃ outgoing,
      (stack.handleRequest now asked transactionId source).1 = .ok () ∧
      (stack.handleRequest now asked transactionId source).2.outbox.queue =
        stack.outbox.queue ++ [outgoing] ∧
      outgoing.message.Fits stack.family) ∧
    (∀ now entropy task, ∃ queries,
      (stack.runTask now entropy task).2.2.outbox.queue = stack.outbox.queue ++ queries ∧
      ∀ outgoing ∈ queries, outgoing.message.Fits stack.family) ∧
    (∀ message : Message,
      message.bare = message ↔ ∀ address ∈ message.body.addresses, address.Bare) ∧
    ∀ (message : Message) (receiver : Stack) network handles waiting source now,
      message.Fits stack.family → receiver.FullyWired → receiver.family = stack.family →
      source.port ≠ 0 →
      let home := receiver.connection.localAddress
      let datagram : Datagram := ⟨message.encode stack.family, source⟩
      let rest := network.modify home fun channel => { channel with waiting }
      network.channel? home = some ⟨handles, datagram :: waiting⟩ →
        receiver.connection.receive network 2048 = (.ok (some datagram), rest) ∧
        ∃ received after,
          receiver.receive now network = (.ok received, rest, after) ∧
          (received = .message message.bare source ↔
            (∃ asked, message.body = .request asked) ∨
              ∃ query ∈ receiver.inflight, query.Awaits message.transactionId source) ∧
          (received = .message message.bare source ∨ received = .ignored) := by
  refine ⟨?replies, ?queries, fun _ => Message.bare_eq_self_iff, ?read⟩
  case replies =>
    intro now asked transactionId source
    rw [wired.handleRequest_eq]
    exact ⟨_, rfl, rfl, Message.fits_of_modest (modest_reply reached now source asked)⟩
  case queries =>
    intro now entropy task
    rw [outbox_runTask]
    exact ⟨_, rfl, fun outgoing asks => Message.fits_of_modest (modest_of_mem_queriesOf asks)⟩
  case read =>
    intro message receiver network handles waiting source now fits whole sameFamily port home
      datagram rest waits
    have read := Connection.receive_of_waiting waits fits.size
    refine ⟨read, ?_⟩
    rw [whole.receive_eq now read]
    rw [← sameFamily] at fits
    obtain ⟨received, outcome, accepted, otherwise⟩ := whole.handle_of_fits fits port now
    rw [sameFamily] at outcome
    exact ⟨received, _, by rw [outcome], accepted, otherwise⟩

/-- The reply to a query for nodes, from a stack that knows one. -/
theorem emitted_understood_one_node :
    let home : Address := ⟨.v4 (.zero 4), 6881⟩
    let peer : Address := ⟨.v4 (.zero 4), 7000⟩
    let known : Node := ⟨.ofNat 5, peer⟩
    let stack : Stack :=
      { assembled ⟨⟨.zero 20⟩, 6881⟩ ⟨.ipv4, home⟩ 1000 0 ⟨1⟩ with
        table := .run [.insert 0 known] (.empty .ipv4 ⟨.zero 20⟩) }
    stack.FullyWired ∧ stack.table.Reachable stack.family ⟨.zero 20⟩ ∧
      stack.table.nodes = [known] ∧
      ∃ outgoing,
        (stack.handleRequest 0 (.findNode (.ofNat 7) (.ofNat 5)) 1 peer).2.outbox.queue =
          [outgoing] ∧
        outgoing.message.Fits .ipv4 := by
  intro home peer known stack
  have whole := fullyWired_assembled ⟨⟨.zero 20⟩, 6881⟩ ⟨.ipv4, home⟩ 1000 0 ⟨1⟩
  have wired : stack.FullyWired := ⟨whole.wired, whole.whole⟩
  have reached : stack.table.Reachable stack.family ⟨.zero 20⟩ := ⟨[.insert 0 known], rfl⟩
  obtain ⟨outgoing, -, queued, fits⟩ :=
    (emitted_understood wired reached).1 0 (.findNode (.ofNat 7) (.ofNat 5)) 1 peer
  exact ⟨wired, reached, by decide +kernel, outgoing, queued, fits⟩

/-- The reply to a ping is read and decoded by any stack of the family, but one that did
not ask for it ignores it.  A node that is known in a scope is listed without it. -/
theorem emitted_not_understood :
    let home : Address := ⟨.v6 (.zero 16) 0 0, 6881⟩
    let other : Address := ⟨.v6 (.zero 16) 0 0, 7000⟩
    let known : Node := ⟨.ofNat 5, ⟨.v6 (.zero 16) 0 1, 7000⟩⟩
    let stack : Stack :=
      { assembled ⟨⟨.zero 20⟩, 6881⟩ ⟨.ipv6, home⟩ 1000 0 ⟨1⟩ with
        table := .run [.insert 0 known] (.empty .ipv6 ⟨.zero 20⟩) }
    let receiver := assembled ⟨.ofNat 7, 7000⟩ ⟨.ipv6, other⟩ 1000 0 ⟨2⟩
    let pong : Message := ⟨1, .response (.ping ⟨.zero 20⟩)⟩
    let found : Message := ⟨1, .response (.findNode ⟨.zero 20⟩ [known])⟩
    let network : Network := ⟨[(other, ⟨1, [⟨pong.encode .ipv6, home⟩]⟩)], [], false, 0⟩
    stack.FullyWired ∧ stack.table.Reachable stack.family ⟨.zero 20⟩ ∧
      receiver.FullyWired ∧ receiver.family = stack.family ∧
      (stack.handleRequest 0 (.ping (.ofNat 7)) 1 other).2.outbox.queue =
        [⟨pong, other, none, 1000⟩] ∧
      Message.decode receiver.family (pong.encode .ipv6) = .ok pong ∧
      (receiver.receive 0 network).1 = .ok .ignored ∧
      (stack.handleRequest 0 (.findNode (.ofNat 7) (.ofNat 5)) 1 other).2.outbox.queue =
        [⟨found, other, none, 1000⟩] ∧
      Message.decode stack.family (found.encode .ipv6) ≠ .ok found := by
  intro home other known stack receiver pong found network
  have whole := fullyWired_assembled ⟨⟨.zero 20⟩, 6881⟩ ⟨.ipv6, home⟩ 1000 0 ⟨1⟩
  have wired : stack.FullyWired := ⟨whole.wired, whole.whole⟩
  have reached : stack.table.Reachable stack.family ⟨.zero 20⟩ := ⟨[.insert 0 known], rfl⟩
  have whole : receiver.FullyWired := fullyWired_assembled _ _ _ _ _
  have fits : pong.Fits .ipv6 := Message.fits_of_modest (.pong _)
  have waits : network.channel? receiver.connection.localAddress =
      some ⟨1, [⟨pong.encode .ipv6, home⟩]⟩ := rfl
  obtain ⟨received, outcome, accepted, otherwise⟩ :=
    whole.handle_of_fits fits (show home.port ≠ 0 by decide) 0
  have ignored : received = .ignored := by
    refine otherwise.resolve_left fun taken => ?_
    rcases accepted.1 taken with ⟨asked, query⟩ | ⟨query, waiting, -⟩
    · cases query
    · exact absurd waiting List.not_mem_nil
  have unscoped : Message.decode .ipv6 (found.encode .ipv6) = .ok found.bare :=
    Message.decode_encode (by decide)
  refine ⟨wired, reached, whole, rfl, ?_, fits.decoded, ?_, ?_, ?_⟩
  · rw [wired.handleRequest_eq]
    rfl
  · rw [whole.receive_eq 0 (Connection.receive_of_waiting waits fits.size)]
    exact outcome.trans (congrArg Except.ok ignored)
  · rw [wired.handleRequest_eq]
    have nearest : stack.table.closest (.ofNat 5) = [known] := by decide +kernel
    change [(⟨⟨1, .response (.findNode ⟨.zero 20⟩ (stack.table.closest (.ofNat 5)))⟩, other, none,
      1000⟩ : Outgoing)] = _
    rw [nearest]
  · intro same
    have listed := Except.ok.inj (unscoped.symm.trans same)
    exact absurd listed (by decide)

end Kademlia.Stack
