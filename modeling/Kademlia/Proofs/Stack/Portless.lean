import Kademlia.Proofs.Stack.Course

/-!
# Where addresses without a port come from

Nothing is read from port 0, so no node is known there.  A peer may be listed there all
the same: an announce names its port itself, and the port that it names may be 0.
-/

namespace Kademlia

namespace Stack

variable {stack : Stack} {now : Nat} {asked : Request} {source : Address}

/-! ## What a reply lists -/

/-- A reply lists nodes that the table holds. -/
theorem holds_of_mem_reply {node : Node}
    (listed : node ∈ (stack.reply now source asked).1.nodes) : stack.table.Holds node := by
  cases asked with
  | ping requester => exact absurd listed List.not_mem_nil
  | findNode requester target =>
    exact RoutingTable.holds_of_mem_nodes (RoutingTable.mem_nodes_of_mem_closest listed)
  | getPeers requester infoHash =>
    exact RoutingTable.holds_of_mem_nodes (RoutingTable.mem_nodes_of_mem_closest listed)
  | announcePeer requester infoHash port impliedPort token =>
    unfold reply at listed
    dsimp only at listed
    split at listed
    · exact absurd listed List.not_mem_nil
    · exact absurd listed List.not_mem_nil

/-- A reply lists peers that are listed in the announces. -/
theorem lists_of_mem_reply {peer : Address}
    (given : peer ∈ (stack.reply now source asked).1.values) :
    ∃ infoHash announcedAt, stack.announces.Lists infoHash peer announcedAt := by
  cases asked with
  | ping requester => exact absurd given List.not_mem_nil
  | findNode requester target => exact absurd given List.not_mem_nil
  | getPeers requester infoHash =>
    obtain ⟨announcedAt, listed⟩ := AnnounceStore.exists_lists_of_mem_get given
    exact ⟨infoHash, announcedAt, listed⟩
  | announcePeer requester infoHash port impliedPort token =>
    unfold reply at given
    dsimp only at given
    split at given
    · exact absurd given List.not_mem_nil
    · exact absurd given List.not_mem_nil

end Stack

namespace StackCourse

variable {course : StackCourse} {event : StackEvent}

/-! ## Announces that name no port -/

/-- The event is the acceptance of an announce, under a token that is accepted, that
names port 0 and does not go by the port that it comes from. -/
def AcceptsPortless (course : StackCourse) (event : StackEvent) : Prop :=
  ∃ transactionId requester infoHash token source,
    course.Accepts event
        ⟨transactionId, .request (.announcePeer requester infoHash 0 false token)⟩ source ∧
      course.stack.secrets.accepts infoHash source token = true

/-- A message from another port than 0 authorises a peer at port 0 only by naming it. -/
theorem acceptsPortless_of_authorises {message : Message} {source peer : Address}
    {infoHash : InfoHash} (accepts : course.Accepts event message source)
    (origin : source.port ≠ 0)
    (authorised : course.stack.secrets.Authorises infoHash peer message source)
    (portless : peer.port = 0) : course.AcceptsPortless event := by
  cases authorised with
  | @announce transactionId requester port impliedPort token _ sameIp samePort given =>
    cases impliedPort with
    | true =>
      rw [portless, if_pos rfl] at samePort
      exact absurd samePort.symm origin
    | false =>
      rw [portless, if_neg Bool.false_ne_true] at samePort
      rw [← samePort] at accepts
      exact ⟨transactionId, requester, infoHash, token, source, accepts, Secrets.accepts_iff.2 given⟩

/-- Once an announce that names no port was accepted, its IP is listed at port 0, and
whoever asks for the info hash is given it first. -/
theorem lists_of_accepts {transactionId : UInt16} {requester : Id} {infoHash : InfoHash}
    {token : Bytes} {source : Address} (wired : course.stack.FullyWired)
    (reached : course.stack.announces.Reachable)
    (accepts : course.Accepts event
      ⟨transactionId, .request (.announcePeer requester infoHash 0 false token)⟩ source)
    (accepted : course.stack.secrets.accepts infoHash source token = true) :
    let after := (course.step event).stack
    after.announces.Lists infoHash ⟨source.ip, 0⟩ course.now ∧
      ∀ number asker origin, ∃ token nodes others,
        after.Answers course.now number (.getPeers asker infoHash) origin
          (.response (.getPeers course.stack.localNode.id token nodes (⟨source.ip, 0⟩ :: others))) := by
  obtain ⟨-, became⟩ := accepts.step_eq wired
  rw [became]
  constructor
  · dsimp only
    rw [wired.announces_accept_request, Stack.reply, if_pos accepted]
    exact reached.wellFormed.lists_add course.now infoHash ⟨source.ip, 0⟩
  · intro number asker origin
    obtain ⟨token, nodes, others, answers, -⟩ :=
      (wired.answers_announce reached accepted course.now transactionId requester 0 false).2
        number asker origin
    exact ⟨token, nodes, others, answers⟩

/-! ## From the start -/

/-- A stack that was just made and wired. -/
def start (localNode : LocalNode) (connection : Connection) (timeout now : Nat)
    (entropy : Entropy) : StackCourse :=
  ⟨now, Stack.assembled localNode connection timeout now entropy, []⟩

section Start

variable (localNode : LocalNode) (connection : Connection) (timeout now : Nat)
  (entropy : Entropy) (events : List StackEvent)

theorem fullyWired_run :
    ((start localNode connection timeout now entropy).run events).stack.FullyWired :=
  (persists_run _ events).fullyWired
    (Stack.fullyWired_assembled localNode connection timeout now entropy)

theorem reachable_announces_run :
    ((start localNode connection timeout now entropy).run events).stack.announces.Reachable :=
  announces_run (Stack.fullyWired_assembled localNode connection timeout now entropy)
    AnnounceStore.reachable_empty events

variable {localNode connection timeout now entropy events}

/-- No node is ever known at port 0. -/
theorem port_ne_zero_of_holds {node : Node}
    (holds : ((start localNode connection timeout now entropy).run events).stack.table.Holds node) :
    node.address.port ≠ 0 := by
  let known (course : StackCourse) : Prop := course.stack.table.Holds node
  let learned (course : StackCourse) (event : StackEvent) : Prop :=
    ∃ message, course.Accepts event message node.address ∧ node.address.port ≠ 0 ∧
      message.body.author = some node.id
  have step : ∀ course event, course.stack.FullyWired → known (course.step event) →
      known course ∨ learned course event := fun _ _ wired => holds_step wired
  rcases sometime_of_run step (fullyWired_run localNode connection timeout now entropy []) holds with
    atFirst | ⟨_, _, _, -, _, -, port, -⟩
  · exact absurd atFirst (RoutingTable.not_holds_empty _ _ node)
  · exact port

/-- A peer is listed at port 0 only once an announce that names no port was accepted. -/
theorem sometime_of_lists {infoHash : InfoHash} {peer : Address} {announcedAt : Nat}
    (listed : ((start localNode connection timeout now entropy).run events).stack.announces.Lists
      infoHash peer announcedAt) (portless : peer.port = 0) :
    (start localNode connection timeout now entropy).Sometime events AcceptsPortless := by
  let known (course : StackCourse) : Prop :=
    course.stack.announces.Lists infoHash peer announcedAt
  have step : ∀ course event, course.stack.FullyWired → known (course.step event) →
      known course ∨ course.AcceptsPortless event := by
    intro course event wired after
    rcases lists_step wired after with before | ⟨message, source, accepts, origin, -, authorised⟩
    · exact .inl before
    · exact .inr (acceptsPortless_of_authorises accepts origin authorised portless)
  rcases sometime_of_run step (fullyWired_run localNode connection timeout now entropy []) listed with
    ⟨peers, entry, -⟩ | sometime
  · exact absurd entry List.not_mem_nil
  · exact sometime

/-- A message that was sent or is queued is a query, or what was replied to one at some
time. -/
theorem exists_reply_of_mem_messages {outgoing : Outgoing}
    (mem : outgoing ∈ ((start localNode connection timeout now entropy).run events).messages) :
    (∃ asked, outgoing.message.body = .request asked) ∨
      ∃ before after asked source, events = before ++ after ∧
        let course := (start localNode connection timeout now entropy).run before
        outgoing.message.body = (course.stack.reply course.now source asked).1 := by
  let known (course : StackCourse) : Prop := outgoing ∈ course.messages
  let queued (course : StackCourse) (_ : StackEvent) : Prop :=
    (∃ asked, outgoing.message.body = .request asked) ∨
      ∃ asked source, outgoing.message.body = (course.stack.reply course.now source asked).1
  have step : ∀ course event, course.stack.FullyWired → known (course.step event) →
      known course ∨ queued course event := by
    intro course event wired after
    rcases messages_step wired after with
      before | query | ⟨transactionId, asked, source, -, rfl⟩
    · exact .inl before
    · exact .inr (.inl query)
    · exact .inr (.inr ⟨asked, source, rfl⟩)
  rcases sometime_of_run step (fullyWired_run localNode connection timeout now entropy []) mem with
    atFirst | ⟨before, event, after, parts, query | ⟨asked, source, reply⟩⟩
  · exact absurd atFirst List.not_mem_nil
  · exact .inl query
  · exact .inr ⟨before, event :: after, asked, source, parts, reply⟩

/-- Whatever happens to a stack from its start, none of the nodes that it knows, or that
a message lists, is at port 0.  A peer comes to be listed at port 0 exactly if at some
time an announce that names no port is accepted, and only then a message gives one; from
that time on, whoever asks for the info hash is given the announcer's IP at port 0
first. -/
theorem portless_listed_iff (localNode : LocalNode) (connection : Connection)
    (timeout now : Nat) (entropy : Entropy) (events : List StackEvent) :
    let start := start localNode connection timeout now entropy
    let course := start.run events
    (∀ node, course.stack.table.Holds node → node.address.port ≠ 0) ∧
    (∀ outgoing ∈ course.messages, ∀ node ∈ outgoing.message.body.nodes,
      node.address.port ≠ 0) ∧
    ((∃ before after infoHash peer announcedAt, events = before ++ after ∧
        (start.run before).stack.announces.Lists infoHash peer announcedAt ∧ peer.port = 0) ↔
      start.Sometime events AcceptsPortless) ∧
    (∀ outgoing ∈ course.messages, ∀ peer ∈ outgoing.message.body.values, peer.port = 0 →
      start.Sometime events AcceptsPortless) ∧
    ∀ event transactionId requester infoHash token source,
      course.Accepts event
        ⟨transactionId, .request (.announcePeer requester infoHash 0 false token)⟩ source →
      course.stack.secrets.accepts infoHash source token = true →
      let after := (course.step event).stack
      after.announces.Lists infoHash ⟨source.ip, 0⟩ course.now ∧
        ∀ number asker origin, ∃ token nodes others,
          after.Answers course.now number (.getPeers asker infoHash) origin
            (.response
              (.getPeers course.stack.localNode.id token nodes (⟨source.ip, 0⟩ :: others))) := by
  intro start course
  have wired (events : List StackEvent) : (start.run events).stack.FullyWired :=
    fullyWired_run localNode connection timeout now entropy events
  have reached (events : List StackEvent) : (start.run events).stack.announces.Reachable :=
    reachable_announces_run localNode connection timeout now entropy events
  refine ⟨?known, ?nodes, ⟨?caused, ?listed⟩, ?values, ?given⟩
  case known => exact fun node => port_ne_zero_of_holds
  case nodes =>
    intro outgoing mem node listed
    rcases exists_reply_of_mem_messages mem with
      ⟨asked, query⟩ | ⟨before, after, asked, source, -, reply⟩
    · rw [query] at listed
      exact absurd listed List.not_mem_nil
    · rw [reply] at listed
      exact port_ne_zero_of_holds (Stack.holds_of_mem_reply listed)
  case caused =>
    rintro ⟨before, after, infoHash, peer, announcedAt, rfl, listed, portless⟩
    exact (sometime_of_lists listed portless).append after
  case listed =>
    rintro ⟨before, event, after, rfl, transactionId, requester, infoHash, token, source, accepts,
      accepted⟩
    refine ⟨before ++ [event], after, infoHash, ⟨source.ip, 0⟩, (start.run before).now, by simp, ?_,
      rfl⟩
    rw [run_append]
    exact (lists_of_accepts (wired before) (reached before) accepts accepted).1
  case values =>
    intro outgoing mem peer given portless
    rcases exists_reply_of_mem_messages mem with
      ⟨asked, query⟩ | ⟨before, after, asked, source, rfl, reply⟩
    · rw [query] at given
      exact absurd given List.not_mem_nil
    · rw [reply] at given
      obtain ⟨infoHash, announcedAt, listed⟩ := Stack.lists_of_mem_reply given
      exact (sometime_of_lists listed portless).append after
  case given =>
    intro event transactionId requester infoHash token source accepts accepted
    exact lists_of_accepts (wired events) (reached events) accepts accepted

end Start

/-- An announce that names port 0, under the token that was given: its IP is listed at
port 0, and given to whoever asks. -/
theorem portless_listed_and_given :
    let home : Address := ⟨.v4 (.zero 4), 6881⟩
    let source : Address := ⟨.v4 (.zero 4), 7000⟩
    let start := start ⟨⟨.zero 20⟩, 6881⟩ ⟨.ipv4, home⟩ 1000 0 ⟨1⟩
    let infoHash : InfoHash := .ofNat 9
    let token := start.stack.secrets.generate infoHash source
    let announce : Request := .announcePeer (.ofNat 7) infoHash 0 false token
    let datagram : Datagram := ⟨Krpc.queryUnder [0x61, 0x62] announce, source⟩
    let network : Network := ⟨[(home, ⟨1, [datagram]⟩)], [], false, 0⟩
    let after := (start.run [.receive network]).stack
    start.stack.FullyWired ∧ source.port ≠ 0 ∧
      after.announces.Lists infoHash ⟨source.ip, 0⟩ 0 ∧
      ∃ token nodes others,
        after.Answers 0 1 (.getPeers (.ofNat 8) infoHash) source
          (.response (.getPeers ⟨.zero 20⟩ token nodes (⟨source.ip, 0⟩ :: others))) := by
  intro home source start infoHash token announce datagram network after
  have wired : start.stack.FullyWired := Stack.fullyWired_assembled _ _ _ _ _
  have fits : datagram.bytes.length ≤ mtu := by decide +kernel
  have waits : network.channel? start.stack.connection.localAddress = some ⟨1, [datagram]⟩ := rfl
  have holds : Stack.HoldsQuery start.stack.family datagram 0x6162 announce :=
    ⟨by decide, rfl, Krpc.decode_queryUnder rfl start.stack.family announce⟩
  have accepts : start.Accepts (.receive network) ⟨0x6162, .request announce⟩ source := by
    refine ⟨network, rfl, ?_⟩
    rw [wired.receive_eq start.now (Connection.receive_of_waiting waits fits),
      wired.handle_request holds]
  have accepted : start.stack.secrets.accepts infoHash source token = true :=
    Secrets.accepts_generate_iff.2 (.inl rfl)
  obtain ⟨listed, given⟩ :=
    lists_of_accepts wired AnnounceStore.reachable_empty accepts accepted
  exact ⟨wired, by decide, listed, given 1 (.ofNat 8) source⟩

end StackCourse

end Kademlia
