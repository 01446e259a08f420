import Kademlia.Proofs.Inflight
import Kademlia.Proofs.Stack.Frame
import Kademlia.Proofs.Stack.Reply

/-!
# The life of a query

A query that was sent waits until it is answered or given up on, whichever comes
first, and only one of them happens to it.  So the queries that were sent are at
all times those that wait, those that were answered and those that were given up
on.
-/

namespace Kademlia

/-- What happens around the queries of a stack: a message is queued, what is queued
is sent, a message arrives that may answer a query, queries are given up on, and
time passes. -/
inductive QueryEvent
  | queue (message : Message) (destination : Address) (remote : Option Id) (timeout : Nat)
  | send
  | arrive (transactionId : UInt16) (source : Address)
  | expire
  | advance (milliseconds : Nat)
deriving DecidableEq

/-- A stack and its surroundings, with the queries that were sent so far, those
that were answered and those that were given up on, each in order. -/
structure QueryCourse where
  now : Nat
  network : Network
  stack : Stack
  sent : List Query
  answered : List Query
  expired : List Query

namespace QueryCourse

/-- Nothing has happened yet. -/
def start (now : Nat) (network : Network) (stack : Stack) : QueryCourse :=
  ⟨now, network, stack, [], [], []⟩

/-- What comes of an event. -/
def step (course : QueryCourse) : QueryEvent → QueryCourse
  | .queue message destination remote timeout =>
      let outbox := course.stack.outbox.addWithTimeout message destination remote timeout
      { course with stack := { course.stack with outbox } }
  | .send =>
      let (_, network, stack) := course.stack.sendAll course.now course.network
      { course with
        network
        stack
        sent := course.sent ++
          Stack.requests course.now course.stack.family course.stack.outbox.queue }
  | .arrive transactionId source =>
      match Inflight.answer transactionId source course.stack.inflight with
      | none => course
      | some (query, inflight) =>
          { course with
            stack := { course.stack with inflight }
            answered := course.answered ++ [query] }
  | .expire =>
      let (expired, stack) := course.stack.expire course.now
      { course with stack, expired := course.expired ++ expired }
  | .advance milliseconds => { course with now := course.now + milliseconds }

/-- What comes of some events in order. -/
def run (course : QueryCourse) (events : List QueryEvent) : QueryCourse :=
  events.foldl step course

variable {course : QueryCourse}

/-! ## Every query is accounted for -/

/-- The queries that were sent are those that wait, those that were answered and
those that were given up on, and those that wait are in the order of sending. -/
structure Balanced (course : QueryCourse) : Prop where
  linked : course.stack.resolves .dispatcher .tracker = true
  balance : course.sent.Perm (course.stack.inflight ++ course.answered ++ course.expired)
  ordered : course.stack.inflight.Sublist course.sent
  timely : course.sent.Pairwise (·.sentAt ≤ ·.sentAt)
  past : ∀ query ∈ course.sent, query.sentAt ≤ course.now

theorem sentAt_of_mem_requests {now : Nat} {family : Family} {messages : List Outgoing}
    {query : Query} (mem : query ∈ Stack.requests now family messages) : query.sentAt = now := by
  obtain ⟨outgoing, -, made⟩ := List.mem_filterMap.1 mem
  unfold Stack.queryOf at made
  split at made
  · cases made
    rfl
  · cases made

/-- The queries that go out are new ones among those that wait. -/
theorem Balanced.send (balanced : course.Balanced) : (course.step .send).Balanced := by
  obtain ⟨linked, balance, ordered, timely, past⟩ := balanced
  let new := Stack.requests course.now course.stack.family course.stack.outbox.queue
  have sends := course.stack.sendAll_stack linked course.now course.network
  have persists := course.stack.persists_sendAll course.now course.network
  have inflight : (course.step .send).stack.inflight = course.stack.inflight ++ new := by
    change (course.stack.sendAll course.now course.network).2.2.inflight = _
    rw [sends]
  have newNow : ∀ query ∈ new, query.sentAt = course.now := fun _ => sentAt_of_mem_requests
  constructor
  · exact (persists.resolves _ _).trans linked
  · rw [inflight, List.perm_iff_count]
    intro query
    change (course.sent ++ new).count query = (_ ++ course.answered ++ course.expired).count query
    have before := balance.count_eq query
    simp only [List.count_append] at before ⊢
    omega
  · rw [inflight]
    exact ordered.append (List.Sublist.refl new)
  · refine List.pairwise_append.2 ⟨timely, ?_, ?_⟩
    · apply List.pairwise_of_forall_mem_list
      intro first mem second mem'
      exact Nat.le_of_eq ((newNow first mem).trans (newNow second mem').symm)
    · intro first mem second mem'
      rw [newNow second mem']
      exact past first mem
  · intro query mem
    rcases List.mem_append.1 mem with old | fresh
    · exact past query old
    · exact Nat.le_of_eq (newNow query fresh)

/-- The query that is answered waits no longer. -/
theorem Balanced.arrive (balanced : course.Balanced) (transactionId : UInt16) (source : Address) :
    (course.step (.arrive transactionId source)).Balanced := by
  rw [step]
  split
  · exact balanced
  · rename_i query inflight answered
    obtain ⟨-, older, newer, parts, rfl, -⟩ := Inflight.answer_eq_some_iff.1 answered
    obtain ⟨linked, balance, ordered, timely, past⟩ := balanced
    rw [parts] at balance ordered
    refine ⟨linked, ?_, ?_, timely, past⟩
    · rw [List.perm_iff_count]
      intro other
      have before := balance.count_eq other
      simp only [List.count_append, List.count_cons, List.count_nil] at before ⊢
      omega
    · have kept : (older ++ newer).Sublist (older ++ query :: newer) :=
        List.Sublist.append_left (List.sublist_cons_self query newer) older
      exact kept.trans ordered

/-- The queries that are given up on wait no longer. -/
theorem Balanced.expire (balanced : course.Balanced) : (course.step .expire).Balanced := by
  obtain ⟨linked, balance, ordered, timely, past⟩ := balanced
  have persists := course.stack.persists_expire course.now
  have split := List.filter_append_perm (·.isExpired course.now) course.stack.inflight
  rw [step]
  refine ⟨(persists.resolves _ _).trans linked, ?_, ?_, timely, past⟩
  · rw [Stack.expire_eq, Inflight.expire_eq_filter, List.perm_iff_count]
    intro query
    have before := balance.count_eq query
    have parts := split.count_eq query
    simp only [List.count_append] at before parts ⊢
    omega
  · rw [Stack.expire_eq, Inflight.expire_eq_filter]
    exact List.filter_sublist.trans ordered

theorem Balanced.step (balanced : course.Balanced) (event : QueryEvent) :
    (course.step event).Balanced := by
  cases event with
  | queue message destination remote timeout => exact ⟨balanced.linked, balanced.balance,
      balanced.ordered, balanced.timely, balanced.past⟩
  | send => exact balanced.send
  | arrive transactionId source => exact balanced.arrive transactionId source
  | expire => exact balanced.expire
  | advance milliseconds =>
    refine ⟨balanced.linked, balanced.balance, balanced.ordered, balanced.timely, ?_⟩
    intro query mem
    exact Nat.le_trans (balanced.past query mem) (Nat.le_add_right _ _)

theorem Balanced.run (balanced : course.Balanced) (events : List QueryEvent) :
    (course.run events).Balanced := by
  induction events generalizing course with
  | nil => exact balanced
  | cons event events ih => exact ih (balanced.step event)

theorem balanced_start {stack : Stack} (linked : stack.resolves .dispatcher .tracker = true)
    (idle : stack.inflight = []) (now : Nat) (network : Network) :
    (start now network stack).Balanced := by
  refine ⟨linked, ?_, ?_, List.Pairwise.nil, nofun⟩
  · simp [start, idle]
  · simp [start, idle]

/-! ## What only leaves -/

theorem persists_step (course : QueryCourse) (event : QueryEvent) :
    course.stack.Persists (course.step event).stack := by
  cases event with
  | queue message destination remote timeout => exact ⟨rfl, rfl, rfl, rfl⟩
  | send => exact course.stack.persists_sendAll course.now course.network
  | arrive transactionId source =>
    rw [step]
    split
    · exact .refl course.stack
    · exact ⟨rfl, rfl, rfl, rfl⟩
  | expire => exact course.stack.persists_expire course.now
  | advance milliseconds => exact .refl course.stack

/-- Only by sending does a query come to wait. -/
theorem inflight_step_sublist (course : QueryCourse) {event : QueryEvent}
    (other : event ≠ .send) :
    (course.step event).stack.inflight.Sublist course.stack.inflight := by
  cases event with
  | queue message destination remote timeout => exact .refl _
  | send => exact absurd rfl other
  | arrive transactionId source =>
    rw [step]
    split
    · exact .refl _
    · rename_i query inflight answered
      obtain ⟨-, older, newer, parts, rfl, -⟩ := Inflight.answer_eq_some_iff.1 answered
      rw [parts]
      exact List.Sublist.append_left (List.sublist_cons_self query newer) older
  | expire =>
    rw [step, Stack.expire_eq, Inflight.expire_eq_filter]
    exact List.filter_sublist
  | advance milliseconds => exact .refl _

/-- As long as nothing is sent, the stack stays the node that it is, and no query
comes to wait. -/
theorem run_of_not_sent (course : QueryCourse) {events : List QueryEvent}
    (unsent : .send ∉ events) :
    course.stack.Persists (course.run events).stack ∧
      (course.run events).stack.inflight.Sublist course.stack.inflight := by
  induction events generalizing course with
  | nil => exact ⟨.refl course.stack, .refl _⟩
  | cons event events ih =>
    rw [List.mem_cons, not_or] at unsent
    obtain ⟨persists, sublist⟩ := ih (course.step event) unsent.2
    have first := course.inflight_step_sublist (Ne.symm unsent.1)
    exact ⟨(course.persists_step event).trans persists, sublist.trans first⟩

end QueryCourse

/-! ## Replies that come again -/

namespace Stack

variable {stack after later : Stack} {now : Nat} {message accepted : Message}
  {source origin : Address} {datagram : Datagram}

theorem inflight_noteAuthor (stack : Stack) (now : Nat) (message : Message) (source : Address) :
    (stack.noteAuthor now message source).2.inflight = stack.inflight := by
  unfold noteAuthor
  split
  · rfl
  · split
    · rfl
    · obtain ⟨tasks, added⟩ := stack.addNode_frame now ⟨_, source⟩
      rw [added]

theorem message_of_noteAuthor
    (noted : (stack.noteAuthor now message source).1 = .ok (.message accepted origin)) :
    accepted = message := by
  unfold noteAuthor at noted
  split at noted
  · cases noted
    rfl
  · split at noted
    · cases noted
    · cases noted
      rfl

/-- What is accepted is the message itself. -/
theorem message_of_accept
    (accepts : (stack.accept now message source).1 = .ok (.message accepted origin)) :
    accepted = message := by
  unfold accept at accepts
  split at accepts
  · exact message_of_noteAuthor accepts
  · split at accepts
    · cases accepts
    · split at accepts
      · cases accepts
      · exact message_of_noteAuthor accepts

/-- A message that is no query is accepted as the answer to a query that waits. -/
theorem answer_of_accept (reply : ∀ asked, message.body ≠ .request asked)
    (accepts : stack.accept now message source = (.ok (.message accepted origin), after)) :
    stack.require .receiver .tracker = .ok () ∧
      ∃ query, Inflight.answer message.transactionId source stack.inflight =
        some (query, after.inflight) := by
  unfold accept at accepts
  split at accepts
  · rename_i asked body
    exact absurd body (reply asked)
  · split at accepts
    · cases accepts
    · rename_i linked
      split at accepts
      · cases accepts
      · rename_i query inflight answered
        have noted := inflight_noteAuthor { stack with inflight } now message source
        rw [accepts] at noted
        refine ⟨linked, query, ?_⟩
        rw [answered]
        exact congrArg (fun left => some (query, left)) noted.symm

/-- What was done with a datagram that was accepted as a message. -/
theorem accept_of_handle
    (handled : stack.handle now datagram = (.ok (.message accepted origin), after)) :
    datagram.source.port ≠ 0 ∧ datagram.bytes.head? = some 0x64 ∧
      stack.require .receiver .factory = .ok () ∧
      ∃ message, Message.decode stack.family datagram.bytes = .ok message ∧
        stack.accept now message datagram.source = (.ok (.message accepted origin), after) := by
  unfold handle at handled
  split at handled
  · cases handled
  · rename_i port
    split at handled
    · cases handled
    · rename_i head
      split at handled
      · cases handled
      · rename_i linked
        split at handled
        · cases handled
        · rename_i message decoded
          exact ⟨port, Decidable.not_not.1 head, linked, message, decoded, handled⟩

/-- A datagram that is accepted as the answer to the only query that waits for it. -/
structure AcceptsReply (stack : Stack) (now : Nat) (network : Network) (datagram : Datagram)
    (message : Message) (after : Stack) : Prop where
  read : (stack.connection.receive network mtu).1 = .ok (some datagram)
  received : (stack.receive now network).1 = .ok (.message message datagram.source)
  left : (stack.receive now network).2.2 = after
  reply : ∀ asked, message.body ≠ .request asked
  only : stack.inflight.countP (·.isAnsweredBy message.transactionId datagram.source) = 1

/-- A message that is no query, and answers none, is ignored. -/
theorem accept_of_unawaited (reply : ∀ asked, message.body ≠ .request asked)
    (linked : stack.require .receiver .tracker = .ok ())
    (unawaited : ∀ query ∈ stack.inflight, ¬ query.Awaits message.transactionId source) :
    stack.accept now message source = (.ok .ignored, stack) := by
  unfold accept
  split
  · rename_i asked body
    exact absurd body (reply asked)
  · rw [linked]
    dsimp only
    rw [Inflight.answer_eq_none_iff.2 unawaited]

/-- Once the only query that waits for a reply was answered, none of those that are
left waits for it. -/
theorem unawaited_of_only {query : Query} {rest : Inflight} {transactionId : UInt16}
    (only : stack.inflight.countP (·.isAnsweredBy transactionId source) = 1)
    (answered : Inflight.answer transactionId source stack.inflight = some (query, rest)) :
    ∀ other ∈ rest, ¬ other.Awaits transactionId source := by
  obtain ⟨awaits, older, newer, parts, rfl, -⟩ := Inflight.answer_eq_some_iff.1 answered
  have own := Query.isAnsweredBy_iff.2 awaits
  rw [parts, List.countP_append, List.countP_cons, if_pos own] at only
  have unanswered : (older ++ newer).countP (·.isAnsweredBy transactionId source) = 0 := by
    rw [List.countP_append]
    omega
  intro other mem
  rw [← Query.isAnsweredBy_iff]
  exact List.countP_eq_zero.1 unanswered other mem

/-- A reply that answered the only query that waited for it is ignored when it
comes again, as long as no query came to wait since. -/
theorem AcceptsReply.ignored {network rest : Network}
    (accepts : stack.AcceptsReply now network datagram message after)
    (persists : after.Persists later) (left : later.inflight.Sublist after.inflight) (again : Nat)
    {following : Network}
    (read : later.connection.receive following mtu = (.ok (some datagram), rest)) :
    later.receive again following = (.ok .ignored, rest, later) := by
  obtain ⟨first, received, became, reply, only⟩ := accepts
  have linked : stack.require .receiver .connection = .ok () := by
    cases outcome : stack.require .receiver .connection with
    | error error =>
      rw [receive, outcome] at received
      cases received
    | ok done => rfl
  rw [receive_of_read linked now (Prod.ext first rfl)] at received became
  have handled : stack.handle now datagram = (.ok (.message message datagram.source), after) :=
    Prod.ext received became
  have same : stack.Persists later := by
    have handles := stack.persists_handle now datagram
    rw [handled] at handles
    exact handles.trans persists
  obtain ⟨port, head, factory, decoded, decodes, accepted⟩ := accept_of_handle handled
  obtain rfl : message = decoded := message_of_accept (congrArg Prod.fst accepted)
  obtain ⟨tracker, query, answered⟩ := answer_of_accept reply accepted
  have unawaited : ∀ other ∈ later.inflight,
      ¬ other.Awaits message.transactionId datagram.source := fun other mem =>
    unawaited_of_only only answered other (left.subset mem)
  have ignored : later.handle again datagram = (.ok .ignored, later) := by
    rw [handle, if_neg port, if_neg fun other => other head, same.require, factory]
    dsimp only
    rw [same.family, decodes]
    exact accept_of_unawaited reply ((same.require _ _).trans tracker) unawaited
  rw [receive_of_read ((same.require _ _).trans linked) again read, ignored]

end Stack

/-! ## The whole life -/

namespace QueryCourse

/-- Whatever happens to a stack that waits for nothing at first, and whose
dispatcher finds its tracker: the queries that were sent are those that wait, those
that were answered and those that were given up on.  Those that wait do so in the
order of sending, and a message answers the first one that awaits it.  What is
given up on has waited for its time, what is left has not.  A reply that answered
the only query that awaited it is ignored when it comes again. -/
theorem queries_accounted_for {stack : Stack}
    (linked : stack.resolves .dispatcher .tracker = true) (idle : stack.inflight = [])
    (now : Nat) (network : Network) (events : List QueryEvent) :
    let course := (start now network stack).run events
    let inflight := course.stack.inflight
    course.sent.Perm (inflight ++ course.answered ++ course.expired) ∧
      inflight.Sublist course.sent ∧ course.sent.Pairwise (·.sentAt ≤ ·.sentAt) ∧
      (course.step .send).network =
        course.network.deliverAll course.stack.connection.localAddress
          (Stack.datagrams course.stack.family course.stack.outbox.queue) ∧
      (∀ transactionId source query rest,
        Inflight.answer transactionId source inflight = some (query, rest) →
          query.Awaits transactionId source ∧
          ∃ older newer, inflight = older ++ query :: newer ∧ rest = older ++ newer ∧
            ∀ other ∈ older, ¬ other.Awaits transactionId source) ∧
      (∀ transactionId source, Inflight.answer transactionId source inflight = none →
        ∀ query ∈ inflight, ¬ query.Awaits transactionId source) ∧
      (∀ query ∈ (course.stack.expire course.now).1,
        query.sentAt + query.timeout ≤ course.now) ∧
      (∀ query ∈ (course.stack.expire course.now).2.inflight,
        course.now < query.sentAt + query.timeout) ∧
      (course.stack.expire course.now).2.inflight.Sublist inflight ∧
      ∀ network datagram message after,
        course.stack.AcceptsReply course.now network datagram message after →
        ∀ events, .send ∉ events →
          let later := (start course.now network after).run events
          ∀ network rest,
            later.stack.connection.receive network mtu = (.ok (some datagram), rest) →
            later.stack.receive later.now network = (.ok .ignored, rest, later.stack) := by
  intro course inflight
  have balanced : course.Balanced := (balanced_start linked idle now network).run events
  have past : ∀ query ∈ inflight, query.sentAt ≤ course.now := fun query mem =>
    balanced.past query (balanced.ordered.subset mem)
  refine ⟨balanced.balance, balanced.ordered, balanced.timely, ?_, ?_, ?_, ?_, ?_, ?_, ?_⟩
  · exact course.stack.sendAll_network course.now course.network
  · intro transactionId source query rest answered
    exact Inflight.answer_eq_some_iff.1 answered
  · intro transactionId source unanswered
    exact Inflight.answer_eq_none_iff.1 unanswered
  · intro query mem
    rw [Stack.expire_eq, Inflight.expire_eq_filter, List.mem_filter] at mem
    exact (Query.isExpired_iff (past query mem.1)).1 mem.2
  · intro query mem
    rw [Stack.expire_eq, Inflight.expire_eq_filter, List.mem_filter] at mem
    have waits := mem.2
    rw [Bool.not_eq_true', ← Bool.not_eq_true, Query.isExpired_iff (past query mem.1)] at waits
    exact Nat.lt_of_not_le waits
  · rw [Stack.expire_eq, Inflight.expire_eq_filter]
    exact List.filter_sublist
  · intro network datagram message after accepts events unsent later network rest read
    obtain ⟨persists, left⟩ := (start course.now _ after).run_of_not_sent unsent
    exact accepts.ignored persists left later.now read

/-- Two pings that are sent, of which one is answered, twice by the same reply. -/
theorem queries_accounted_for_two_pings :
    let home : Address := ⟨.v4 (.zero 4), 6881⟩
    let peer : Address := ⟨.v4 (.zero 4), 7000⟩
    let ping (number : UInt16) : QueryEvent :=
      .queue ⟨number, .request (.ping ⟨.zero 20⟩)⟩ peer none 1000
    let pong : Message := ⟨1, .response (.ping (.ofNat 7))⟩
    let datagram : Datagram := ⟨pong.encode .ipv4, peer⟩
    let network : Network := ⟨[(home, ⟨1, [datagram]⟩)], [], false, 0⟩
    let stack := Stack.assembled ⟨⟨.zero 20⟩, 6881⟩ ⟨.ipv4, home⟩ 1000 0 ⟨1⟩
    let course := (start 0 network stack).run [ping 1, ping 2, .send]
    let after := (course.stack.receive 0 network).2.2
    stack.resolves .dispatcher .tracker = true ∧ stack.inflight = [] ∧
      course.sent.length = 2 ∧
      course.sent.Perm (course.stack.inflight ++ course.answered ++ course.expired) ∧
      course.stack.AcceptsReply 0 network datagram pong after ∧
      (after.receive 0 network).1 = .ok .ignored ∧ (after.receive 0 network).2.2 = after := by
  intro home peer ping pong datagram network stack course after
  have linked : stack.resolves .dispatcher .tracker = true := by decide
  have decoded : Message.decode .ipv4 datagram.bytes = .ok pong :=
    Message.decode_encode (by decide)
  have fits : datagram.bytes.length ≤ mtu := by decide +kernel
  have waits : network.channel? home = some ⟨1, [datagram]⟩ := rfl
  have read : course.stack.connection.receive network mtu =
      (.ok (some datagram), network.modify home fun channel => { channel with waiting := [] }) :=
    Connection.receive_of_waiting waits fits
  have reaches : course.stack.require .receiver .connection = .ok () := rfl
  have handled : (course.stack.handle 0 datagram).1 = .ok (.message pong peer) := by
    have factory : course.stack.require .receiver .factory = .ok () := rfl
    rw [Stack.handle, if_neg (by decide), if_neg (by decide +kernel), factory]
    dsimp only
    rw [show course.stack.family = .ipv4 from rfl, decoded]
    rfl
  have received := Stack.receive_of_read reaches 0 read
  have reply : ∀ asked, pong.body ≠ .request asked := by
    intro asked same
    cases same
  have accepts : course.stack.AcceptsReply 0 network datagram pong after := by
    refine ⟨congrArg Prod.fst read, ?_, rfl, reply, by decide⟩
    rw [received]
    exact handled
  obtain ⟨balance, -, -, -, -, -, -, -, -, repeated⟩ :=
    queries_accounted_for linked rfl 0 network [ping 1, ping 2, .send]
  have socket := (course.stack.persists_receive 0 network).connection
  rw [← socket] at read
  have ignored := repeated network datagram pong after accepts [] List.not_mem_nil network _ read
  exact ⟨linked, rfl, by decide, balance, accepts, congrArg Prod.fst ignored,
    congrArg (fun outcome => outcome.2.2) ignored⟩

end QueryCourse

end Kademlia
