import Kademlia.Proofs.Stack.Classification
import Kademlia.Proofs.Stack.Provenance
import Kademlia.Proofs.Stack.Round
import Kademlia.Proofs.Table.Holding

/-!
# All that happens to a stack

Datagrams are read, tasks are queued and run, queries are given up on, what is queued
is sent, announces are purged, secrets change and time passes, in any order.  What the
commands of a host do to a stack is a course of that kind.
-/

namespace Kademlia

/-- What happens to a stack.  A datagram is read from whatever network there is then,
and what is sent goes out onto whatever network there is then. -/
inductive StackEvent
  | receive (network : Network)
  | schedule (kind : QueueKind) (job : Job)
  | work (entropy : Entropy)
  | expire
  | send (network : Network)
  | want (infoHash : InfoHash)
  | purge
  | rotate (entropy : Entropy)
  | advance (milliseconds : Nat)

/-- A stack at a time, with the messages that it sent so far, in order. -/
structure StackCourse where
  now : Nat
  stack : Stack
  sent : List Outgoing

namespace StackCourse

/-- What comes of an event. -/
def step (course : StackCourse) : StackEvent → StackCourse
  | .receive network => { course with stack := (course.stack.receive course.now network).2.2 }
  | .schedule kind job => { course with stack := course.stack.schedule kind job }
  | .work entropy => { course with stack := (course.stack.runReady course.now entropy).2.2 }
  | .expire => { course with stack := (course.stack.expire course.now).2 }
  | .send network =>
      { course with
        stack := (course.stack.sendAll course.now network).2.2
        sent := course.sent ++
          course.stack.outbox.queue.filter (·.destination.family = course.stack.family) }
  | .want infoHash => { course with stack := (course.stack.want infoHash).2 }
  | .purge =>
      let announces := course.stack.announces.purge course.now
      { course with stack := { course.stack with announces } }
  | .rotate entropy =>
      let (secrets, _) := course.stack.secrets.rotate course.now entropy
      { course with stack := { course.stack with secrets } }
  | .advance milliseconds => { course with now := course.now + milliseconds }

/-- What comes of some events in order. -/
def run (course : StackCourse) (events : List StackEvent) : StackCourse :=
  events.foldl step course

theorem run_append (course : StackCourse) (first second : List StackEvent) :
    course.run (first ++ second) = (course.run first).run second :=
  List.foldl_append

/-- The messages that were sent, and those that are queued. -/
def messages (course : StackCourse) : List Outgoing :=
  course.sent ++ course.stack.outbox.queue

/-- At one of some events something holds of the course so far and of the event. -/
def Sometime (course : StackCourse) (events : List StackEvent)
    (holds : StackCourse → StackEvent → Prop) : Prop :=
  ∃ before event after, events = before ++ event :: after ∧ holds (course.run before) event

/-- The event is the reading of a datagram that is accepted as a message. -/
def Accepts (course : StackCourse) (event : StackEvent) (message : Message) (source : Address) :
    Prop :=
  ∃ network, event = .receive network ∧
    (course.stack.receive course.now network).1 = .ok (.message message source)

end StackCourse

namespace Stack

variable {stack before between after : Stack} {now : Nat} {network : Network} {message : Message}
  {source : Address} {infoHash : InfoHash} {peer : Address} {announcedAt : Nat}

/-! ## Reading -/

/-- A whole stack that reads stays as it is, or accepts a message, which came from a port
that can be replied to. -/
theorem FullyWired.receive_cases (wired : stack.FullyWired) (now : Nat) (network : Network) :
    (∀ message source, (stack.receive now network).1 ≠ .ok (.message message source)) ∧
        (stack.receive now network).2.2 = stack ∨
      ∃ message source, source.port ≠ 0 ∧
        (stack.receive now network).1 = .ok (.message message source) ∧
        (stack.receive now network).2.2 = (stack.accept now message source).2 := by
  have linked : stack.require .receiver .connection = .ok () := wired.require (by decide)
  unfold receive
  rw [linked]
  dsimp only
  split
  · exact .inl ⟨nofun, rfl⟩
  · exact .inl ⟨nofun, rfl⟩
  · rename_i datagram rest read
    by_cases accepted : ∃ message source,
        (stack.handle now datagram).1 = .ok (.message message source)
    · obtain ⟨message, source, outcome⟩ := accepted
      obtain ⟨rfl, holds, -⟩ := wired.holds_of_handle outcome
      refine .inr ⟨message, datagram.source, holds.origin, outcome, ?_⟩
      dsimp only
      rw [wired.handle_of_decoded now holds.origin holds.head holds.decoded]
    · have dropped : ∀ message source,
          (stack.handle now datagram).1 ≠ .ok (.message message source) :=
        fun message source same => accepted ⟨message, source, same⟩
      exact .inl ⟨dropped, wired.handle_of_dropped dropped⟩

/-! ## What an accepted message does -/

/-- Noting an author adds it to the table. -/
theorem exists_run_noting (table : RoutingTable) (now : Nat) (author : Option Id)
    (source : Address) :
    ∃ operations, table.noting now author source = table.run operations ∧
      ∀ operation ∈ operations, ∃ id, author = some id ∧ operation = .insert now ⟨id, source⟩ := by
  cases author with
  | none => exact ⟨[], rfl, nofun⟩
  | some id => exact ⟨[.insert now ⟨id, source⟩], rfl, by simp⟩

/-- An accepted message adds its author to the table, and does nothing else to it. -/
theorem FullyWired.table_accept (wired : stack.FullyWired) (now : Nat) (message : Message)
    (source : Address) :
    ∃ operations, (stack.accept now message source).2.table = stack.table.run operations ∧
      ∀ operation ∈ operations, ∃ id,
        message.body.author = some id ∧ operation = .insert now ⟨id, source⟩ := by
  obtain ⟨transactionId, body⟩ := message
  by_cases query : ∃ asked, body = .request asked
  · obtain ⟨asked, rfl⟩ := query
    obtain ⟨tasks, added⟩ := (stack.replied now transactionId asked source).addNode_frame now
      ⟨asked.requester, source⟩
    rw [wired.accept_request, added]
    exact exists_run_noting stack.table now (some asked.requester) source
  · rw [wired.accept_reply now source fun asked same => query ⟨asked, same⟩]
    split
    · exact ⟨[], rfl, nofun⟩
    · rename_i inflight _
      obtain ⟨tasks, noted⟩ :=
        exists_noted_eq { stack with inflight } now ⟨transactionId, body⟩ source
      dsimp only
      rw [noted]
      exact exists_run_noting stack.table now body.author source

/-- What is queued once a message was accepted was queued before, or is the reply to
it. -/
theorem FullyWired.mem_queue_accept (wired : stack.FullyWired) {outgoing : Outgoing}
    (mem : outgoing ∈ (stack.accept now message source).2.outbox.queue) :
    outgoing ∈ stack.outbox.queue ∨ ∃ transactionId asked,
      message = ⟨transactionId, .request asked⟩ ∧
      outgoing = ⟨⟨transactionId, (stack.reply now source asked).1⟩, source, none,
        stack.outbox.timeout⟩ := by
  obtain ⟨transactionId, body⟩ := message
  by_cases query : ∃ asked, body = .request asked
  · obtain ⟨asked, rfl⟩ := query
    obtain ⟨table, tasks, became⟩ := wired.exists_accept_request now transactionId asked source
    rw [became] at mem
    rcases List.mem_append.1 mem with old | new
    · exact .inl old
    · exact .inr ⟨transactionId, asked, rfl, List.mem_singleton.1 new⟩
  · rw [wired.accept_reply now source fun asked same => query ⟨asked, same⟩] at mem
    split at mem
    · exact .inl mem
    · rename_i inflight _
      obtain ⟨table, tasks, became⟩ :=
        exists_noted { stack with inflight } now ⟨transactionId, body⟩ source
      dsimp only at mem
      rw [became] at mem
      exact .inl mem

/-! ## What tasks do -/

/-- A stack that another one may have become by running tasks: buckets of the table
were looked after, queries were queued, and what waits for an answer, the announces and
the secrets are the same. -/
structure Tended (before after : Stack) : Prop where
  table : ∃ operations, after.table = before.table.run operations ∧
    ∀ operation ∈ operations, ∃ now distance, operation = .touch now distance
  inflight : after.inflight = before.inflight
  announces : after.announces = before.announces
  secrets : after.secrets = before.secrets

namespace Tended

theorem refl (stack : Stack) : Tended stack stack :=
  ⟨⟨[], rfl, nofun⟩, rfl, rfl, rfl⟩

theorem trans (first : Tended before between) (second : Tended between after) :
    Tended before after := by
  obtain ⟨earlier, between_eq, touches⟩ := first.table
  obtain ⟨later, after_eq, touchesLater⟩ := second.table
  refine ⟨⟨earlier ++ later, ?_, ?_⟩, second.inflight.trans first.inflight,
    second.announces.trans first.announces, second.secrets.trans first.secrets⟩
  · rw [after_eq, between_eq, RoutingTable.run_append]
  · intro operation mem
    rcases List.mem_append.1 mem with mem | mem
    · exact touches operation mem
    · exact touchesLater operation mem

theorem wellFormed (tended : Tended before after) (wf : before.table.WellFormed) :
    after.table.WellFormed := by
  obtain ⟨operations, touched, -⟩ := tended.table
  rw [touched]
  exact wf.run operations

end Tended

theorem respected_tended : Respected Tended where
  refl := .refl
  trans := .trans
  asks _ _ _ := ⟨⟨[], rfl, nofun⟩, rfl, rfl, rfl⟩
  touches _ now distance := ⟨⟨[.touch now distance], rfl, by simp⟩, rfl, rfl, rfl⟩
  queues _ _ := ⟨⟨[], rfl, nofun⟩, rfl, rfl, rfl⟩

theorem tended_runReady (stack : Stack) (now : Nat) (entropy : Entropy) :
    Tended stack (stack.runReady now entropy).2.2 :=
  respected_tended.runReady stack now entropy

/-- What a task queues are queries. -/
theorem exists_request_of_mem_numbered {timeout : Nat} {request : Request} {first : UInt16}
    {targets : List (Address × Option Id)} {outgoing : Outgoing}
    (mem : outgoing ∈ numbered timeout request first targets) :
    outgoing.message.body = .request request := by
  induction targets generalizing first with
  | nil => exact absurd mem List.not_mem_nil
  | cons target targets ih =>
    rcases List.mem_cons.1 mem with rfl | later
    · rfl
    · exact ih later

theorem exists_request_of_mem_queriesOfAll {tasks : List Task} {entropy : Entropy}
    {outgoing : Outgoing} (mem : outgoing ∈ queriesOfAll now tasks entropy stack) :
    ∃ asked, outgoing.message.body = .request asked := by
  induction tasks generalizing entropy stack with
  | nil => exact absurd mem List.not_mem_nil
  | cons task tasks ih =>
    rcases List.mem_append.1 mem with own | later
    · unfold queriesOf at own
      dsimp only at own
      split at own
      · exact ⟨_, exists_request_of_mem_numbered own⟩
      · exact absurd own List.not_mem_nil
    · exact ih later

/-! ## Queueing tasks, and looking for peers -/

theorem addTasks_nil (stack : Stack) (kind : QueueKind) : stack.addTasks kind [] = stack := by
  cases kind <;> simp [addTasks, TaskQueue.add]

theorem addTasks_append (stack : Stack) (kind : QueueKind) (first second : List Task) :
    (stack.addTasks kind first).addTasks kind second = stack.addTasks kind (first ++ second) := by
  cases kind <;> simp [addTasks, TaskQueue.add]

theorem want_frame (stack : Stack) (infoHash : InfoHash) :
    ∃ tasks, (stack.want infoHash).2 =
      { stack with announces := stack.announces.want infoHash, tasks } := by
  unfold want
  dsimp only
  split
  · exact ⟨stack.tasks, rfl⟩
  · exact ⟨_, rfl⟩

end Stack

namespace StackCourse

variable {course : StackCourse} {event : StackEvent} {infoHash : InfoHash} {peer : Address}
  {announcedAt : Nat} {outgoing : Outgoing}

/-! ## One event -/

theorem persists_step (course : StackCourse) (event : StackEvent) :
    course.stack.Persists (course.step event).stack := by
  cases event with
  | receive network => exact course.stack.persists_receive course.now network
  | schedule kind job => exact course.stack.persists_addTasks kind _
  | work entropy => exact course.stack.persists_runReady course.now entropy
  | expire => exact course.stack.persists_expire course.now
  | send network => exact course.stack.persists_sendAll course.now network
  | want infoHash =>
    obtain ⟨tasks, wanted⟩ := course.stack.want_frame infoHash
    rw [step, wanted]
    exact ⟨rfl, rfl, rfl, rfl⟩
  | purge => exact ⟨rfl, rfl, rfl, rfl⟩
  | rotate entropy => exact ⟨rfl, rfl, rfl, rfl⟩
  | advance milliseconds => exact .refl course.stack

/-- A message that is accepted came from a port that can be replied to, and nothing but
its acceptance happens. -/
theorem Accepts.step_eq {message : Message} {source : Address} (wired : course.stack.FullyWired)
    (accepts : course.Accepts event message source) :
    source.port ≠ 0 ∧ course.step event =
      { course with stack := (course.stack.accept course.now message source).2 } := by
  obtain ⟨network, rfl, outcome⟩ := accepts
  rcases wired.receive_cases course.now network with
    ⟨dropped, -⟩ | ⟨accepted, origin, port, same, became⟩
  · exact absurd outcome (dropped message source)
  · rw [outcome, Except.ok.injEq, Received.message.injEq] at same
    obtain ⟨rfl, rfl⟩ := same
    exact ⟨port, by rw [step, became]⟩

/-- The event is that queries are given up on, one of which asked the node of an id. -/
def GivesUpOn (course : StackCourse) (event : StackEvent) (id : Id) : Prop :=
  event = .expire ∧ id ∈ course.stack.silent course.now

/-- A node comes into the table as the author of a message that is accepted, and from
where that came; it is removed when a query that asked it is given up on. -/
theorem table_step (wired : course.stack.FullyWired) (event : StackEvent) :
    ∃ operations, (course.step event).stack.table = course.stack.table.run operations ∧
      (∀ time node, .insert time node ∈ operations →
        ∃ message, course.Accepts event message node.address ∧ node.address.port ≠ 0 ∧
          message.body.author = some node.id ∧ time = course.now) ∧
      ∀ id, .remove id ∈ operations → course.GivesUpOn event id := by
  cases event with
  | receive network =>
    rcases wired.receive_cases course.now network with
      ⟨-, same⟩ | ⟨message, source, port, outcome, became⟩
    · exact ⟨[], by rw [step, same]; rfl, nofun, nofun⟩
    · obtain ⟨operations, ran, only⟩ := wired.table_accept course.now message source
      refine ⟨operations, by rw [step, became, ran], ?_, ?_⟩
      · intro time node mem
        obtain ⟨id, author, added⟩ := only _ mem
        cases added
        exact ⟨message, ⟨network, rfl, outcome⟩, port, author, rfl⟩
      · intro id mem
        obtain ⟨author, -, added⟩ := only _ mem
        cases added
  | schedule kind job => exact ⟨[], rfl, nofun, nofun⟩
  | work entropy =>
    obtain ⟨operations, ran, touches⟩ := (course.stack.tended_runReady course.now entropy).table
    refine ⟨operations, ran, ?_, ?_⟩
    · intro time node mem
      obtain ⟨now, distance, touch⟩ := touches _ mem
      cases touch
    · intro id mem
      obtain ⟨now, distance, touch⟩ := touches _ mem
      cases touch
  | expire =>
    have linked : course.stack.resolves .tracker .table = true := wired.resolves (by decide)
    refine ⟨(course.stack.silent course.now).map .remove, ?_, ?_, ?_⟩
    · rw [step, Stack.expire_eq, if_pos linked, RoutingTable.evict_eq_run]
    · intro time node mem
      obtain ⟨id, -, removal⟩ := List.mem_map.1 mem
      cases removal
    · intro id mem
      obtain ⟨silent, listed, removal⟩ := List.mem_map.1 mem
      cases removal
      exact ⟨rfl, listed⟩
  | send network =>
    refine ⟨[], ?_, nofun, nofun⟩
    rw [step, Stack.sendAll_stack (wired.resolves (by decide))]
    rfl
  | want infoHash =>
    obtain ⟨tasks, wanted⟩ := course.stack.want_frame infoHash
    exact ⟨[], by rw [step, wanted]; rfl, nofun, nofun⟩
  | purge => exact ⟨[], rfl, nofun, nofun⟩
  | rotate entropy => exact ⟨[], rfl, nofun, nofun⟩
  | advance milliseconds => exact ⟨[], rfl, nofun, nofun⟩

theorem holds_step {node : Node} (wired : course.stack.FullyWired)
    (holds : (course.step event).stack.table.Holds node) :
    course.stack.table.Holds node ∨
      ∃ message, course.Accepts event message node.address ∧ node.address.port ≠ 0 ∧
        message.body.author = some node.id := by
  obtain ⟨operations, ran, accepted, -⟩ := table_step wired event
  rw [ran] at holds
  rcases holds.of_run with before | ⟨time, added⟩
  · exact .inl before
  · obtain ⟨message, accepts, port, author, -⟩ := accepted time node added
    exact .inr ⟨message, accepts, port, author⟩

/-- A peer comes to be listed by a message that is accepted and authorises it. -/
theorem announces_step (wired : course.stack.FullyWired) (event : StackEvent) :
    ∃ operations,
      (course.step event).stack.announces = course.stack.announces.run operations ∧
      ∀ time infoHash peer, .add time infoHash peer ∈ operations →
        ∃ message source, course.Accepts event message source ∧ source.port ≠ 0 ∧
          time = course.now ∧ course.stack.secrets.Authorises infoHash peer message source := by
  cases event with
  | receive network =>
    rcases wired.receive_cases course.now network with
      ⟨-, same⟩ | ⟨message, source, port, outcome, became⟩
    · exact ⟨[], by rw [step, same]; rfl, nofun⟩
    · obtain ⟨-, operations, ran, authorised⟩ :=
        wired.accept_authorised course.now message source
      refine ⟨operations, by rw [step, became, ran], ?_⟩
      intro time infoHash peer added
      obtain ⟨now, authorised⟩ := authorised time infoHash peer added
      exact ⟨message, source, ⟨network, rfl, outcome⟩, port, now, authorised⟩
  | schedule kind job => exact ⟨[], rfl, nofun⟩
  | work entropy => exact ⟨[], (course.stack.tended_runReady course.now entropy).announces, nofun⟩
  | expire => exact ⟨[], by rw [step, Stack.expire_eq]; rfl, nofun⟩
  | send network =>
    exact ⟨[], by rw [step, Stack.sendAll_stack (wired.resolves (by decide))]; rfl, nofun⟩
  | want infoHash =>
    obtain ⟨tasks, wanted⟩ := course.stack.want_frame infoHash
    exact ⟨[.want infoHash], by rw [step, wanted]; rfl, by simp⟩
  | purge => exact ⟨[.purge course.now], rfl, by simp⟩
  | rotate entropy => exact ⟨[], rfl, nofun⟩
  | advance milliseconds => exact ⟨[], rfl, nofun⟩

theorem lists_step (wired : course.stack.FullyWired)
    (listed : (course.step event).stack.announces.Lists infoHash peer announcedAt) :
    course.stack.announces.Lists infoHash peer announcedAt ∨
      ∃ message source, course.Accepts event message source ∧ source.port ≠ 0 ∧
        announcedAt = course.now ∧
        course.stack.secrets.Authorises infoHash peer message source := by
  obtain ⟨operations, ran, authorised⟩ := announces_step wired event
  rw [ran] at listed
  exact listed.of_run.imp_right (authorised announcedAt infoHash peer)

/-- A message comes to be queued as a query, or as the reply to a query that is
accepted. -/
theorem messages_step (wired : course.stack.FullyWired)
    (mem : outgoing ∈ (course.step event).messages) :
    outgoing ∈ course.messages ∨ (∃ asked, outgoing.message.body = .request asked) ∨
      ∃ transactionId asked source,
        course.Accepts event ⟨transactionId, .request asked⟩ source ∧
        outgoing = ⟨⟨transactionId, (course.stack.reply course.now source asked).1⟩, source, none,
          course.stack.outbox.timeout⟩ := by
  cases event with
  | receive network =>
    rcases wired.receive_cases course.now network with
      ⟨-, same⟩ | ⟨message, source, port, outcome, became⟩
    · rw [messages, step, same] at mem
      exact .inl mem
    · rw [messages, step, became] at mem
      rcases List.mem_append.1 mem with sent | queued
      · exact .inl (List.mem_append_left _ sent)
      · rcases wired.mem_queue_accept queued with old | ⟨transactionId, asked, rfl, reply⟩
        · exact .inl (List.mem_append_right _ old)
        · exact .inr (.inr ⟨transactionId, asked, source, ⟨network, rfl, outcome⟩, reply⟩)
  | schedule kind job => exact .inl mem
  | work entropy =>
    rw [messages, step, Stack.outbox_runReady] at mem
    rcases List.mem_append.1 mem with sent | queued
    · exact .inl (List.mem_append_left _ sent)
    · rcases List.mem_append.1 queued with old | new
      · exact .inl (List.mem_append_right _ old)
      · exact .inr (.inl (Stack.exists_request_of_mem_queriesOfAll new))
  | expire =>
    rw [messages, step, Stack.expire_eq] at mem
    exact .inl mem
  | send network =>
    rw [messages, step, Stack.sendAll_stack (wired.resolves (by decide)), List.append_nil] at mem
    rcases List.mem_append.1 mem with sent | now
    · exact .inl (List.mem_append_left _ sent)
    · exact .inl (List.mem_append_right _ (List.mem_filter.1 now).1)
  | want infoHash =>
    obtain ⟨tasks, wanted⟩ := course.stack.want_frame infoHash
    rw [messages, step, wanted] at mem
    exact .inl mem
  | purge => exact .inl mem
  | rotate entropy => exact .inl mem
  | advance milliseconds => exact .inl mem

/-! ## Any number of events -/

theorem Sometime.append {events : List StackEvent} {cause : StackCourse → StackEvent → Prop}
    (sometime : course.Sometime events cause) (later : List StackEvent) :
    course.Sometime (events ++ later) cause := by
  obtain ⟨before, event, after, rfl, caused⟩ := sometime
  exact ⟨before, event, after ++ later, by simp, caused⟩

theorem persists_run (course : StackCourse) (events : List StackEvent) :
    course.stack.Persists (course.run events).stack := by
  induction events generalizing course with
  | nil => exact .refl course.stack
  | cons event events ih => exact (course.persists_step event).trans (ih (course.step event))

/-- Whatever happens to a whole stack, its table stays one that can come about. -/
theorem table_run {family : Family} {own : Id} (wired : course.stack.FullyWired)
    (reached : course.stack.table.Reachable family own) (events : List StackEvent) :
    (course.run events).stack.table.Reachable family own := by
  induction events generalizing course with
  | nil => exact reached
  | cons event events ih =>
    refine ih ((course.persists_step event).fullyWired wired) ?_
    obtain ⟨operations, ran, -⟩ := table_step wired event
    obtain ⟨earlier, came⟩ := reached
    exact ⟨earlier ++ operations, by rw [ran, came, RoutingTable.run_append]⟩

theorem announces_run (wired : course.stack.FullyWired)
    (reached : course.stack.announces.Reachable) (events : List StackEvent) :
    (course.run events).stack.announces.Reachable := by
  induction events generalizing course with
  | nil => exact reached
  | cons event events ih =>
    obtain ⟨operations, ran, -⟩ := announces_step wired event
    refine ih ((course.persists_step event).fullyWired wired) ?_
    rw [ran]
    exact reached.run operations

/-- What comes to hold of a whole stack by some kind of event only, and holds in the
end, held before or came by such an event. -/
theorem sometime_of_run {property : StackCourse → Prop} {cause : StackCourse → StackEvent → Prop}
    (step : ∀ course event, course.stack.FullyWired → property (course.step event) →
      property course ∨ cause course event)
    (wired : course.stack.FullyWired) {events : List StackEvent}
    (holds : property (course.run events)) : property course ∨ course.Sometime events cause := by
  induction events generalizing course with
  | nil => exact .inl holds
  | cons event events ih =>
    rcases ih ((course.persists_step event).fullyWired wired) holds with
      first | ⟨before, later, after, rfl, caused⟩
    · rcases step course event wired first with already | caused
      · exact .inl already
      · exact .inr ⟨[], event, events, rfl, caused⟩
    · exact .inr ⟨event :: before, later, after, rfl, caused⟩

/-- What holds of a whole stack, and ends by some kind of event only, holds in the end, or
there was such an event. -/
theorem kept_of_run {property : StackCourse → Prop} {cause : StackCourse → StackEvent → Prop}
    (step : ∀ course event, course.stack.FullyWired → property course →
      property (course.step event) ∨ cause course event)
    (wired : course.stack.FullyWired) (holds : property course) (events : List StackEvent) :
    property (course.run events) ∨ course.Sometime events cause := by
  induction events generalizing course with
  | nil => exact .inl holds
  | cons event events ih =>
    rcases step course event wired holds with still | caused
    · rcases ih ((course.persists_step event).fullyWired wired) still with
        last | ⟨before, later, after, rfl, caused⟩
      · exact .inl last
      · exact .inr ⟨event :: before, later, after, rfl, caused⟩
    · exact .inr ⟨[], event, events, rfl, caused⟩

/-! ## What commands do -/

theorem exists_run_drain (now budget : Nat) (network : Network) (client : Option TrackerClient)
    (stack : Stack) (sent : List Outgoing) :
    ∃ networks : List Network,
      run ⟨now, stack, sent⟩ (networks.map .receive) =
        ⟨now, (Stack.drain now budget network client stack).2.2, sent⟩ ∧
      ∀ rest ∈ networks, ∃ count,
        network.Consumed stack.connection.localAddress count rest := by
  induction budget generalizing network client stack with
  | zero => exact ⟨[], rfl, nofun⟩
  | succ budget ih =>
    have reads : step ⟨now, stack, sent⟩ (.receive network) =
        ⟨now, (stack.receive now network).2.2, sent⟩ := rfl
    have unread := network.consumed_zero stack.connection.localAddress
    obtain ⟨count, consumed⟩ := stack.consumed_receive now network
    have socket := (stack.persists_receive now network).connection
    -- what is read later waits behind what is read now
    have later (networks : List Network)
        (left : ∀ rest ∈ networks, ∃ more, (stack.receive now network).2.1.Consumed
          (stack.receive now network).2.2.connection.localAddress more rest) :
        ∀ rest ∈ network :: networks, ∃ count,
          network.Consumed stack.connection.localAddress count rest := by
      rw [List.forall_mem_cons]
      refine ⟨⟨0, unread⟩, ?_⟩
      intro rest mem
      obtain ⟨more, behind⟩ := left rest mem
      rw [socket] at behind
      exact ⟨count + more, consumed.trans behind⟩
    unfold Stack.drain
    split
    all_goals
      rename_i outcome
      rw [outcome] at reads later
    · exact ⟨[network], reads, later [] nofun⟩
    · exact ⟨[network], reads, later [] nofun⟩
    · rename_i bytes source rest after
      obtain ⟨networks, ran, left⟩ :=
        ih rest (client.map fun client => (client.claim bytes source).2) after
      exact ⟨network :: networks, by rw [← ran, ← reads]; rfl, later networks left⟩
    · rename_i rest after _ _
      obtain ⟨networks, ran, left⟩ := ih rest client after
      exact ⟨network :: networks, by rw [← ran, ← reads]; rfl, later networks left⟩

theorem exists_run_interact (now : Nat) (entropy : Entropy) (network : Network)
    (client : Option TrackerClient) (stack : Stack) (sent : List Outgoing) :
    ∃ (networks : List Network) (drained : Network),
      (run ⟨now, stack, sent⟩
        (networks.map .receive ++ [.work entropy, .expire, .send drained])).stack =
          (stack.interact now entropy network client).2.2.2 ∧
      ∀ rest ∈ networks, ∃ count,
        network.Consumed stack.connection.localAddress count rest := by
  obtain ⟨networks, ran, left⟩ :=
    exists_run_drain now Stack.maxReceived network client stack sent
  refine ⟨networks, (Stack.drain now Stack.maxReceived network client stack).1, ?_, left⟩
  rw [run_append, ran, Stack.interact_eq]
  generalize Stack.drain now Stack.maxReceived network client stack = drained
  rfl

theorem run_schedule (now : Nat) (stack : Stack) (sent : List Outgoing) (kind : QueueKind)
    (jobs : List Job) :
    (run ⟨now, stack, sent⟩ (jobs.map (.schedule kind))).stack =
      stack.addTasks kind (jobs.map stack.task) := by
  induction jobs generalizing stack with
  | nil => exact (stack.addTasks_nil kind).symm
  | cons job jobs ih =>
    calc
      (run ⟨now, stack, sent⟩ ((job :: jobs).map (.schedule kind))).stack =
          (run ⟨now, stack.schedule kind job, sent⟩ (jobs.map (.schedule kind))).stack := rfl
      _ = (stack.schedule kind job).addTasks kind (jobs.map stack.task) := ih _
      _ = stack.addTasks kind ((job :: jobs).map stack.task) := stack.addTasks_append kind _ _

/-- Entry points are resolved to addresses of one family. -/
theorem family_of_mem_resolvePoints {names : Names} {family : Family} {points : List EntryPoint}
    {address : Address} (mem : address ∈ (Action.resolvePoints names family points).1) :
    address.family = family := by
  induction points with
  | nil => exact absurd mem List.not_mem_nil
  | cons point points ih =>
    unfold Action.resolvePoints at mem
    dsimp only at mem
    split at mem
    · rcases List.mem_append.1 mem with own | other
      · exact of_decide_eq_true (List.mem_filter.1 own).2
      · exact ih other
    · exact ih mem

theorem mem_addresses_joinJobs {id : Id} {addresses : List Address} {bootstrap : Bool} {job : Job}
    {address : Address} (mem : job ∈ Action.joinJobs id addresses bootstrap)
    (named : address ∈ job.addresses) : address ∈ addresses := by
  rcases List.mem_append.1 mem with ping | more
  · obtain ⟨destination, listed, rfl⟩ := List.mem_map.1 ping
    rw [Job.addresses, List.mem_singleton] at named
    exact named ▸ listed
  · cases bootstrap with
    | false => exact absurd more List.not_mem_nil
    | true =>
      rcases List.mem_cons.1 more with rfl | more
      · exact named
      · obtain rfl := List.mem_singleton.1 more
        exact absurd named List.not_mem_nil

/-- What a command does to its stack is some course of events.  What is read is what waits
at its socket, and the tasks that are queued name addresses of its family only. -/
theorem exists_run_execute (action : Action) (world : World) (stack : Stack)
    (sent : List Outgoing) :
    ∃ events, (run ⟨world.now, stack, sent⟩ events).stack = (action.execute world stack).stack ∧
      (∀ rest, .receive rest ∈ events → ∃ count,
        world.network.Consumed stack.connection.localAddress count rest) ∧
      ∀ kind job, .schedule kind job ∈ events →
        ∀ address ∈ job.addresses, address.family = stack.family := by
  cases action with
  | interaction readiness client =>
    obtain ⟨served, entropy, clients, executed⟩ :=
      Stack.exists_execute_interaction readiness client world stack
    obtain ⟨networks, drained, ran, left⟩ :=
      exists_run_interact world.now world.entropy world.network served stack sent
    refine ⟨_, by simpa only [executed] using ran, ?_, by simp⟩
    intro rest mem
    exact left rest (by simpa using mem)
  | tokenUpdate interval => exact ⟨[.rotate world.entropy], rfl, by simp, by simp⟩
  | bucketRefresh interval =>
    exact ⟨[.schedule .periodic1 (.bucketRefresh false)], rfl, by simp, by simp [Job.addresses]⟩
  | peerAnnounce interval => exact ⟨[.purge], rfl, by simp, by simp⟩
  | autoSave path interval =>
    have kept : ((Action.autoSave path interval).execute world stack).stack = stack := by
      change (Action.save path world stack).stack = stack
      unfold Action.save
      dsimp only
      split
      · rfl
      · rfl
    exact ⟨[], kept.symm, nofun, nofun⟩
  | forcedBucketRefresh done =>
    cases done with
    | true => exact ⟨[], rfl, nofun, nofun⟩
    | false =>
      exact ⟨[.schedule .periodic1 (.bucketRefresh true)], rfl, by simp, by simp [Job.addresses]⟩
  | entryPoint points bootstrap done =>
    cases done with
    | true => exact ⟨[], rfl, nofun, nofun⟩
    | false =>
      change ∃ events, _ = (Action.join points bootstrap world stack).stack ∧ _
      unfold Action.join
      dsimp only
      split
      · exact ⟨[], rfl, nofun, nofun⟩
      · refine ⟨_, run_schedule world.now stack sent .periodic1 _, by simp, ?_⟩
        intro kind job mem address named
        obtain ⟨own, joins, same⟩ := List.mem_map.1 mem
        cases same
        exact family_of_mem_resolvePoints (mem_addresses_joinJobs joins named)

end StackCourse

end Kademlia
