import Kademlia.Proofs.Stack.Course

/-!
# Nodes that were heard from

Giving up on a query removes the node that it asked, whatever was heard from that node in
the meantime: only the answer to the query itself keeps it from being given up on.
-/

namespace Kademlia

theorem Stack.mem_silent_iff {stack : Stack} {now : Nat} {id : Id} :
    id ∈ stack.silent now ↔ ∃ query ∈ (stack.expire now).1, query.remote = some id := by
  rw [silent, List.mem_filterMap, expire_eq]

namespace StackCourse

variable {course : StackCourse} {id : Id}

/-! ## How long a node stays -/

/-- A node stays in the table through every event that does not give up on it. -/
theorem contains_step (wired : course.stack.FullyWired) (event : StackEvent)
    (live : course.stack.table.contains id = true) :
    (course.step event).stack.table.contains id = true ∨ course.GivesUpOn event id := by
  rcases table_step wired event with ⟨operations, ran, -, removed⟩
  by_cases named : .remove id ∈ operations
  · exact .inr (removed id named)
  · rw [ran]
    exact .inl (RoutingTable.contains_run live named)

/-- A node that is in the table stays there as long as it is not given up on. -/
theorem contains_run (wired : course.stack.FullyWired)
    (live : course.stack.table.contains id = true) (events : List StackEvent) :
    (course.run events).stack.table.contains id = true ∨
      course.Sometime events fun course event => course.GivesUpOn event id := by
  have step (course : StackCourse) (event : StackEvent) (wired : course.stack.FullyWired)
      (live : course.stack.table.contains id = true) := contains_step wired event live
  exact kept_of_run step wired live events

theorem not_givesUpOn_of_not_mem (course : StackCourse) (id : Id) {events : List StackEvent}
    (absent : .expire ∉ events) :
    ¬course.Sometime events fun course event => course.GivesUpOn event id := by
  rintro ⟨before, event, after, rfl, rfl, -⟩
  exact absent (List.mem_append_right before List.mem_cons_self)

/-- A node that is in the table when queries are given up on is there afterwards exactly
if none of those asked it. -/
theorem contains_step_expire_iff {family : Family} {own : Id} (wired : course.stack.FullyWired)
    (reached : course.stack.table.Reachable family own)
    (live : course.stack.table.contains id = true) :
    (course.step .expire).stack.table.contains id = true ↔
      ∀ query ∈ (course.stack.expire course.now).1, query.remote ≠ some id := by
  have linked : course.stack.resolves .tracker .table = true := wired.resolves (by decide)
  rw [step, Stack.expire_eq, if_pos linked, reached.wellFormed.contains_evict_iff_of_contains live,
    Stack.mem_silent_iff, Stack.expire_eq]
  simp only [not_exists, not_and, ne_eq]

/-! ## Hearing from a node -/

/-- The event is the acceptance of a message by the node of an id, which is in the table
then. -/
def HearsFrom (course : StackCourse) (event : StackEvent) (id : Id) : Prop :=
  (course.step event).stack.table.contains id = true ∧
    ∃ message source, course.Accepts event message source ∧ message.body.author = some id

/-- Whatever happened to a whole stack, a node that is in the table when queries are given
up on is there afterwards exactly if none of those asked it.  In particular a node that was
heard from since it was asked, and that was not given up on since then, is in the table
until that query is given up on, and then no longer. -/
theorem heard_until_given_up {family : Family} {own : Id} (wired : course.stack.FullyWired)
    (reached : course.stack.table.Reachable family own) (events : List StackEvent) (id : Id) :
    let last := course.run events
    (last.stack.table.contains id = true →
      ((last.step .expire).stack.table.contains id = true ↔
        ∀ query ∈ (last.stack.expire last.now).1, query.remote ≠ some id)) ∧
      ∀ before event after, events = before ++ event :: after →
        (course.run before).HearsFrom event id →
        (¬ ((course.run before).step event).Sometime after
          fun course event => course.GivesUpOn event id) →
        last.stack.table.contains id = true ∧
          ∀ query ∈ (course.run before).stack.inflight, query.remote = some id →
            query ∈ (last.stack.expire last.now).1 →
            (last.step .expire).stack.table.contains id = false := by
  intro last
  have lastWired : last.stack.FullyWired := (course.persists_run events).fullyWired wired
  have law (live : last.stack.table.contains id = true) :=
    contains_step_expire_iff lastWired (table_run wired reached events) live
  refine ⟨law, ?_⟩
  rintro before event after rfl ⟨heard, -⟩ kept
  have earlier : (course.run before).stack.FullyWired :=
    (course.persists_run before).fullyWired wired
  have live : last.stack.table.contains id = true := by
    have ran : last = ((course.run before).step event).run after := course.run_append _ _
    rw [ran]
    have wiredThen := ((course.run before).persists_step event).fullyWired earlier
    exact (contains_run wiredThen heard after).resolve_right kept
  refine ⟨live, ?_⟩
  intro query asked remote expired
  rw [Bool.eq_false_iff, ne_eq, law live]
  intro unasked
  exact unasked query expired remote

/-- A stack half a timeout after it sent two pings to the node in its table. -/
def twiceAsked : StackCourse :=
  let home : Address := ⟨.v4 (.zero 4), 6881⟩
  let node : Node := ⟨.ofNat 24, ⟨.v4 (.zero 4), 7000⟩⟩
  let query (number : UInt16) : Query := ⟨number, node.address, some node.id, "ping", 0, 1000⟩
  let stack :=
    { Stack.assembled ⟨⟨.zero 20⟩, 6881⟩ ⟨.ipv4, home⟩ 1000 0 ⟨1⟩ with
      table := .run [.insert 0 node] (.empty .ipv4 ⟨.zero 20⟩)
      inflight := [query 1, query 2] }
  ⟨500, stack, []⟩

/-- A network on which a datagram from that node waits to be read. -/
def sentBack (bytes : Bytes) : Network :=
  ⟨[(⟨.v4 (.zero 4), 6881⟩, ⟨1, [⟨bytes, ⟨.v4 (.zero 4), 7000⟩⟩]⟩)], [], false, 0⟩

theorem fullyWired_twiceAsked : twiceAsked.stack.FullyWired :=
  have whole := Stack.fullyWired_assembled ⟨⟨.zero 20⟩, 6881⟩
    ⟨.ipv4, ⟨.v4 (.zero 4), 6881⟩⟩ 1000 0 ⟨1⟩
  ⟨whole.wired, whole.whole⟩

/-- The node asked something itself, and answered neither ping. -/
theorem heard_until_given_up_asking :
    let asks := StackEvent.receive (sentBack (Krpc.queryUnder [0x61, 0x62] (.ping (.ofNat 24))))
    let last := twiceAsked.run [asks, .advance 500]
    twiceAsked.stack.FullyWired ∧ twiceAsked.stack.table.Reachable .ipv4 ⟨.zero 20⟩ ∧
      twiceAsked.HearsFrom asks (.ofNat 24) ∧
      last.stack.table.contains (.ofNat 24) = true ∧
      (last.step .expire).stack.table.contains (.ofNat 24) = false := by
  intro asks last
  have wired := fullyWired_twiceAsked
  have reached : twiceAsked.stack.table.Reachable .ipv4 ⟨.zero 20⟩ := ⟨_, rfl⟩
  have accepts : twiceAsked.Accepts asks ⟨0x6162, .request (.ping (.ofNat 24))⟩
      ⟨.v4 (.zero 4), 7000⟩ := by
    refine ⟨_, rfl, ?_⟩
    apply eq_ok_of_toOption
    decide +kernel
  have heard : twiceAsked.HearsFrom asks (.ofNat 24) :=
    ⟨by decide +kernel, _, _, accepts, rfl⟩
  have kept := not_givesUpOn_of_not_mem (twiceAsked.step asks) (.ofNat 24)
    (show StackEvent.expire ∉ [.advance 500] by simp)
  rcases heard_until_given_up wired reached [asks, .advance 500] (.ofNat 24) with ⟨-, untilThen⟩
  rcases untilThen [] asks [.advance 500] rfl heard kept with ⟨live, gone⟩
  exact ⟨wired, reached, heard, live, gone _ List.mem_cons_self rfl (by decide +kernel)⟩

/-- The node answered the second ping and is in the table, until the first ping is given
up on. -/
theorem evicted_after_answer :
    let pong : Message := ⟨2, .response (.ping (.ofNat 24))⟩
    let answers := StackEvent.receive (sentBack (pong.encode .ipv4))
    let last := twiceAsked.run [answers, .advance 500]
    twiceAsked.stack.FullyWired ∧ twiceAsked.stack.table.Reachable .ipv4 ⟨.zero 20⟩ ∧
      twiceAsked.Accepts answers pong ⟨.v4 (.zero 4), 7000⟩ ∧
      (twiceAsked.step answers).stack.table.contains (.ofNat 24) = true ∧
      (last.stack.expire last.now).1 = twiceAsked.stack.inflight.take 1 ∧
      last.stack.table.contains (.ofNat 24) = true ∧
      (last.step .expire).stack.table.contains (.ofNat 24) = false := by
  intro pong answers last
  refine ⟨fullyWired_twiceAsked, ⟨_, rfl⟩, ⟨_, rfl, ?_⟩, ?_, ?_, ?_, ?_⟩
  · apply eq_ok_of_toOption
    decide +kernel
  · decide +kernel
  · decide +kernel
  · decide +kernel
  · decide +kernel

end StackCourse

end Kademlia
