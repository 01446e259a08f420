import Kademlia.Proofs.Inflight
import Kademlia.Proofs.Stack.Receiving

/-!
# What a datagram is taken for

A whole stack that reads a datagram ignores it, hands it on, or accepts the message
that it holds.  Only what is accepted leaves a trace: a query its reply, a reply the
query that it answered, and either of them its author.
-/

namespace Kademlia

/-- A table after a message whose author, if there is one, is at an address. -/
def RoutingTable.noting (table : RoutingTable) (now : Nat) (author : Option Id)
    (source : Address) : RoutingTable :=
  match author with
  | none => table
  | some id => (table.insert now ⟨id, source⟩).2

namespace Stack

variable {stack : Stack} {now handles : Nat} {network : Network} {message : Message}
  {source : Address} {transactionId : UInt16} {asked : Request} {datagram : Datagram}
  {waiting : List Datagram}

/-- A datagram that holds a message, from where one is accepted. -/
structure HoldsMessage (family : Family) (datagram : Datagram) (message : Message) : Prop where
  origin : datagram.source.port ≠ 0
  head : datagram.bytes.head? = some 0x64
  decoded : Message.decode family datagram.bytes = .ok message

/-! ## The author of a message -/

/-- The author of a message goes into the table, and nothing else changes but the
tasks. -/
theorem exists_noted_eq (stack : Stack) (now : Nat) (message : Message) (source : Address) :
    ∃ tasks, stack.noted now message source =
      { stack with table := stack.table.noting now message.body.author source, tasks } := by
  unfold noted RoutingTable.noting
  cases message.body.author with
  | none => exact ⟨stack.tasks, rfl⟩
  | some id => exact stack.addNode_frame now ⟨id, source⟩

/-! ## One datagram -/

/-- What is not accepted as a message leaves the stack as it is. -/
theorem FullyWired.handle_of_dropped (wired : stack.FullyWired)
    (dropped : ∀ message source, (stack.handle now datagram).1 ≠ .ok (.message message source)) :
    (stack.handle now datagram).2 = stack := by
  have handled := wired.handled now datagram
  generalize stack.handle now datagram = outcome at handled dropped
  cases handled with
  | portless port => rfl
  | foreign port head => rfl
  | malformed port head decoded => rfl
  | query holds => exact absurd rfl (dropped _ _)
  | unawaited port head decoded reply unanswered => rfl
  | answer port head decoded reply answered => exact absurd rfl (dropped _ _)

/-- What is handed on is what does not begin like a dictionary. -/
theorem FullyWired.handle_eq_foreign_iff (wired : stack.FullyWired) {bytes : Bytes} :
    (stack.handle now datagram).1 = .ok (.foreign bytes source) ↔
      datagram = ⟨bytes, source⟩ ∧ source.port ≠ 0 ∧ bytes.head? ≠ some 0x64 := by
  constructor
  · intro given
    have handled := wired.handled now datagram
    generalize stack.handle now datagram = outcome at handled given
    cases handled with
    | portless port => cases given
    | foreign port head =>
      cases given
      exact ⟨rfl, port, head⟩
    | malformed port head decoded => cases given
    | query holds => cases given
    | unawaited port head decoded reply unanswered => cases given
    | answer port head decoded reply answered => cases given
  · rintro ⟨rfl, port, head⟩
    rw [handle, if_neg port, if_pos head]

/-- What is accepted is the message that the datagram holds, and its author goes into
the table. -/
theorem FullyWired.holds_of_handle (wired : stack.FullyWired)
    (accepted : (stack.handle now datagram).1 = .ok (.message message source)) :
    source = datagram.source ∧ HoldsMessage stack.family datagram message ∧
      (stack.handle now datagram).2.table =
        stack.table.noting now message.body.author datagram.source := by
  have handled := wired.handled now datagram
  generalize stack.handle now datagram = outcome at handled accepted ⊢
  cases handled with
  | portless port => cases accepted
  | foreign port head => cases accepted
  | malformed port head decoded => cases accepted
  | @query transactionId asked holds =>
    cases accepted
    refine ⟨rfl, ⟨holds.origin, holds.head, holds.decoded⟩, ?_⟩
    obtain ⟨tasks, added⟩ :=
      (stack.replied now transactionId asked datagram.source).addNode_frame now
        ⟨asked.requester, datagram.source⟩
    dsimp only
    rw [added]
    rfl
  | unawaited port head decoded reply unanswered => cases accepted
  | @answer message query inflight port head decoded reply answered =>
    cases accepted
    refine ⟨rfl, ⟨port, head, decoded⟩, ?_⟩
    obtain ⟨tasks, noted⟩ := exists_noted_eq { stack with inflight } now message datagram.source
    dsimp only
    rw [noted]

/-- A query is accepted and replied to. -/
theorem FullyWired.handle_of_query (wired : stack.FullyWired) (now : Nat)
    (holds : HoldsMessage stack.family datagram ⟨transactionId, .request asked⟩) :
    ∃ body announces tasks,
      (∀ other, body ≠ .request other) ∧
      stack.handle now datagram =
        (.ok (.message ⟨transactionId, .request asked⟩ datagram.source),
          { stack with
            announces
            tasks
            outbox := stack.outbox.add ⟨transactionId, body⟩ datagram.source none
            table := stack.table.noting now (some asked.requester) datagram.source }) := by
  obtain ⟨tasks, added⟩ := (stack.replied now transactionId asked datagram.source).addNode_frame now
    ⟨asked.requester, datagram.source⟩
  refine ⟨(stack.reply now datagram.source asked).1, (stack.reply now datagram.source asked).2,
    tasks, stack.reply_ne_request now datagram.source asked, ?_⟩
  rw [wired.handle_request ⟨holds.origin, holds.head, holds.decoded⟩, added]
  rfl

/-- A message that is no query is accepted if it answers a query that waits, which then
waits no longer, and is ignored if it answers none. -/
theorem FullyWired.handle_of_reply (wired : stack.FullyWired) (now : Nat)
    (holds : HoldsMessage stack.family datagram message)
    (reply : ∀ asked, message.body ≠ .request asked) :
    (∃ older query newer tasks,
      stack.inflight = older ++ query :: newer ∧
      query.Awaits message.transactionId datagram.source ∧
      (∀ other ∈ older, ¬ other.Awaits message.transactionId datagram.source) ∧
      stack.handle now datagram =
        (.ok (.message message datagram.source),
          { stack with
            inflight := older ++ newer
            tasks
            table := stack.table.noting now message.body.author datagram.source })) ∨
    (∀ query ∈ stack.inflight, ¬ query.Awaits message.transactionId datagram.source) ∧
      stack.handle now datagram = (.ok .ignored, stack) := by
  rw [wired.handle_of_decoded now holds.origin holds.head holds.decoded,
    wired.accept_reply now datagram.source reply]
  cases answered : Inflight.answer message.transactionId datagram.source stack.inflight with
  | none => exact .inr ⟨Inflight.answer_eq_none_iff.1 answered, rfl⟩
  | some found =>
    obtain ⟨query, inflight⟩ := found
    obtain ⟨awaits, older, newer, parts, rfl, earlier⟩ := Inflight.answer_eq_some_iff.1 answered
    obtain ⟨tasks, noted⟩ :=
      exists_noted_eq { stack with inflight := older ++ newer } now message datagram.source
    dsimp only
    rw [noted]
    exact .inl ⟨older, query, newer, tasks, parts, awaits, earlier, rfl⟩

/-! ## One datagram off the socket -/

end Stack

end Kademlia
