import Kademlia.Proofs.Network.Traffic
import Kademlia.Proofs.Stack.Frame
import Kademlia.Proofs.Stack.Reply

/-!
# What a stack receives

A datagram that is read is ignored, left to others, taken for a query or taken for
the answer to a query that waits; what follows for the stack is said once for each
case.  Of those that wait on the socket as many are handled as there is room for in
a round, one after another, and the rest goes on waiting.
-/

namespace Kademlia

namespace Stack

variable {stack : Stack} {now : Nat} {message : Message} {source : Address}
  {transactionId : UInt16} {asked : Request} {datagram : Datagram}

/-! ## Accepting a message -/

/-- A stack that put the author of a message into its table, if there is one. -/
def noted (stack : Stack) (now : Nat) (message : Message) (source : Address) : Stack :=
  match message.body.author with
  | none => stack
  | some id => (stack.addNode now ⟨id, source⟩).2

/-- An author changes nothing but the table and the tasks. -/
theorem exists_noted (stack : Stack) (now : Nat) (message : Message) (source : Address) :
    ∃ table tasks, stack.noted now message source = { stack with table, tasks } := by
  unfold noted
  split
  · exact ⟨stack.table, stack.tasks, rfl⟩
  · obtain ⟨tasks, added⟩ := stack.addNode_frame now ⟨_, source⟩
    exact ⟨_, tasks, added⟩

theorem FullyWired.noteAuthor_eq (wired : stack.FullyWired) (now : Nat) (message : Message)
    (source : Address) :
    stack.noteAuthor now message source =
      (.ok (.message message source), stack.noted now message source) := by
  have table : stack.require .receiver .table = .ok () := wired.require (by decide)
  unfold noteAuthor noted
  cases message.body.author with
  | none => rfl
  | some id =>
    dsimp only
    rw [table]

/-- What can become of a message that is no query. -/
theorem FullyWired.accept_reply (wired : stack.FullyWired) (now : Nat) (source : Address)
    (reply : ∀ asked, message.body ≠ .request asked) :
    stack.accept now message source =
      match Inflight.answer message.transactionId source stack.inflight with
      | none => (.ok .ignored, stack)
      | some (_, inflight) =>
          (.ok (.message message source), { stack with inflight }.noted now message source) := by
  have tracker : stack.require .receiver .tracker = .ok () := wired.require (by decide)
  unfold accept
  split
  · rename_i asked body
    exact absurd body (reply asked)
  · rw [tracker]
    cases Inflight.answer message.transactionId source stack.inflight with
    | none => rfl
    | some found =>
      have still : { stack with inflight := found.2 }.FullyWired := ⟨wired.wired, wired.whole⟩
      exact still.noteAuthor_eq now message source

/-- A query that is accepted leaves the reply queued, and its author may change the
table and the tasks. -/
theorem FullyWired.exists_accept_request (wired : stack.FullyWired) (now : Nat)
    (transactionId : UInt16) (asked : Request) (source : Address) :
    ∃ table tasks, (stack.accept now ⟨transactionId, .request asked⟩ source).2 =
      { stack.replied now transactionId asked source with table, tasks } := by
  obtain ⟨tasks, added⟩ := (stack.replied now transactionId asked source).addNode_frame now
    ⟨asked.requester, source⟩
  rw [wired.accept_request, added]
  exact ⟨_, tasks, rfl⟩

/-! ## Handling a datagram -/

/-- What can become of a datagram that a whole stack read. -/
inductive Handled (stack : Stack) (now : Nat) (datagram : Datagram) :
    Except Error Received × Stack → Prop
  | portless (port : datagram.source.port = 0) :
      Handled stack now datagram (.ok .ignored, stack)
  | foreign (port : datagram.source.port ≠ 0) (head : datagram.bytes.head? ≠ some 0x64) :
      Handled stack now datagram (.ok (.foreign datagram.bytes datagram.source), stack)
  | malformed {error : Error} (port : datagram.source.port ≠ 0)
      (head : datagram.bytes.head? = some 0x64)
      (decoded : Message.decode stack.family datagram.bytes = .error error) :
      Handled stack now datagram (.ok .ignored, stack)
  | query {transactionId : UInt16} {asked : Request}
      (holds : HoldsQuery stack.family datagram transactionId asked) :
      Handled stack now datagram
        (.ok (.message ⟨transactionId, .request asked⟩ datagram.source),
          ((stack.replied now transactionId asked datagram.source).addNode now
            ⟨asked.requester, datagram.source⟩).2)
  | unawaited {message : Message} (port : datagram.source.port ≠ 0)
      (head : datagram.bytes.head? = some 0x64)
      (decoded : Message.decode stack.family datagram.bytes = .ok message)
      (reply : ∀ asked, message.body ≠ .request asked)
      (unanswered :
        Inflight.answer message.transactionId datagram.source stack.inflight = none) :
      Handled stack now datagram (.ok .ignored, stack)
  | answer {message : Message} {query : Query} {inflight : Inflight}
      (port : datagram.source.port ≠ 0) (head : datagram.bytes.head? = some 0x64)
      (decoded : Message.decode stack.family datagram.bytes = .ok message)
      (reply : ∀ asked, message.body ≠ .request asked)
      (answered : Inflight.answer message.transactionId datagram.source stack.inflight =
        some (query, inflight)) :
      Handled stack now datagram
        (.ok (.message message datagram.source),
          { stack with inflight }.noted now message datagram.source)

theorem FullyWired.handled (wired : stack.FullyWired) (now : Nat) (datagram : Datagram) :
    Handled stack now datagram (stack.handle now datagram) := by
  have factory : stack.require .receiver .factory = .ok () := wired.require (by decide)
  by_cases port : datagram.source.port = 0
  · rw [handle, if_pos port]
    exact .portless port
  by_cases other : datagram.bytes.head? ≠ some 0x64
  · rw [handle, if_neg port, if_pos other]
    exact .foreign port other
  have head : datagram.bytes.head? = some 0x64 := Decidable.not_not.1 other
  cases decoded : Message.decode stack.family datagram.bytes with
  | error error =>
    rw [handle, if_neg port, if_neg other, factory]
    dsimp only
    rw [decoded]
    exact .malformed port head decoded
  | ok message =>
    obtain ⟨transactionId, body⟩ := message
    by_cases query : ∃ asked, body = .request asked
    · obtain ⟨asked, rfl⟩ := query
      have holds : HoldsQuery stack.family datagram transactionId asked := ⟨port, head, decoded⟩
      rw [wired.handle_request holds]
      exact .query holds
    · have reply : ∀ asked, body ≠ .request asked := fun asked same => query ⟨asked, same⟩
      rw [wired.handle_of_decoded now port head decoded,
        wired.accept_reply now datagram.source reply]
      cases answered : Inflight.answer transactionId datagram.source stack.inflight with
      | none => exact .unawaited port head decoded reply answered
      | some found => exact .answer port head decoded reply answered

/-- Handling a datagram never fails, and it is never taken for nothing. -/
theorem FullyWired.exists_handle (wired : stack.FullyWired) (now : Nat) (datagram : Datagram) :
    ∃ received, (stack.handle now datagram).1 = .ok received ∧ received ≠ .nothing := by
  have handled := wired.handled now datagram
  generalize stack.handle now datagram = outcome at handled
  cases handled with
  | portless port => exact ⟨_, rfl, nofun⟩
  | foreign port head => exact ⟨_, rfl, nofun⟩
  | malformed port head decoded => exact ⟨_, rfl, nofun⟩
  | query holds => exact ⟨_, rfl, nofun⟩
  | unawaited port head decoded reply unanswered => exact ⟨_, rfl, nofun⟩
  | answer port head decoded reply answered => exact ⟨_, rfl, nofun⟩

/-! ## What is replied -/

/-- A query has its reply queued. -/
theorem FullyWired.outbox_handle_of_query (wired : stack.FullyWired)
    (holds : HoldsQuery stack.family datagram transactionId asked) :
    (stack.handle now datagram).2.outbox =
      stack.outbox.add ⟨transactionId, (stack.reply now datagram.source asked).1⟩
        datagram.source none := by
  obtain ⟨table, tasks, became⟩ :=
    wired.exists_accept_request now transactionId asked datagram.source
  rw [wired.accept_request] at became
  rw [wired.handle_request holds, became]
  rfl

/-- Nothing else has anything queued. -/
theorem FullyWired.outbox_handle_of_not_query (wired : stack.FullyWired)
    (unasked : ∀ transactionId asked, ¬HoldsQuery stack.family datagram transactionId asked) :
    (stack.handle now datagram).2.outbox = stack.outbox := by
  have handled := wired.handled now datagram
  generalize stack.handle now datagram = outcome at handled
  cases handled with
  | portless port => rfl
  | foreign port head => rfl
  | malformed port head decoded => rfl
  | query holds => exact absurd holds (unasked _ _)
  | unawaited port head decoded reply unanswered => rfl
  | @answer message query inflight port head decoded reply answered =>
    obtain ⟨table, tasks, became⟩ :=
      exists_noted { stack with inflight } now message datagram.source
    rw [became]

/-- Datagrams with the replies that they have, each from the state that the earlier
ones left: one for a query, as the stack answers it, and none for anything else. -/
inductive RepliedTo (now : Nat) : Stack → List Datagram → List Outgoing → Prop
  | nil (stack : Stack) : RepliedTo now stack [] []
  | query {stack after : Stack} {datagram : Datagram} {datagrams : List Datagram}
      {transactionId : UInt16} {asked : Request} {body : Body} {replies : List Outgoing}
      (holds : HoldsQuery stack.family datagram transactionId asked)
      (answered : stack.answer now asked datagram.source = .ok (body, after))
      (rest : RepliedTo now (stack.handle now datagram).2 datagrams replies) :
      RepliedTo now stack (datagram :: datagrams)
        (⟨⟨transactionId, body⟩, datagram.source, none, stack.outbox.timeout⟩ :: replies)
  | other {stack : Stack} {datagram : Datagram} {datagrams : List Datagram}
      {replies : List Outgoing}
      (unasked : ∀ transactionId asked, ¬HoldsQuery stack.family datagram transactionId asked)
      (rest : RepliedTo now (stack.handle now datagram).2 datagrams replies) :
      RepliedTo now stack (datagram :: datagrams) replies

/-! ## Handling what waits -/

/-- A stack that handled datagrams in order. -/
def handleAll (now : Nat) (datagrams : List Datagram) (stack : Stack) : Stack :=
  datagrams.foldl (fun stack datagram => (stack.handle now datagram).2) stack

theorem persists_handleAll (now : Nat) (datagrams : List Datagram) (stack : Stack) :
    Persists stack (handleAll now datagrams stack) := by
  induction datagrams generalizing stack with
  | nil => exact .refl stack
  | cons datagram datagrams ih => exact (stack.persists_handle now datagram).trans (ih _)

/-- Datagrams that are handled have their replies queued in order. -/
theorem FullyWired.exists_replies (wired : stack.FullyWired) (now : Nat)
    (datagrams : List Datagram) :
    ∃ replies, RepliedTo now stack datagrams replies ∧
      (handleAll now datagrams stack).outbox =
        { stack.outbox with queue := stack.outbox.queue ++ replies } := by
  induction datagrams generalizing stack with
  | nil => exact ⟨[], .nil stack, by simp [handleAll]⟩
  | cons datagram datagrams ih =>
    obtain ⟨replies, replied, queued⟩ := ih ((stack.persists_handle now datagram).fullyWired wired)
    by_cases query : ∃ transactionId asked, HoldsQuery stack.family datagram transactionId asked
    · obtain ⟨transactionId, asked, holds⟩ := query
      refine ⟨_, .query holds (wired.answer_eq now asked datagram.source) replied, ?_⟩
      rw [wired.outbox_handle_of_query holds] at queued
      refine queued.trans ?_
      rw [List.append_cons]
      rfl
    · have unasked : ∀ transactionId asked,
          ¬HoldsQuery stack.family datagram transactionId asked := by
        intro transactionId asked holds
        exact query ⟨transactionId, asked, holds⟩
      refine ⟨replies, .other unasked replied, ?_⟩
      rw [wired.outbox_handle_of_not_query unasked] at queued
      exact queued

end Stack

/-- A network from which the first datagrams at an address were read. -/
structure Network.Consumed (before : Network) (address : Address) (count : Nat)
    (after : Network) : Prop where
  here : after.channel? address = (before.channel? address).map fun channel =>
    { channel with waiting := channel.waiting.drop count }
  elsewhere : ∀ other, other ≠ address → after.channel? other = before.channel? other

theorem Network.consumed_zero (network : Network) (address : Address) :
    network.Consumed address 0 network := by
  refine ⟨?_, fun _ _ => rfl⟩
  cases network.channel? address with
  | none => rfl
  | some channel => rfl

theorem Network.Consumed.trans {before between after : Network} {address : Address}
    {count more : Nat} (first : before.Consumed address count between)
    (second : between.Consumed address more after) :
    before.Consumed address (count + more) after := by
  refine ⟨?_, fun other different =>
    (second.elsewhere other different).trans (first.elsewhere other different)⟩
  rw [second.here, first.here, Option.map_map]
  simp only [Function.comp_def, List.drop_drop]

theorem Network.Consumed.exists_waits {before after : Network} {address : Address} {count : Nat}
    {waiting : List Datagram} (consumed : before.Consumed address count after)
    (waits : after.Waits address waiting) :
    ∃ earlier, before.Waits address earlier ∧ waiting = earlier.drop count := by
  obtain ⟨handles, found⟩ := waits
  rw [consumed.here, Option.map_eq_some_iff] at found
  obtain ⟨⟨_, earlier⟩, bound, same⟩ := found
  cases same
  exact ⟨earlier, ⟨_, bound⟩, rfl⟩

/-- What is read was the first to wait. -/
theorem Network.consumed_receive (network : Network) (address : Address) (size : Nat) :
    ∃ count, network.Consumed address count (network.receive address size).2 := by
  unfold receive
  split
  · exact ⟨0, network.consumed_zero address⟩
  · rename_i channel found
    split
    · exact ⟨0, network.consumed_zero address⟩
    · rename_i datagram rest waiting
      refine ⟨1, ?_, ?_⟩
      · dsimp only
        rw [channel?_modify, if_pos rfl, found, Option.map_some, Option.map_some, waiting]
        rfl
      · intro other different
        dsimp only
        rw [channel?_modify, if_neg different]

theorem Connection.consumed_receive (connection : Connection) (network : Network) (size : Nat) :
    ∃ count,
      network.Consumed connection.localAddress count (connection.receive network size).2 := by
  have read := network.consumed_receive connection.localAddress size
  unfold receive
  split
  all_goals
    rename_i outcome
    rw [outcome] at read
    exact read

theorem Stack.consumed_receive (stack : Stack) (now : Nat) (network : Network) :
    ∃ count, network.Consumed stack.connection.localAddress count
      (stack.receive now network).2.1 := by
  have read := stack.connection.consumed_receive network mtu
  unfold receive
  split
  · exact ⟨0, network.consumed_zero _⟩
  · split
    all_goals
      rename_i outcome
      rw [outcome] at read
      exact read

namespace Stack

variable {stack : Stack} {network : Network} {handles : Nat} {waiting : List Datagram}

/-- A stack handles what waits on its socket in order, up to a number of datagrams,
and leaves the others there. -/
theorem FullyWired.drain_eq (wired : stack.FullyWired) (now budget : Nat)
    (client : Option TrackerClient)
    (bound : network.channel? stack.connection.localAddress = some ⟨handles, waiting⟩) :
    let drained := drain now budget network client stack
    drained.2.2 = handleAll now ((waiting.take budget).map (Datagram.cut mtu)) stack ∧
      network.Consumed stack.connection.localAddress budget drained.1 := by
  induction budget generalizing network client stack waiting with
  | zero => exact ⟨rfl, network.consumed_zero _⟩
  | succ budget ih =>
    have linked : stack.require .receiver .connection = .ok () := wired.require (by decide)
    cases waiting with
    | nil =>
      have received : stack.receive now network = (.ok .nothing, network, stack) := by
        rw [receive, linked]
        dsimp only
        rw [Connection.receive_of_nothing bound]
      rw [drain, received]
      refine ⟨rfl, ?_, fun _ _ => rfl⟩
      rw [bound]
      rfl
    | cons datagram waiting =>
      let read := network.modify stack.connection.localAddress fun channel =>
        { channel with waiting }
      let after := (stack.handle now (datagram.cut mtu)).2
      have persists : stack.Persists after := stack.persists_handle now _
      have left : read.channel? stack.connection.localAddress = some ⟨handles, waiting⟩ := by
        rw [Network.channel?_modify, if_pos rfl, bound]
        rfl
      have others : ∀ other, other ≠ stack.connection.localAddress →
          read.channel? other = network.channel? other := by
        intro other elsewhere
        rw [Network.channel?_modify, if_neg elsewhere]
      have received : stack.receive now network =
          ((stack.handle now (datagram.cut mtu)).1, read, after) :=
        wired.receive_eq now (Connection.receive_cut bound)
      -- whatever the datagram is, the round goes on with the next one
      have goesOn : ∃ client', drain now (budget + 1) network client stack =
          drain now budget read client' after := by
        obtain ⟨outcome, handled, something⟩ := wired.exists_handle now (datagram.cut mtu)
        rw [drain, received, handled]
        cases outcome with
        | nothing => exact absurd rfl something
        | message message source => exact ⟨client, rfl⟩
        | foreign bytes source => exact ⟨_, rfl⟩
        | ignored => exact ⟨client, rfl⟩
      obtain ⟨client', goesOn⟩ := goesOn
      rw [← persists.connection] at left
      obtain ⟨became, here, elsewhere⟩ := ih (persists.fullyWired wired) client' left
      rw [goesOn]
      rw [persists.connection] at here elsewhere left
      refine ⟨became, ?_, ?_⟩
      · rw [here, left, bound]
        rfl
      · intro other different
        rw [elsewhere other different, others other different]

end Stack

end Kademlia
