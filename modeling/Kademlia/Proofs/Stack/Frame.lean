import Kademlia.Proofs.Stack.Expiry
import Kademlia.Proofs.Stack.Nodes
import Kademlia.Proofs.Stack.Send
import Kademlia.Stack.Interact

/-!
# What a stack stays through everything

Whatever a stack receives, runs, gives up on or sends, it stays the same node on
the same socket, with the same links to the same parts.
-/

namespace Kademlia.Stack

/-- A stack that another one may have become: the node, the socket, the wiring and
the parts that are gone are the same. -/
structure Persists (before after : Stack) : Prop where
  localNode : after.localNode = before.localNode
  connection : after.connection = before.connection
  wiring : after.wiring = before.wiring
  gone : after.gone = before.gone

namespace Persists

variable {before between after : Stack}

theorem refl (stack : Stack) : Persists stack stack :=
  ⟨rfl, rfl, rfl, rfl⟩

theorem trans (first : Persists before between) (second : Persists between after) :
    Persists before after :=
  ⟨second.localNode.trans first.localNode, second.connection.trans first.connection,
    second.wiring.trans first.wiring, second.gone.trans first.gone⟩

theorem family (persists : Persists before after) : after.family = before.family :=
  congrArg Connection.family persists.connection

theorem owned (persists : Persists before after) : after.owned = before.owned := by
  funext part
  rw [Stack.owned, Stack.owned, has, has, persists.gone]

theorem require (persists : Persists before after) (owner target : Part) :
    after.require owner target = before.require owner target := by
  rw [Stack.require, Stack.require, requireVia, requireVia, persists.wiring, persists.owned]

theorem resolves (persists : Persists before after) (owner target : Part) :
    after.resolves owner target = before.resolves owner target := by
  rw [Stack.resolves, Stack.resolves, persists.wiring, persists.owned]

theorem fullyWired (persists : Persists before after) (wired : before.FullyWired) :
    after.FullyWired := by
  constructor
  · rw [persists.wiring]
    exact wired.wired
  · exact persists.gone.trans wired.whole

end Persists

variable {now : Nat}

/-! ## Receiving -/

theorem persists_addNode (stack : Stack) (now : Nat) (node : Node) :
    Persists stack (stack.addNode now node).2 := by
  obtain ⟨tasks, added⟩ := stack.addNode_frame now node
  rw [added]
  exact ⟨rfl, rfl, rfl, rfl⟩

theorem persists_addNodes (stack : Stack) (now : Nat) (nodes : List Node) :
    Persists stack (stack.addNodes now nodes) := by
  induction nodes generalizing stack with
  | nil => exact .refl stack
  | cons node nodes ih => exact (stack.persists_addNode now node).trans (ih _)

/-- An answer that can be given changes nothing but the announces. -/
theorem answer_frame {stack after : Stack} {asked : Request} {source : Address} {body : Body}
    (answered : stack.answer now asked source = .ok (body, after)) :
    ∃ announces, after = { stack with announces } := by
  rw [answer, bind_eq_ok_iff] at answered
  obtain ⟨-, -, answered⟩ := answered
  cases asked with
  | ping requester =>
    cases answered
    exact ⟨_, rfl⟩
  | findNode requester target =>
    simp only [bind_eq_ok_iff] at answered
    obtain ⟨-, -, answered⟩ := answered
    cases answered
    exact ⟨_, rfl⟩
  | getPeers requester infoHash =>
    simp only [bind_eq_ok_iff] at answered
    obtain ⟨-, -, -, -, -, -, answered⟩ := answered
    cases answered
    exact ⟨_, rfl⟩
  | announcePeer requester infoHash port impliedPort token =>
    simp only [bind_eq_ok_iff] at answered
    obtain ⟨-, -, answered⟩ := answered
    split at answered
    · rw [bind_eq_ok_iff] at answered
      obtain ⟨-, -, answered⟩ := answered
      cases answered
      exact ⟨_, rfl⟩
    · cases answered
      exact ⟨_, rfl⟩

/-- A relation between what a stack is and what it becomes that receiving respects: it goes on
holding when the announces or what is to be sent change, when a query that waits is answered,
and when a node is added. -/
structure Attentive (becomes : Stack → Stack → Prop) : Prop where
  refl : ∀ stack, becomes stack stack
  trans : ∀ {before between after}, becomes before between → becomes between after →
    becomes before after
  replies : ∀ stack announces outbox, becomes stack { stack with announces, outbox }
  answers : ∀ stack inflight, becomes stack { stack with inflight }
  notes : ∀ stack now node, becomes stack (stack.addNode now node).2

namespace Attentive

variable {becomes : Stack → Stack → Prop} (attentive : Attentive becomes)

include attentive

theorem handleRequest (stack : Stack) (now : Nat) (asked : Request) (transactionId : UInt16)
    (source : Address) :
    becomes stack (stack.handleRequest now asked transactionId source).2 := by
  unfold Stack.handleRequest
  split
  · exact attentive.refl stack
  · rename_i answered
    obtain ⟨announces, rfl⟩ := answer_frame answered
    split
    · exact attentive.replies stack announces stack.outbox
    · exact attentive.replies stack announces _

theorem noteAuthor (stack : Stack) (now : Nat) (message : Message) (source : Address) :
    becomes stack (stack.noteAuthor now message source).2 := by
  unfold Stack.noteAuthor
  split
  · exact attentive.refl stack
  · split
    · exact attentive.refl stack
    · exact attentive.notes stack now _

theorem accept (stack : Stack) (now : Nat) (message : Message) (source : Address) :
    becomes stack (stack.accept now message source).2 := by
  unfold Stack.accept
  split
  · exact attentive.trans (attentive.handleRequest stack now _ _ source)
      (attentive.noteAuthor _ now _ source)
  · split
    · exact attentive.refl stack
    · split
      · exact attentive.refl stack
      · exact attentive.trans (attentive.answers stack _)
          (attentive.noteAuthor _ now message source)

theorem handle (stack : Stack) (now : Nat) (datagram : Datagram) :
    becomes stack (stack.handle now datagram).2 := by
  unfold Stack.handle
  split
  · exact attentive.refl stack
  · split
    · exact attentive.refl stack
    · split
      · exact attentive.refl stack
      · split
        · exact attentive.refl stack
        · exact attentive.accept stack now _ datagram.source

theorem receive (stack : Stack) (now : Nat) (network : Network) :
    becomes stack (stack.receive now network).2.2 := by
  unfold Stack.receive
  split
  · exact attentive.refl stack
  · split
    · exact attentive.refl stack
    · exact attentive.refl stack
    · exact attentive.handle stack now _

theorem drain (now budget : Nat) (network : Network) (client : Option TrackerClient)
    (stack : Stack) : becomes stack (Stack.drain now budget network client stack).2.2 := by
  induction budget generalizing network client stack with
  | zero => exact attentive.refl stack
  | succ budget ih =>
    have received := attentive.receive stack now network
    unfold Stack.drain
    split
    all_goals
      rename_i outcome
      rw [outcome] at received
    · exact received
    · exact received
    · exact attentive.trans received (ih _ _ _)
    · exact attentive.trans received (ih _ _ _)

end Attentive

theorem attentive_persists : Attentive Persists where
  refl := .refl
  trans := .trans
  replies _ _ _ := ⟨rfl, rfl, rfl, rfl⟩
  answers _ _ := ⟨rfl, rfl, rfl, rfl⟩
  notes := persists_addNode

theorem persists_accept (stack : Stack) (now : Nat) (message : Message) (source : Address) :
    Persists stack (stack.accept now message source).2 :=
  attentive_persists.accept stack now message source

theorem persists_handle (stack : Stack) (now : Nat) (datagram : Datagram) :
    Persists stack (stack.handle now datagram).2 :=
  attentive_persists.handle stack now datagram

theorem persists_receive (stack : Stack) (now : Nat) (network : Network) :
    Persists stack (stack.receive now network).2.2 :=
  attentive_persists.receive stack now network

theorem persists_drain (now budget : Nat) (network : Network) (client : Option TrackerClient)
    (stack : Stack) : Persists stack (drain now budget network client stack).2.2 :=
  attentive_persists.drain now budget network client stack

/-! ## Running tasks -/

theorem persists_addTasks (stack : Stack) (kind : QueueKind) (tasks : List Task) :
    Persists stack (stack.addTasks kind tasks) :=
  ⟨rfl, rfl, rfl, rfl⟩

/-- A relation between what a stack is and what it becomes that running tasks respects:
it goes on holding when queries are queued, when a bucket is looked after, and when the
tasks change. -/
structure Respected (becomes : Stack → Stack → Prop) : Prop where
  refl : ∀ stack, becomes stack stack
  trans : ∀ {before between after}, becomes before between → becomes between after →
    becomes before after
  asks : ∀ stack nextTransaction outbox, becomes stack { stack with nextTransaction, outbox }
  touches : ∀ stack now distance,
    becomes stack { stack with table := stack.table.touch now distance }
  queues : ∀ stack tasks, becomes stack { stack with tasks }

namespace Respected

variable {becomes : Stack → Stack → Prop} (respected : Respected becomes)

include respected

theorem sendQuery (stack : Stack) (task : Task) (request : Request) (destination : Address)
    (remote : Option Id) : becomes stack (stack.sendQuery task request destination remote).2 := by
  unfold Stack.sendQuery
  split
  · exact respected.refl stack
  · dsimp only
    split
    · exact respected.asks stack _ _
    · exact respected.asks stack _ _

theorem sendQueries (task : Task) (request : Request) (targets : List (Address × Option Id))
    (stack : Stack) : becomes stack (Stack.sendQueries task request targets stack).2 := by
  induction targets generalizing stack with
  | nil => exact respected.refl stack
  | cons target targets ih =>
    have sent := respected.sendQuery stack task request target.1 target.2
    unfold Stack.sendQueries
    split
    all_goals
      rename_i outcome
      rw [outcome] at sent
    · exact sent
    · exact respected.trans sent (ih _)

theorem runPing (stack : Stack) (task : Task) (destination : Address) (remote : Option Id) :
    becomes stack (stack.runPing task destination remote).2 := by
  unfold Stack.runPing
  split
  · exact respected.refl stack
  · exact respected.sendQuery stack task _ destination remote

theorem runLookup (stack : Stack) (task : Task) (target : Id) (contacts : List Address)
    (request : Id → Request) :
    becomes stack (stack.runLookup task target contacts request).2 := by
  unfold Stack.runLookup
  split
  · exact respected.refl stack
  · exact respected.sendQueries task _ _ stack

/-- Buckets are looked after one by one. -/
theorem touchAll (now : Nat) (distances : List Nat) (stack : Stack) :
    becomes stack
      { stack with
        table := distances.foldl (fun table distance => table.touch now distance) stack.table } := by
  induction distances generalizing stack with
  | nil => exact respected.refl stack
  | cons distance distances ih =>
    exact respected.trans (respected.touches stack now distance) (ih _)

theorem runRefresh (stack : Stack) (now : Nat) (entropy : Entropy) (task : Task) (force : Bool) :
    becomes stack (stack.runRefresh now entropy task force).2.2 := by
  unfold Stack.runRefresh
  split
  · exact respected.refl stack
  · dsimp only
    split
    · exact respected.touchAll now _ stack
    · exact respected.trans (respected.touchAll now _ stack) (respected.queues _ _)

theorem runTask (stack : Stack) (now : Nat) (entropy : Entropy) (task : Task) :
    becomes stack (stack.runTask now entropy task).2.2 := by
  unfold Stack.runTask
  split
  · exact respected.runPing stack task _ _
  · exact respected.runLookup stack task _ _ _
  · exact respected.runLookup stack task _ _ _
  · exact respected.runRefresh stack now entropy task _

theorem runTasks (now : Nat) (tasks : List Task) (entropy : Entropy) (stack : Stack) :
    becomes stack (Stack.runTasks now tasks entropy stack).2.2 := by
  induction tasks generalizing entropy stack with
  | nil => exact respected.refl stack
  | cons task tasks ih => exact respected.trans (respected.runTask stack now entropy task) (ih _ _)

theorem runReady (stack : Stack) (now : Nat) (entropy : Entropy) :
    becomes stack (stack.runReady now entropy).2.2 :=
  respected.trans (respected.queues stack stack.tasks.takeReady.2)
    (respected.runTasks now _ entropy _)

end Respected

theorem respected_persists : Respected Persists where
  refl := .refl
  trans := .trans
  asks _ _ _ := ⟨rfl, rfl, rfl, rfl⟩
  touches _ _ _ := ⟨rfl, rfl, rfl, rfl⟩
  queues _ _ := ⟨rfl, rfl, rfl, rfl⟩

theorem persists_runReady (stack : Stack) (now : Nat) (entropy : Entropy) :
    Persists stack (stack.runReady now entropy).2.2 :=
  respected_persists.runReady stack now entropy

/-! ## Giving up, sending, and a whole round -/

theorem persists_expire (stack : Stack) (now : Nat) : Persists stack (stack.expire now).2 := by
  rw [expire_eq]
  exact ⟨rfl, rfl, rfl, rfl⟩

theorem persists_sendAll (stack : Stack) (now : Nat) (network : Network) :
    Persists stack (stack.sendAll now network).2.2 := by
  rw [sendAll, sendEach_stack]
  exact ⟨rfl, rfl, rfl, rfl⟩

/-- A whole round leaves a stack the node that it is. -/
theorem persists_interact (stack : Stack) (now : Nat) (entropy : Entropy) (network : Network)
    (client : Option TrackerClient) :
    Persists stack (stack.interact now entropy network client).2.2.2 := by
  have received := persists_drain now maxReceived network client stack
  unfold interact
  generalize drain now maxReceived network client stack = drained at received ⊢
  obtain ⟨network, client, drained⟩ := drained
  have ran := received.trans (drained.persists_runReady now entropy)
  exact (ran.trans (persists_expire _ now)).trans (persists_sendAll _ now network)

end Kademlia.Stack
