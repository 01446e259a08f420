import Kademlia.Proofs.Association
import Kademlia.Proofs.History
import Kademlia.Proofs.Stack.Course
import Mathlib.Data.List.Induction

/-!
# One socket for two protocols

A host asks trackers over the socket of its stack.  What is read there and does not begin
like a dictionary leaves the stack alone and is offered to the tracker client, which
claims it if it is the reply to a request that still waits.  Which requests wait can be
told from what happened.
-/

namespace Kademlia

namespace TrackerClient

variable {client : TrackerClient} {reply : Bytes} {source : Address} {transactionId size : Nat}
  {request : TrackerRequest}

/-! ## Claiming -/

theorem mem_others : request ∈ client.others transactionId ↔
    request ∈ client.pending ∧ request.transactionId ≠ transactionId := by
  simp [others]

/-- A reply is claimed when the request of its transaction id was sent to where it comes
from. -/
theorem claim_iff : (client.claim reply source).1 = true ↔ 8 ≤ reply.length ∧
    ∃ sentAt, ⟨transactionIdOf reply, source, sentAt⟩ ∈ client.pending := by
  have found : (client.pending.any fun request =>
      request.transactionId = transactionIdOf reply && request.tracker = source) = true ↔
      ∃ sentAt, ⟨transactionIdOf reply, source, sentAt⟩ ∈ client.pending := by
    rw [List.any_eq_true]
    constructor
    · rintro ⟨⟨_, _, sentAt⟩, mem, same⟩
      simp only [Bool.and_eq_true, decide_eq_true_eq] at same
      obtain ⟨rfl, rfl⟩ := same
      exact ⟨sentAt, mem⟩
    · rintro ⟨sentAt, mem⟩
      exact ⟨_, mem, by simp⟩
  unfold claim
  dsimp only
  rw [← found]
  split
  · rename_i both
    exact ⟨fun _ => both, fun _ => rfl⟩
  · rename_i neither
    exact ⟨nofun, fun both => absurd both neither⟩

theorem claim_of_claimed (claimed : (client.claim reply source).1 = true) :
    (client.claim reply source).2 =
      ⟨client.others (transactionIdOf reply), client.replies + 1⟩ := by
  unfold claim at claimed ⊢
  dsimp only at claimed ⊢
  split at claimed
  · rename_i found
    rw [if_pos found]
  · cases claimed

theorem claim_of_unclaimed (unclaimed : ¬ (client.claim reply source).1 = true) :
    (client.claim reply source).2 = client := by
  unfold claim at unclaimed ⊢
  dsimp only at unclaimed ⊢
  split at unclaimed
  · exact absurd rfl unclaimed
  · rename_i found
    rw [if_neg found]

theorem transactionIdOf_take (enough : 8 ≤ size) :
    transactionIdOf (reply.take size) = transactionIdOf reply := by
  rw [transactionIdOf, transactionIdOf, List.drop_take, List.take_take, Nat.min_eq_left (by omega)]

/-- Octets behind the first eight make no difference. -/
theorem claim_take (enough : 8 ≤ size) :
    client.claim (reply.take size) source = client.claim reply source := by
  have sameLength : 8 ≤ (reply.take size).length ↔ 8 ≤ reply.length := by
    rw [List.length_take]
    omega
  unfold claim
  dsimp only
  rw [transactionIdOf_take enough]
  simp only [sameLength]

/-- The reply of a tracker does not begin like a dictionary. -/
theorem head?_ne_of_action (enough : 4 ≤ reply.length) (action : Bytes.toNat (reply.take 4) ≤ 3) :
    reply.head? ≠ some 0x64 := by
  intro head
  have nonempty : 0 < reply.length := Nat.lt_of_lt_of_le (by decide) enough
  obtain ⟨first, rest, rfl⟩ := List.exists_cons_of_length_pos nonempty
  obtain rfl : first = 0x64 := by simpa using head
  have length : (rest.take 3).length = 3 := by
    simp only [List.length_cons] at enough
    rw [List.length_take]
    omega
  rw [List.take_succ_cons, Bytes.toNat_cons, length] at action
  have weight : Bytes.weight 3 = 16777216 := rfl
  rw [weight] at action
  have value : (0x64 : UInt8).toNat = 100 := rfl
  rw [value] at action
  omega

end TrackerClient

/-! ## Courses -/

/-- A stack on its course, and the tracker client that its socket is shared with. -/
structure SharedCourse where
  course : StackCourse
  client : TrackerClient

/-- What happens around a shared socket: a datagram is read from whatever network there
is then, a request is made, requests that have waited for too long are forgotten, or
something happens to the stack alone. -/
inductive SocketEvent
  | read (network : Network)
  | request (transactionId : Nat) (tracker : Address)
  | purge
  | stack (event : StackEvent)

/-- Whether an event is a request to a tracker. -/
def SocketEvent.isRequest : SocketEvent → Bool
  | .request .. => true
  | _ => false

namespace SharedCourse

/-- What comes of reading a datagram. -/
def received (shared : SharedCourse) (network : Network) : Except Error Received :=
  (shared.course.stack.receive shared.course.now network).1

/-- What comes of an event. -/
def step (shared : SharedCourse) : SocketEvent → SharedCourse
  | .read network =>
      { course := shared.course.step (.receive network)
        client :=
          match shared.received network with
          | .ok (.foreign bytes source) => (shared.client.claim bytes source).2
          | _ => shared.client }
  | .request transactionId tracker =>
      { shared with client := shared.client.request shared.course.now transactionId tracker }
  | .purge => { shared with client := shared.client.expire shared.course.now }
  | .stack event => { shared with course := shared.course.step event }

/-- What comes of some events in order. -/
def run (shared : SharedCourse) (events : List SocketEvent) : SharedCourse :=
  events.foldl step shared

/-- The datagram that is read next is claimed as the reply with a transaction id. -/
def Claims (shared : SharedCourse) (network : Network) (transactionId : Nat) : Prop :=
  ∃ bytes source, shared.received network = .ok (.foreign bytes source) ∧
    (shared.client.claim bytes source).1 = true ∧
    TrackerClient.transactionIdOf bytes = transactionId

/-- An event is the end of a request: another one takes its place, its reply is claimed,
or it has waited for too long. -/
inductive Ends (request : TrackerRequest) (shared : SharedCourse) : SocketEvent → Prop
  | replaced (tracker : Address) : Ends request shared (.request request.transactionId tracker)
  | claimed {network : Network} (claims : shared.Claims network request.transactionId) :
      Ends request shared (.read network)
  | expired (old : TrackerClient.timeout ≤ shared.course.now - request.sentAt) :
      Ends request shared .purge

/-- A request that was made right after some events has not ended in those that came
since. -/
structure Outstanding (first : SharedCourse) (before : List SocketEvent)
    (request : TrackerRequest) (since : List SocketEvent) : Prop where
  sentAt : request.sentAt = (first.run before).course.now
  unended : ¬ Sometime step
    (first.run (before ++ [.request request.transactionId request.tracker])) since (Ends request)

variable {shared first : SharedCourse} {network : Network} {request : TrackerRequest}
  {event : SocketEvent} {events : List SocketEvent} {bytes : Bytes} {source : Address}
  {transactionId : Nat}

@[simp]
theorem run_append (shared : SharedCourse) (events more : List SocketEvent) :
    shared.run (events ++ more) = (shared.run events).run more :=
  List.foldl_append

theorem run_concat (shared : SharedCourse) (events : List SocketEvent) (event : SocketEvent) :
    shared.run (events ++ [event]) = (shared.run events).step event := by
  rw [run_append]
  rfl

theorem run_append_cons (shared : SharedCourse) (before : List SocketEvent) (event : SocketEvent)
    (since : List SocketEvent) :
    shared.run (before ++ event :: since) = (shared.run (before ++ [event])).run since := by
  rw [← run_append, List.append_assoc, List.singleton_append]

theorem persists_run (shared : SharedCourse) (events : List SocketEvent) :
    shared.course.stack.Persists (shared.run events).course.stack := by
  induction events using List.reverseRec with
  | nil => exact .refl _
  | append_singleton events event ih =>
    rw [run_concat]
    refine ih.trans ?_
    cases event with
    | read network => exact (shared.run events).course.persists_step _
    | request transactionId tracker => exact .refl _
    | purge => exact .refl _
    | stack event => exact (shared.run events).course.persists_step event

/-! ## Reading -/

theorem client_of_claims (claims : shared.Claims network transactionId) :
    (shared.step (.read network)).client =
      ⟨shared.client.others transactionId, shared.client.replies + 1⟩ := by
  obtain ⟨bytes, source, received, claimed, rfl⟩ := claims
  rw [step, received]
  exact TrackerClient.claim_of_claimed claimed

theorem client_of_unclaimed (unclaimed : ∀ transactionId, ¬ shared.Claims network transactionId) :
    (shared.step (.read network)).client = shared.client := by
  rw [step]
  dsimp only
  split
  · rename_i bytes source received
    apply TrackerClient.claim_of_unclaimed
    intro claimed
    exact unclaimed _ ⟨bytes, source, received, claimed, rfl⟩
  · rfl

theorem Claims.unique {other : Nat} (one : shared.Claims network transactionId)
    (another : shared.Claims network other) : transactionId = other := by
  obtain ⟨bytes, source, received, -, rfl⟩ := one
  obtain ⟨bytes', source', received', -, rfl⟩ := another
  rw [received] at received'
  cases received'
  rfl

/-! ## Which requests wait -/

@[simp]
theorem ends_read_iff :
    Ends request shared (.read network) ↔ shared.Claims network request.transactionId := by
  constructor
  · rintro ⟨⟩
    assumption
  · exact .claimed

@[simp]
theorem ends_request_iff {tracker : Address} :
    Ends request shared (.request transactionId tracker) ↔
      request.transactionId = transactionId := by
  constructor
  · rintro ⟨⟩
    rfl
  · rintro rfl
    exact .replaced tracker

@[simp]
theorem ends_purge_iff : Ends request shared .purge ↔
    TrackerClient.timeout ≤ shared.course.now - request.sentAt := by
  constructor
  · rintro ⟨⟩
    assumption
  · exact .expired

@[simp]
theorem not_ends_stack {event : StackEvent} : ¬ Ends request shared (.stack event) := by
  rintro ⟨⟩

/-- A request waits after an event if it did before and has not ended, or was just made. -/
theorem mem_pending_step : request ∈ (shared.step event).client.pending ↔
    (request ∈ shared.client.pending ∧ ¬ Ends request shared event) ∨
      event = .request request.transactionId request.tracker ∧
        request.sentAt = shared.course.now := by
  cases event with
  | read network =>
    by_cases claimed : ∃ transactionId, shared.Claims network transactionId
    · obtain ⟨transactionId, claims⟩ := claimed
      have own : shared.Claims network request.transactionId ↔
          request.transactionId = transactionId := by
        constructor
        · intro also
          exact also.unique claims
        · rintro rfl
          exact claims
      simp [client_of_claims claims, TrackerClient.mem_others, own]
    · have unclaimed : ∀ transactionId, ¬ shared.Claims network transactionId :=
        fun transactionId claims => claimed ⟨transactionId, claims⟩
      simp [client_of_unclaimed unclaimed, unclaimed]
  | request transactionId tracker =>
    have made : request = ⟨transactionId, tracker, shared.course.now⟩ ↔
        SocketEvent.request transactionId tracker =
            .request request.transactionId request.tracker ∧
          request.sentAt = shared.course.now := by
      obtain ⟨ownId, ownTracker, sentAt⟩ := request
      simp only [TrackerRequest.mk.injEq, SocketEvent.request.injEq, and_assoc, eq_comm]
    rw [step, TrackerClient.request, List.mem_append, List.mem_singleton,
      TrackerClient.mem_others, ends_request_iff, made]
  | purge => simp [step, TrackerClient.expire]
  | stack event => simp [step]

/-- The requests that wait are those that were made and have not ended since. -/
theorem mem_pending_run_iff (fresh : first.client.pending = []) :
    request ∈ (first.run events).client.pending ↔
      ∃ before since,
        events = before ++ .request request.transactionId request.tracker :: since ∧
        first.Outstanding before request since := by
  induction events using List.reverseRec with
  | nil =>
    change request ∈ first.client.pending ↔ _
    rw [fresh]
    simp
  | append_singleton events event ih =>
    rw [run_concat, mem_pending_step, ih]
    constructor
    · rintro (⟨⟨before, since, rfl, outstanding⟩, still⟩ | ⟨rfl, sentAt⟩)
      · refine ⟨before, since ++ [event], by simp, outstanding.sentAt, ?_⟩
        rw [sometime_concat, not_or]
        rw [run_append_cons] at still
        exact ⟨outstanding.unended, still⟩
      · exact ⟨events, [], rfl, sentAt, not_sometime_nil⟩
    · rintro ⟨before, since, parts, outstanding⟩
      rcases List.eq_nil_or_concat since with rfl | ⟨front, last, rfl⟩
      · obtain ⟨rfl, own⟩ := List.append_inj' parts rfl
        exact .inr ⟨(List.cons.inj own).1, outstanding.sentAt⟩
      · rw [List.concat_eq_append, ← List.cons_append, ← List.append_assoc] at parts
        obtain ⟨rfl, own⟩ := List.append_inj' parts rfl
        obtain ⟨rfl, -⟩ := List.cons.inj own
        have unended := outstanding.unended
        rw [List.concat_eq_append, sometime_concat, not_or] at unended
        refine .inl ⟨⟨before, front, rfl, outstanding.sentAt, unended.1⟩, ?_⟩
        rw [run_append_cons]
        exact unended.2

/-- At most one request waits for each transaction id. -/
theorem nodup_pending_step
    (distinct : (shared.client.pending.map TrackerRequest.transactionId).Nodup)
    (event : SocketEvent) :
    ((shared.step event).client.pending.map TrackerRequest.transactionId).Nodup := by
  have others (transactionId : Nat) :
      ((shared.client.others transactionId).map TrackerRequest.transactionId).Nodup :=
    (List.filter_sublist.map _).nodup distinct
  cases event with
  | read network =>
    by_cases claimed : ∃ transactionId, shared.Claims network transactionId
    · obtain ⟨transactionId, claims⟩ := claimed
      rw [client_of_claims claims]
      exact others transactionId
    · rw [client_of_unclaimed fun transactionId claims => claimed ⟨transactionId, claims⟩]
      exact distinct
  | request transactionId tracker =>
    change ((shared.client.others transactionId ++ [_]).map TrackerRequest.transactionId).Nodup
    rw [List.map_append, List.nodup_append]
    refine ⟨others transactionId, by simp, ?_⟩
    intro one mem another mem'
    obtain ⟨request, kept, rfl⟩ := List.mem_map.1 mem
    rw [List.map_singleton, List.mem_singleton] at mem'
    rw [mem']
    exact (TrackerClient.mem_others.1 kept).2
  | purge => exact (List.filter_sublist.map _).nodup distinct
  | stack event => exact distinct

theorem nodup_pending_run (fresh : first.client.pending = []) (events : List SocketEvent) :
    ((first.run events).client.pending.map TrackerRequest.transactionId).Nodup := by
  induction events using List.reverseRec with
  | nil =>
    change (first.client.pending.map _).Nodup
    rw [fresh]
    exact List.nodup_nil
  | append_singleton events event ih =>
    rw [run_concat]
    exact nodup_pending_step ih event

/-! ## How many replies are claimed -/

theorem length_others_lt (claims : shared.Claims network transactionId) :
    (shared.client.others transactionId).length < shared.client.pending.length := by
  obtain ⟨bytes, source, -, claimed, rfl⟩ := claims
  obtain ⟨-, sentAt, mem⟩ := TrackerClient.claim_iff.1 claimed
  apply List.length_filter_lt_length_iff_exists.2
  exact ⟨_, mem, by simp⟩

/-- A reply takes the place of a request, of which only a request makes another one. -/
theorem replies_step (shared : SharedCourse) (event : SocketEvent) :
    (shared.step event).client.replies + (shared.step event).client.pending.length ≤
      shared.client.replies + shared.client.pending.length +
        [event].countP SocketEvent.isRequest := by
  cases event with
  | read network =>
    by_cases claimed : ∃ transactionId, shared.Claims network transactionId
    · obtain ⟨transactionId, claims⟩ := claimed
      have fewer := length_others_lt claims
      rw [client_of_claims claims]
      dsimp only
      omega
    · rw [client_of_unclaimed fun transactionId claims => claimed ⟨transactionId, claims⟩]
      omega
  | request transactionId tracker =>
    have fewer : (shared.client.others transactionId).length ≤ shared.client.pending.length :=
      List.length_filter_le _ _
    simp only [step, TrackerClient.request, List.length_append, List.length_singleton,
      SocketEvent.isRequest, List.countP_singleton, if_true]
    omega
  | purge =>
    have fewer : (shared.client.expire shared.course.now).pending.length ≤
        shared.client.pending.length := List.length_filter_le _ _
    have same : (shared.client.expire shared.course.now).replies = shared.client.replies := rfl
    simp only [step]
    omega
  | stack event => simp [step]

theorem replies_run_le (fresh : first.client = .empty) (events : List SocketEvent) :
    (first.run events).client.replies + (first.run events).client.pending.length ≤
      events.countP SocketEvent.isRequest := by
  induction events using List.reverseRec with
  | nil =>
    change first.client.replies + first.client.pending.length ≤ 0
    rw [fresh]
    exact Nat.le_refl 0
  | append_singleton events event ih =>
    have one := (first.run events).replies_step event
    rw [run_concat, List.countP_append]
    omega

/-! ## Interactions -/

/-- What happens in a round of a stack whose socket is shared, if it reads from some
networks in turn and sends onto another one. -/
def round (entropy : Entropy) (networks : List Network) (drained : Network) :
    List SocketEvent :=
  networks.map .read ++
    [.stack (.work entropy), .stack .expire, .stack (.send drained), .purge]

theorem exists_run_drain (now budget : Nat) (network : Network) (client : TrackerClient)
    (stack : Stack) (sent : List Outgoing) :
    ∃ (networks : List Network) (served : TrackerClient), networks.length ≤ budget ∧
      (Stack.drain now budget network (some client) stack).2.1 = some served ∧
      run ⟨⟨now, stack, sent⟩, client⟩ (networks.map .read) =
        ⟨⟨now, (Stack.drain now budget network (some client) stack).2.2, sent⟩, served⟩ := by
  induction budget generalizing network client stack with
  | zero => exact ⟨[], client, Nat.le_refl 0, rfl, rfl⟩
  | succ budget ih =>
    have reads : step ⟨⟨now, stack, sent⟩, client⟩ (.read network) =
        ⟨⟨now, (stack.receive now network).2.2, sent⟩,
          match (stack.receive now network).1 with
          | .ok (.foreign bytes source) => (client.claim bytes source).2
          | _ => client⟩ := rfl
    unfold Stack.drain
    split
    all_goals
      rename_i outcome
      rw [outcome] at reads
    · exact ⟨[network], client, Nat.le_add_left _ _, rfl, reads⟩
    · exact ⟨[network], client, Nat.le_add_left _ _, rfl, reads⟩
    · rename_i bytes source rest after
      obtain ⟨networks, served, short, last, ran⟩ := ih rest (client.claim bytes source).2 after
      refine ⟨network :: networks, served, Nat.succ_le_succ short, last, ?_⟩
      exact (congrArg (run · (networks.map .read)) reads).trans ran
    · rename_i received rest after nothing foreign
      obtain ⟨networks, served, short, last, ran⟩ := ih rest client after
      refine ⟨network :: networks, served, Nat.succ_le_succ short, last, ?_⟩
      have kept : step ⟨⟨now, stack, sent⟩, client⟩ (.read network) =
          ⟨⟨now, after, sent⟩, client⟩ := by
        rw [reads]
        cases received with
        | foreign bytes source => exact absurd rfl (foreign bytes source)
        | nothing => rfl
        | message message source => rfl
        | ignored => rfl
      exact (congrArg (run · (networks.map .read)) kept).trans ran

/-- An interaction that serves a tracker client is a round of its stack, and makes no
requests. -/
theorem exists_run_interaction (readiness : Address) {handle : ClientHandle} {world : World}
    (serves : world.client? handle = some shared.client) (now : world.now = shared.course.now) :
    let execution :=
      (Action.interaction readiness (some handle)).execute world shared.course.stack
    ∃ networks drained, networks.length ≤ Stack.maxReceived ∧
      execution.stack =
        (shared.run (round world.entropy networks drained)).course.stack ∧
      execution.world.client? handle =
        some (shared.run (round world.entropy networks drained)).client ∧
      ∀ request ∈ (shared.run (round world.entropy networks drained)).client.pending,
        world.now - request.sentAt < TrackerClient.timeout := by
  obtain ⟨⟨time, stack, sent⟩, client⟩ := shared
  dsimp only at serves now ⊢
  subst now
  obtain ⟨networks, served, short, last, ran⟩ :=
    exists_run_drain world.now Stack.maxReceived world.network client stack sent
  refine ⟨networks, (Stack.drain world.now Stack.maxReceived world.network (some client) stack).1,
    short, ?_⟩
  have found : (some handle).bind world.client? = some client := serves
  have known : handle < world.clients.length := (List.getElem?_eq_some_iff.1 serves).1
  change (Action.interact (some handle) world stack).stack = _ ∧
    (Action.interact (some handle) world stack).world.client? handle = _ ∧ _
  unfold Action.interact
  rw [found, Stack.interact_eq, last, round, run_append, ran]
  -- from here on it does not matter what was read
  generalize Stack.drain world.now Stack.maxReceived world.network (some client) stack = drained
  refine ⟨rfl, List.getElem?_set_self known, ?_⟩
  intro request mem
  have kept : world.now - request.sentAt < TrackerClient.timeout :=
    of_decide_eq_true (List.mem_filter.1 mem).2
  exact kept

/-! ## What is read -/

section Waiting

variable {handles : Nat} {datagram : Datagram} {rest : List Datagram}
  (wired : shared.course.stack.FullyWired)
  (waits : network.channel? shared.course.stack.connection.localAddress =
    some ⟨handles, datagram :: rest⟩)

include wired waits

/-- What waits is handled as far as it fits what it is read into. -/
theorem receive_of_waiting :
    shared.received network =
        (shared.course.stack.handle shared.course.now (datagram.cut mtu)).1 ∧
      (shared.course.stack.receive shared.course.now network).2.2 =
        (shared.course.stack.handle shared.course.now (datagram.cut mtu)).2 := by
  have received := wired.receive_eq shared.course.now (Connection.receive_cut waits)
  exact ⟨congrArg Prod.fst received, congrArg (fun outcome => outcome.2.2) received⟩

/-- A datagram that does not begin like a dictionary is handed on, and leaves the stack
as it is. -/
theorem received_of_foreign (port : datagram.source.port ≠ 0)
    (head : datagram.bytes.head? ≠ some 0x64) :
    shared.received network = .ok (.foreign (datagram.bytes.take mtu) datagram.source) ∧
      (shared.step (.read network)).course = shared.course := by
  obtain ⟨received, left⟩ := receive_of_waiting wired waits
  have cut : (datagram.cut mtu).bytes.head? ≠ some 0x64 := by
    rw [Datagram.cut, List.head?_take, if_neg (by decide)]
    exact head
  have handled : shared.course.stack.handle shared.course.now (datagram.cut mtu) =
      (.ok (.foreign (datagram.bytes.take mtu) datagram.source), shared.course.stack) := by
    have origin : (datagram.cut mtu).source.port ≠ 0 := port
    rw [Stack.handle, if_neg origin, if_pos cut]
    rfl
  rw [handled] at received left
  refine ⟨received, ?_⟩
  change { shared.course with
    stack := (shared.course.stack.receive shared.course.now network).2.2 } = shared.course
  rw [left]

/-- A datagram is claimed when the request of its transaction id waits and was sent to
where it comes from. -/
theorem claims_iff (port : datagram.source.port ≠ 0) (head : datagram.bytes.head? ≠ some 0x64)
    {transactionId : Nat} : shared.Claims network transactionId ↔
      8 ≤ datagram.bytes.length ∧
        TrackerClient.transactionIdOf datagram.bytes = transactionId ∧
        ∃ sentAt, ⟨transactionId, datagram.source, sentAt⟩ ∈ shared.client.pending := by
  obtain ⟨received, -⟩ := received_of_foreign wired waits port head
  have enough : 8 ≤ mtu := by decide
  constructor
  · rintro ⟨bytes, source, same, claimed, rfl⟩
    rw [received] at same
    cases same
    rw [TrackerClient.claim_take enough] at claimed
    obtain ⟨long, waiting⟩ := TrackerClient.claim_iff.1 claimed
    rw [TrackerClient.transactionIdOf_take enough]
    exact ⟨long, rfl, waiting⟩
  · rintro ⟨long, rfl, waiting⟩
    refine ⟨_, _, received, ?_, TrackerClient.transactionIdOf_take enough⟩
    rw [TrackerClient.claim_take enough]
    exact TrackerClient.claim_iff.2 ⟨long, waiting⟩

/-- A datagram that begins like a dictionary is never offered to the client. -/
theorem client_of_dictionary (head : datagram.bytes.head? = some 0x64) :
    (shared.step (.read network)).client = shared.client := by
  obtain ⟨received, -⟩ := receive_of_waiting wired waits
  apply client_of_unclaimed
  rintro transactionId ⟨bytes, source, foreign, -⟩
  rw [received, wired.handle_eq_foreign_iff] at foreign
  obtain ⟨same, -, other⟩ := foreign
  have read : bytes = datagram.bytes.take mtu := (congrArg Datagram.bytes same).symm
  rw [read, List.head?_take, if_neg (by decide)] at other
  exact other head

end Waiting

/-! ## The shared socket -/

/-- A claim takes out one request that waits, of the tracker it comes from, and no other. -/
theorem exists_request_of_claims
    (distinct : (shared.client.pending.map TrackerRequest.transactionId).Nodup)
    (claims : shared.Claims network transactionId) :
    ∃ older request newer bytes, shared.client.pending = older ++ request :: newer ∧
      request.transactionId = transactionId ∧
      shared.received network = .ok (.foreign bytes request.tracker) ∧
      (shared.step (.read network)).client = ⟨older ++ newer, shared.client.replies + 1⟩ := by
  rw [client_of_claims claims]
  obtain ⟨bytes, source, received, claimed, rfl⟩ := claims
  obtain ⟨-, sentAt, mem⟩ := TrackerClient.claim_iff.1 claimed
  obtain ⟨older, newer, parts⟩ := List.append_of_mem mem
  refine ⟨older, _, newer, bytes, parts, rfl, received, ?_⟩
  rw [parts] at distinct
  rw [TrackerClient.others, parts, ← Association.filter_ne_of_nodup distinct]

/-- A datagram is claimed when the latest request of its transaction id has not ended and
was sent to where it comes from. -/
theorem claims_run_iff {handles : Nat} {datagram : Datagram} {rest : List Datagram}
    (fresh : first.client.pending = [])
    (wired : (first.run events).course.stack.FullyWired)
    (waits : network.channel? (first.run events).course.stack.connection.localAddress =
      some ⟨handles, datagram :: rest⟩)
    (port : datagram.source.port ≠ 0) (head : datagram.bytes.head? ≠ some 0x64) :
    (first.run events).Claims network transactionId ↔
      8 ≤ datagram.bytes.length ∧
        TrackerClient.transactionIdOf datagram.bytes = transactionId ∧
        ∃ before since sentAt,
          events = before ++ .request transactionId datagram.source :: since ∧
          first.Outstanding before ⟨transactionId, datagram.source, sentAt⟩ since := by
  have waiting : (∃ sentAt,
      ⟨transactionId, datagram.source, sentAt⟩ ∈ (first.run events).client.pending) ↔
      ∃ before since sentAt,
        events = before ++ .request transactionId datagram.source :: since ∧
        first.Outstanding before ⟨transactionId, datagram.source, sentAt⟩ since := by
    constructor
    · rintro ⟨sentAt, mem⟩
      obtain ⟨before, since, parts, outstanding⟩ := (mem_pending_run_iff fresh).1 mem
      exact ⟨before, since, sentAt, parts, outstanding⟩
    · rintro ⟨before, since, sentAt, parts, outstanding⟩
      exact ⟨sentAt, (mem_pending_run_iff fresh).2 ⟨before, since, parts, outstanding⟩⟩
  rw [claims_iff wired waits port head, waiting]

/-- A request whose transaction id was claimed is not claimed again. -/
theorem not_outstanding_of_claims {before since more : List SocketEvent}
    (parts : events = before ++ .request request.transactionId request.tracker :: since)
    (claims : (first.run events).Claims network request.transactionId) :
    ¬ first.Outstanding before request (since ++ .read network :: more) := by
  intro outstanding
  apply outstanding.unended
  have still : ((first.run (before ++
      [.request request.transactionId request.tracker])).run since).Claims network
        request.transactionId := by
    rw [← run_append_cons, ← parts]
    exact claims
  exact ⟨since, .read network, more, rfl, .claimed still⟩

/-- However a whole stack and a tracker client share a socket, what is read there and does
not begin like a dictionary leaves the stack as it is.  It is claimed exactly when it has
eight octets and the latest request of its transaction id has not ended and was sent to
where it comes from; a claim takes out that request and no other, and counts one reply.
So there are no more replies than requests, no request is claimed twice, and after an
interaction none has waited for too long. -/
theorem replies_demultiplexed {stack : Stack} (wired : stack.FullyWired) (now : Nat)
    (events : List SocketEvent) :
    let first : SharedCourse := ⟨⟨now, stack, []⟩, .empty⟩
    let last := first.run events
    (∀ network handles datagram rest,
      network.channel? stack.connection.localAddress = some ⟨handles, datagram :: rest⟩ →
      (datagram.bytes.head? = some 0x64 →
        (last.step (.read network)).client = last.client) ∧
      (datagram.source.port ≠ 0 → datagram.bytes.head? ≠ some 0x64 →
        (last.step (.read network)).course = last.course ∧
        ∀ transactionId, last.Claims network transactionId ↔
          8 ≤ datagram.bytes.length ∧
          TrackerClient.transactionIdOf datagram.bytes = transactionId ∧
          ∃ before since sentAt,
            events = before ++ .request transactionId datagram.source :: since ∧
            first.Outstanding before ⟨transactionId, datagram.source, sentAt⟩ since)) ∧
    (∀ bytes : Bytes, 4 ≤ bytes.length → Bytes.toNat (bytes.take 4) ≤ 3 →
      bytes.head? ≠ some 0x64) ∧
    (∀ network transactionId, last.Claims network transactionId →
      ∃ older request newer bytes, last.client.pending = older ++ request :: newer ∧
        request.transactionId = transactionId ∧
        last.received network = .ok (.foreign bytes request.tracker) ∧
        (last.step (.read network)).client = ⟨older ++ newer, last.client.replies + 1⟩) ∧
    (∀ network, (∀ transactionId, ¬ last.Claims network transactionId) →
      (last.step (.read network)).client = last.client) ∧
    last.client.replies ≤ events.countP SocketEvent.isRequest ∧
    (∀ before request since network more,
      events = before ++ .request request.transactionId request.tracker :: since →
      last.Claims network request.transactionId →
      ¬ first.Outstanding before request (since ++ .read network :: more)) ∧
    ∀ readiness handle (world : World), world.client? handle = some last.client →
      world.now = last.course.now →
      let execution :=
        (Action.interaction readiness (some handle)).execute world last.course.stack
      ∃ networks drained, networks.length ≤ Stack.maxReceived ∧
        execution.stack =
          (last.run (round world.entropy networks drained)).course.stack ∧
        execution.world.client? handle =
          some (last.run (round world.entropy networks drained)).client ∧
        ∀ request ∈ (last.run (round world.entropy networks drained)).client.pending,
          world.now - request.sentAt < TrackerClient.timeout := by
  intro first last
  have persists : stack.Persists last.course.stack := first.persists_run events
  have whole := persists.fullyWired wired
  have fresh : first.client.pending = [] := rfl
  have distinct := nodup_pending_run fresh events
  refine ⟨?read, ?action, ?claimed, fun _ => client_of_unclaimed, ?counted, ?once, ?interaction⟩
  case read =>
    intro network handles datagram rest waits
    rw [← persists.connection] at waits
    refine ⟨client_of_dictionary whole waits, ?_⟩
    intro port head
    refine ⟨(received_of_foreign whole waits port head).2, ?_⟩
    intro transactionId
    exact claims_run_iff fresh whole waits port head
  case action =>
    intro bytes enough action
    exact TrackerClient.head?_ne_of_action enough action
  case claimed =>
    intro network transactionId claims
    exact exists_request_of_claims distinct claims
  case counted =>
    exact Nat.le_trans (Nat.le_add_right _ _) (replies_run_le rfl events)
  case once =>
    intro before request since network more parts claims
    exact not_outstanding_of_claims parts claims
  case interaction =>
    intro readiness handle world serves time
    exact exists_run_interaction readiness serves time

/-- A tracker that was asked gives its reply, after another request to another tracker. -/
theorem replies_demultiplexed_two_trackers :
    let home : Address := ⟨.v4 (.zero 4), 6881⟩
    let tracker : Address := ⟨.v4 (.zero 4), 6969⟩
    let other : Address := ⟨.v4 (.zero 4), 6970⟩
    let stack := Stack.assembled ⟨⟨.zero 20⟩, 6881⟩ ⟨.ipv4, home⟩ 1000 0 ⟨1⟩
    let network : Network :=
      ⟨[(home, ⟨1, [⟨[0, 0, 0, 1, 0, 0, 0, 7], tracker⟩]⟩)], [], false, 0⟩
    let last := run ⟨⟨0, stack, []⟩, .empty⟩ [.request 7 tracker, .request 8 other]
    stack.FullyWired ∧ last.Claims network 7 ∧
      (last.step (.read network)).course = last.course ∧
      (last.step (.read network)).client = ⟨[⟨8, other, 0⟩], 1⟩ := by
  intro home tracker other stack network last
  have wired : stack.FullyWired := Stack.fullyWired_assembled _ _ _ _ _
  have waits : network.channel? stack.connection.localAddress =
      some ⟨1, [⟨[0, 0, 0, 1, 0, 0, 0, 7], tracker⟩]⟩ := rfl
  obtain ⟨read, -⟩ := replies_demultiplexed wired 0 [.request 7 tracker, .request 8 other]
  obtain ⟨-, foreign⟩ := read network _ _ _ waits
  obtain ⟨unchanged, claims⟩ := foreign (by decide) (by decide)
  have unended : ¬ Sometime step (run ⟨⟨0, stack, []⟩, .empty⟩ [.request 7 tracker])
      [.request 8 other] (Ends ⟨7, tracker, 0⟩) := by
    rw [sometime_singleton, ends_request_iff]
    decide
  have claimed : last.Claims network 7 :=
    (claims 7).2 ⟨by decide, rfl, [], [.request 8 other], 0, rfl, rfl, unended⟩
  exact ⟨wired, claimed, unchanged, client_of_claims claimed⟩

end SharedCourse

end Kademlia
