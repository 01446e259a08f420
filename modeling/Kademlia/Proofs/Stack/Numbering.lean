import Kademlia.Proofs.Association
import Kademlia.Proofs.Inflight
import Kademlia.Proofs.Stack.Course
import Mathlib.Data.List.Nodup
import Mathlib.Data.List.Perm.Subperm

/-!
# The numbers of queries

A stack numbers its queries in a row and starts again once it has used all numbers.
Beside it the queries are counted from the first one on, without an end: a query that
waits then has a place in the order in which they were made.  While the oldest one that
waits is among the last 65536 that were made, no two that wait have the same number.
-/

namespace Kademlia

/-- Whether a message is a query. -/
def Message.asks (message : Message) : Bool :=
  match message.body with
  | .request _ => true
  | _ => false

theorem Message.asks_iff {message : Message} :
    message.asks = true ↔ ∃ request, message.body = .request request := by
  obtain ⟨transactionId, body⟩ := message
  cases body <;> simp [asks]

namespace Inflight

variable {inflight rest : Inflight} {query : Query} {transactionId : UInt16} {source : Address}

/-- What an answer leaves of the queries that wait. -/
theorem eraseP_isAnsweredBy (transactionId : UInt16) (source : Address)
    (inflight : Inflight) :
    inflight.eraseP (·.isAnsweredBy transactionId source) =
      match answer transactionId source inflight with
      | none => inflight
      | some (_, others) => others := by
  induction inflight with
  | nil => rfl
  | cons query rest ih =>
    rw [answer, List.eraseP_cons]
    cases query.isAnsweredBy transactionId source with
    | true => rfl
    | false =>
      rw [ih]
      cases answer transactionId source rest with
      | none => rfl
      | some found => rfl

/-- Where no two queries have the same number, only the one with its number is gone. -/
theorem eq_filter_of_answer (distinct : (inflight.map Query.transactionId).Nodup)
    (answered : answer transactionId source inflight = some (query, rest)) :
    query.transactionId = transactionId ∧
      rest = inflight.filter (·.transactionId ≠ transactionId) := by
  obtain ⟨awaits, older, newer, rfl, rfl, -⟩ := answer_eq_some_iff.1 answered
  obtain ⟨rfl, -, -⟩ := awaits
  exact ⟨rfl, (Association.filter_ne_of_nodup distinct).symm⟩

end Inflight

namespace Stack

variable {stack : Stack} {now : Nat} {task : Task}

/-! ## How many queries tasks make -/

/-- How many queries a task makes.  One that is not queued ends the task. -/
def makes (stack : Stack) (task : Task) : Nat :=
  let targets := (stack.inquiry task.job).2
  if (task.job.needs.filter (· ≠ .dispatcher)).all (stack.finds task) then
    if stack.finds task .dispatcher then targets.length else min targets.length 1
  else 0

theorem nextTransaction_sendQueries (stack : Stack) (task : Task) (request : Request)
    (targets : List (Address × Option Id)) :
    (sendQueries task request targets stack).2.nextTransaction =
      stack.nextTransaction + UInt16.ofNat
        (if stack.finds task .factory then
          if stack.finds task .dispatcher then targets.length else min targets.length 1
        else 0) := by
  cases factory : stack.finds task .factory with
  | false =>
    cases targets with
    | nil => simp [sendQueries]
    | cons target targets =>
      obtain ⟨error, refused⟩ := exists_requireFor factory
      simp [sendQueries, sendQuery, refused]
  | true =>
    cases dispatcher : stack.finds task .dispatcher with
    | false =>
      cases targets with
      | nil => simp [sendQueries]
      | cons target targets =>
        have still : { stack with nextTransaction := stack.nextTransaction + 1 }.finds task
            .dispatcher = false := dispatcher
        obtain ⟨error, refused⟩ := exists_requireFor still
        simp [sendQueries, sendQuery, requireFor_of_finds factory, query, refused]
    | true =>
      rw [sendQueries_of_finds factory dispatcher]
      simp

theorem nextTransaction_runPing (stack : Stack) (task : Task) (destination : Address)
    (remote : Option Id) (job : task.job = .ping destination remote) :
    (stack.runPing task destination remote).2.nextTransaction =
      stack.nextTransaction + UInt16.ofNat (stack.makes task) := by
  have needs : (Job.ping destination remote).needs.filter (· ≠ .dispatcher) =
      [.localNode, .factory] := rfl
  rw [makes, job, needs]
  cases own : stack.finds task .localNode with
  | false =>
    obtain ⟨error, refused⟩ := exists_requireFor own
    simp [runPing, refused, own]
  | true =>
    rw [runPing, requireFor_of_finds own]
    dsimp only
    rw [sendQuery_eq, nextTransaction_sendQueries]
    simp [own, inquiry]

theorem nextTransaction_runLookup (stack : Stack) (task : Task) (target : Id)
    (contacts : List Address) (request : Id → Request) :
    (stack.runLookup task target contacts request).2.nextTransaction =
      stack.nextTransaction + UInt16.ofNat
        (if [.localNode, .table, .factory].all (stack.finds task) then
          if stack.finds task .dispatcher then
            (lookupTargets (stack.table.closest target) contacts).length
          else min (lookupTargets (stack.table.closest target) contacts).length 1
        else 0) := by
  unfold runLookup
  cases own : stack.finds task .localNode with
  | false =>
    obtain ⟨error, refused⟩ := exists_requireFor own
    simp [refused, own]
  | true =>
    rw [requireFor_of_finds own]
    cases table : stack.finds task .table with
    | false =>
      obtain ⟨error, refused⟩ := exists_requireFor table
      simp [refused, table]
    | true =>
      rw [requireFor_of_finds table]
      dsimp only [ok_bind]
      rw [nextTransaction_sendQueries]
      simp [own, table]

theorem nextTransaction_runRefresh (stack : Stack) (now : Nat) (entropy : Entropy) (task : Task)
    (force : Bool) :
    (stack.runRefresh now entropy task force).2.2.nextTransaction = stack.nextTransaction := by
  unfold runRefresh
  split
  · rfl
  · dsimp only
    split
    · rfl
    · rfl

/-- A task uses as many numbers as it makes queries. -/
theorem nextTransaction_runTask (stack : Stack) (now : Nat) (entropy : Entropy) (task : Task) :
    (stack.runTask now entropy task).2.2.nextTransaction =
      stack.nextTransaction + UInt16.ofNat (stack.makes task) := by
  unfold runTask
  cases job : task.job with
  | ping destination remote => exact stack.nextTransaction_runPing task destination remote job
  | nodeLookup target contacts =>
    rw [makes, job]
    exact stack.nextTransaction_runLookup task target contacts _
  | peerLookup infoHash =>
    rw [makes, job]
    exact stack.nextTransaction_runLookup task infoHash [] _
  | bucketRefresh force =>
    have asksNothing : stack.makes task = 0 := by simp [makes, job, inquiry]
    dsimp only
    rw [asksNothing, nextTransaction_runRefresh]
    simp

/-- A task that finds what it needs makes a query for each address. -/
theorem makes_of_finds (found : task.job.needs.all (stack.finds task) = true) :
    stack.makes task = (stack.inquiry task.job).2.length := by
  unfold makes
  cases job : task.job with
  | bucketRefresh force => simp [inquiry]
  | ping destination remote =>
    simp only [job, Job.needs, List.all_cons, List.all_nil, Bool.and_eq_true] at found
    simp [Job.needs, found]
  | nodeLookup target contacts =>
    simp only [job, Job.needs, List.all_cons, List.all_nil, Bool.and_eq_true] at found
    simp [Job.needs, found]
  | peerLookup infoHash =>
    simp only [job, Job.needs, List.all_cons, List.all_nil, Bool.and_eq_true] at found
    simp [Job.needs, found]

/-! ## The places of queries that tasks make -/

theorem add_ofNat_succ (first : UInt16) (count : Nat) :
    first + UInt16.ofNat count + 1 = first + UInt16.ofNat (count + 1) := by
  rw [UInt16.ofNat_add, UInt16.add_assoc]
  rfl

/-- The numbers of the first so many queries, with their places. -/
def numbersOf (first : UInt16) (count : Nat) : List (UInt16 × Nat) :=
  (List.range count).map fun place => (first + UInt16.ofNat place, place)

theorem numbersOf_add (first : UInt16) (count more : Nat) :
    numbersOf first (count + more) = numbersOf first count ++
      (List.range' count more).map fun place => (first + UInt16.ofNat place, place) := by
  rw [numbersOf, numbersOf, ← List.map_append, List.range_eq_range', List.range_eq_range',
    ← List.range'_append_1, Nat.zero_add]

/-- The number of a message that has a place. -/
def numberOf (entry : Outgoing × Nat) : UInt16 × Nat :=
  (entry.1.message.transactionId, entry.2)

/-- Queries in a row have the numbers of their places. -/
theorem map_numberOf_numbered (timeout : Nat) (request : Request) (first : UInt16)
    (targets : List (Address × Option Id)) (made : Nat) :
    ((numbered timeout request (first + UInt16.ofNat made) targets).zipIdx made).map numberOf =
      (List.range' made targets.length).map fun place => (first + UInt16.ofNat place, place) := by
  induction targets generalizing made with
  | nil => rfl
  | cons target targets ih =>
    rw [numbered, add_ofNat_succ, List.zipIdx_cons, List.map_cons, ih, List.length_cons,
      List.range'_succ]
    rfl

/-- The queries that a task queues are among those that it makes. -/
theorem numbers_queriesOf {first : UInt16} {made : Nat}
    (next : stack.nextTransaction = first + UInt16.ofNat made) :
    (numbersOf first made ++ ((stack.queriesOf task).zipIdx made).map numberOf).Sublist
      (numbersOf first (made + stack.makes task)) := by
  rw [numbersOf_add]
  apply List.Sublist.append_left
  by_cases found : task.job.needs.all (stack.finds task) = true
  · unfold queriesOf
    dsimp only
    rw [if_pos found, next, map_numberOf_numbered, makes_of_finds found]
  · unfold queriesOf
    dsimp only
    rw [if_neg found]
    exact List.nil_sublist _

/-- The queries that tasks queue with their places, and how many were made in the end. -/
def placedQueries (now : Nat) : List Task → Entropy → Stack → Nat → List (Outgoing × Nat) × Nat
  | [], _, _, made => ([], made)
  | task :: rest, entropy, stack, made =>
      let (_, entropy, after) := stack.runTask now entropy task
      let (later, total) := placedQueries now rest entropy after (made + stack.makes task)
      ((stack.queriesOf task).zipIdx made ++ later, total)

theorem map_fst_placedQueries (now : Nat) (tasks : List Task) (entropy : Entropy) (stack : Stack)
    (made : Nat) :
    (placedQueries now tasks entropy stack made).1.map Prod.fst =
      queriesOfAll now tasks entropy stack := by
  induction tasks generalizing entropy stack made with
  | nil => rfl
  | cons task tasks ih =>
    rw [placedQueries, queriesOfAll, List.map_append, List.zipIdx_map_fst]
    exact congrArg (stack.queriesOf task ++ ·) (ih _ _ _)

/-- Tasks that run in order make queries in order. -/
theorem numbers_placedQueries {first : UInt16} (now : Nat) (tasks : List Task)
    (entropy : Entropy) (stack : Stack) {made : Nat}
    (next : stack.nextTransaction = first + UInt16.ofNat made) :
    (runTasks now tasks entropy stack).2.2.nextTransaction =
        first + UInt16.ofNat (placedQueries now tasks entropy stack made).2 ∧
      (numbersOf first made ++
          (placedQueries now tasks entropy stack made).1.map numberOf).Sublist
        (numbersOf first (placedQueries now tasks entropy stack made).2) := by
  induction tasks generalizing entropy stack made with
  | nil => simp [runTasks, placedQueries, next]
  | cons task tasks ih =>
    have used : (stack.runTask now entropy task).2.2.nextTransaction =
        first + UInt16.ofNat (made + stack.makes task) := by
      rw [nextTransaction_runTask, next, UInt16.ofNat_add, UInt16.add_assoc]
    obtain ⟨last, others⟩ := ih (stack.runTask now entropy task).2.1 _ used
    refine ⟨last, ?_⟩
    rw [placedQueries, List.map_append, ← List.append_assoc]
    exact ((numbers_queriesOf next).append_right _).trans others

end Stack

/-! ## What a message that is accepted does to queries -/

namespace Stack

variable {stack after : Stack} {message : Message}

/-- Answering a query queues none, and leaves those that wait as they are. -/
theorem FullyWired.queries_of_accept_request (wired : stack.FullyWired) {now : Nat}
    {transactionId : UInt16} {asked : Request} {source : Address}
    (accepted : (stack.accept now ⟨transactionId, .request asked⟩ source).2 = after) :
    after.inflight = stack.inflight ∧ after.nextTransaction = stack.nextTransaction ∧
      after.outbox.queue.filter (·.message.asks) = stack.outbox.queue.filter (·.message.asks) := by
  obtain ⟨table, tasks, became⟩ := wired.exists_accept_request now transactionId asked source
  rw [became] at accepted
  subst accepted
  have quiet : ¬ (⟨transactionId, (stack.reply now source asked).1⟩ : Message).asks = true := by
    rw [Message.asks_iff]
    rintro ⟨other, body⟩
    exact stack.reply_ne_request now source asked other body
  refine ⟨rfl, rfl, ?_⟩
  dsimp only [replied, Outbox.add, Outbox.addWithTimeout]
  rw [List.filter_append, List.filter_cons_of_neg (by simpa using quiet), List.filter_nil,
    List.append_nil]

/-- A message that is no query takes out the first query that it answers. -/
theorem FullyWired.queries_of_accept_reply (wired : stack.FullyWired) {now : Nat}
    {source : Address} (reply : ∀ asked, message.body ≠ .request asked)
    (accepted : (stack.accept now message source).2 = after) :
    after.inflight = stack.inflight.eraseP (·.isAnsweredBy message.transactionId source) ∧
      after.nextTransaction = stack.nextTransaction ∧ after.outbox = stack.outbox := by
  rw [wired.accept_reply now source reply] at accepted
  rw [Inflight.eraseP_isAnsweredBy]
  cases answered : Inflight.answer message.transactionId source stack.inflight with
  | none =>
    rw [answered] at accepted
    subst accepted
    exact ⟨rfl, rfl, rfl⟩
  | some found =>
    rw [answered] at accepted
    obtain ⟨table, tasks, noted⟩ :=
      exists_noted { stack with inflight := found.2 } now message source
    dsimp only at accepted
    rw [noted] at accepted
    subst accepted
    exact ⟨rfl, rfl, rfl⟩

/-- A message that is accepted and is no query answers one that waits. -/
theorem FullyWired.answer_of_handle {now : Nat} {datagram : Datagram} {source : Address}
    (wired : stack.FullyWired) (reply : ∀ asked, message.body ≠ .request asked)
    (accepted : (stack.handle now datagram).1 = .ok (.message message source)) :
    ∃ query, Inflight.answer message.transactionId source stack.inflight =
      some (query, (stack.handle now datagram).2.inflight) := by
  have handled := wired.handled now datagram
  generalize stack.handle now datagram = outcome at handled accepted ⊢
  cases handled with
  | portless port => cases accepted
  | foreign port head => cases accepted
  | malformed port head decoded => cases accepted
  | @query transactionId asked holds =>
    cases accepted
    exact absurd rfl (reply asked)
  | unawaited port head decoded reply unanswered => cases accepted
  | @answer message query inflight port head decoded reply answered =>
    cases accepted
    obtain ⟨table, tasks, noted⟩ :=
      exists_noted { stack with inflight } now message datagram.source
    dsimp only
    rw [noted]
    exact ⟨query, answered⟩

theorem FullyWired.answer_of_receive {now : Nat} {network : Network} {source : Address}
    (wired : stack.FullyWired) (reply : ∀ asked, message.body ≠ .request asked)
    (accepted : (stack.receive now network).1 = .ok (.message message source)) :
    ∃ query, Inflight.answer message.transactionId source stack.inflight =
      some (query, (stack.receive now network).2.2.inflight) := by
  unfold receive at accepted ⊢
  split at accepted
  · cases accepted
  · split at accepted
    · cases accepted
    · cases accepted
    · exact wired.answer_of_handle reply accepted

end Stack

/-! ## Queries and their places -/

/-- A query that waits for an answer, as what it was numbered by. -/
def Query.numberOf (entry : Query × Nat) : UInt16 × Nat :=
  (entry.1.transactionId, entry.2)

namespace Stack

/-- The queries that go out, with their places. -/
def placedRequests (now : Nat) (family : Family) (queued : List (Outgoing × Nat)) :
    List (Query × Nat) :=
  (queued.filter (·.1.destination.family = family)).filterMap fun (outgoing, place) =>
    (queryOf now outgoing).map (·, place)

theorem map_fst_placedRequests (now : Nat) (family : Family) (queued : List (Outgoing × Nat)) :
    (placedRequests now family queued).map Prod.fst =
      requests now family (queued.map Prod.fst) := by
  rw [placedRequests, requests, List.filter_map, List.filterMap_map, List.map_filterMap]
  congr 1
  funext entry
  cases asked : queryOf now entry.1 <;> simp [asked]

/-- A query waits under the number that it has as a message. -/
theorem numbers_placedRequests (now : Nat) (family : Family) (queued : List (Outgoing × Nat)) :
    ((placedRequests now family queued).map Query.numberOf).Sublist (queued.map numberOf) := by
  have sent : (queued.filter (·.1.destination.family = family)).Sublist queued :=
    List.filter_sublist
  refine List.Sublist.trans ?_ (sent.map numberOf)
  unfold placedRequests
  generalize queued.filter (·.1.destination.family = family) = entries
  induction entries with
  | nil => exact .slnil
  | cons entry entries ih =>
    obtain ⟨⟨⟨transactionId, body⟩, destination, remote, timeout⟩, place⟩ := entry
    cases body with
    | request asked => exact ih.cons_cons (transactionId, place)
    | response given => exact ih.cons _
    | error code text => exact ih.cons _

/-- What is no query makes no difference to the queries that go out. -/
theorem requests_filter_asks (now : Nat) (family : Family) (messages : List Outgoing) :
    requests now family (messages.filter (·.message.asks)) = requests now family messages := by
  rw [requests, requests, List.filter_filter, List.filterMap_filter, List.filterMap_filter]
  congr 1
  funext outgoing
  by_cases asks : outgoing.message.asks = true
  · simp [asks]
  · have unasked : queryOf now outgoing = none :=
      queryOf_eq_none now fun asked body => asks (Message.asks_iff.2 ⟨asked, body⟩)
    simp [unasked]

end Stack

/-- A stack on its course, with how many queries were made so far, and with the places
of those that were made and not queued yet, of those that are queued, and of those that
wait for an answer. -/
structure NumberedCourse where
  course : StackCourse
  made : Nat
  held : List (Message × Nat)
  queued : List (Outgoing × Nat)
  inflight : List (Query × Nat)

/-- What happens to a stack, or around it: a query is made, or one that was made is
queued. -/
inductive NumberingEvent
  | stack (event : StackEvent)
  | make (request : Request)
  | queue (index : Nat) (destination : Address) (remote : Option Id) (timeout : Nat)

namespace NumberedCourse

/-- Nothing has happened yet. -/
def start (now : Nat) (stack : Stack) : NumberedCourse :=
  ⟨⟨now, stack, []⟩, 0, [], [], []⟩

/-- What comes of an event of the stack. -/
def stepStack (numbered : NumberedCourse) (event : StackEvent) : NumberedCourse :=
  let stack := numbered.course.stack
  let now := numbered.course.now
  let numbered := { numbered with course := numbered.course.step event }
  match event with
  | .receive network =>
      match (stack.receive now network).1 with
      | .ok (.message message source) =>
          if message.asks then numbered
          else
            { numbered with
              inflight :=
                numbered.inflight.eraseP (·.1.isAnsweredBy message.transactionId source) }
      | _ => numbered
  | .work entropy =>
      let (ready, tasks) := stack.tasks.takeReady
      let (new, made) := Stack.placedQueries now ready entropy { stack with tasks } numbered.made
      { numbered with made, queued := numbered.queued ++ new }
  | .expire =>
      { numbered with inflight := numbered.inflight.filter (!·.1.isExpired now) }
  | .send _ =>
      { numbered with
        queued := []
        inflight :=
          numbered.inflight ++ Stack.placedRequests now stack.family numbered.queued }
  | _ => numbered

/-- What comes of an event. -/
def step (numbered : NumberedCourse) : NumberingEvent → NumberedCourse
  | .stack event => numbered.stepStack event
  | .make request =>
      let (message, stack) := numbered.course.stack.query request
      { numbered with
        course := { numbered.course with stack }
        made := numbered.made + 1
        held := numbered.held ++ [(message, numbered.made)] }
  | .queue index destination remote timeout =>
      match numbered.held[index]? with
      | none => numbered
      | some (message, place) =>
          let stack := numbered.course.stack
          let outbox := stack.outbox.addWithTimeout message destination remote timeout
          { numbered with
            course := { numbered.course with stack := { stack with outbox } }
            held := numbered.held.eraseIdx index
            queued := numbered.queued ++ [(⟨message, destination, remote, timeout⟩, place)] }

/-- What comes of some events in order. -/
def run (numbered : NumberedCourse) (events : List NumberingEvent) : NumberedCourse :=
  events.foldl step numbered

/-- The numbers of all queries that were made and not lost, with their places. -/
def numbers (numbered : NumberedCourse) : List (UInt16 × Nat) :=
  numbered.held.map (fun (message, place) => (message.transactionId, place)) ++
    numbered.queued.map Stack.numberOf ++ numbered.inflight.map Query.numberOf

variable {numbered : NumberedCourse} {first : UInt16}

/-! ## The invariant -/

/-- What holds at all times: the queries that are queued and those that wait are all
there, with their places, and every query has the number of its place. -/
structure InTurn (first : UInt16) (numbered : NumberedCourse) : Prop where
  wired : numbered.course.stack.FullyWired
  held : ∀ entry ∈ numbered.held, entry.1.asks = true
  inflight : numbered.inflight.map Prod.fst = numbered.course.stack.inflight
  queued : numbered.queued.map Prod.fst =
    numbered.course.stack.outbox.queue.filter (·.message.asks)
  next : numbered.course.stack.nextTransaction = first + UInt16.ofNat numbered.made
  numbers : numbered.numbers.Subperm (Stack.numbersOf first numbered.made)

theorem inTurn_start {stack : Stack} (wired : stack.FullyWired) (idle : stack.inflight = [])
    (unasked : ∀ outgoing ∈ stack.outbox.queue, outgoing.message.asks = false) (now : Nat) :
    (start now stack).InTurn stack.nextTransaction where
  wired := wired
  held := nofun
  inflight := idle.symm
  queued := by
    symm
    apply List.filter_eq_nil_iff.2
    intro outgoing mem
    simp [unasked outgoing mem]
  next := by simp [start]
  numbers := List.Subperm.refl _

namespace InTurn

variable (inTurn : numbered.InTurn first)

include inTurn

theorem make (request : Request) : (numbered.step (.make request)).InTurn first where
  wired := ⟨inTurn.wired.wired, inTurn.wired.whole⟩
  held := by
    intro entry mem
    rcases List.mem_append.1 mem with old | new
    · exact inTurn.held entry old
    · rw [List.mem_singleton.1 new]
      rfl
  inflight := inTurn.inflight
  queued := inTurn.queued
  next := by
    change numbered.course.stack.nextTransaction + 1 =
      first + UInt16.ofNat (numbered.made + 1)
    rw [inTurn.next, Stack.add_ofNat_succ]
  numbers := by
    have new : (numbered.step (.make request)).numbers.Perm
        (numbered.numbers ++ [(first + UInt16.ofNat numbered.made, numbered.made)]) := by
      rw [← inTurn.next, List.perm_iff_count]
      intro number
      simp only [NumberedCourse.numbers, step, Stack.query, List.map_append, List.map_cons,
        List.map_nil, List.count_append]
      omega
    apply new.subperm.trans
    change List.Subperm _ (Stack.numbersOf first (numbered.made + 1))
    rw [Stack.numbersOf_add]
    exact inTurn.numbers.append (List.Subperm.refl _)

theorem queue (index : Nat) (destination : Address) (remote : Option Id) (timeout : Nat) :
    (numbered.step (.queue index destination remote timeout)).InTurn first := by
  unfold step
  dsimp only
  split
  · exact inTurn
  · rename_i message place held
    obtain ⟨within, own⟩ := List.getElem?_eq_some_iff.1 held
    have asks : message.asks = true := inTurn.held _ (List.mem_of_getElem own)
    have taken : ((message, place) :: numbered.held.eraseIdx index).Perm numbered.held := by
      rw [← own]
      exact List.getElem_cons_eraseIdx_perm within
    refine ⟨⟨inTurn.wired.wired, inTurn.wired.whole⟩, ?held, inTurn.inflight, ?queued,
      inTurn.next, ?numbers⟩
    case held =>
      intro entry mem
      exact inTurn.held entry (List.mem_of_mem_eraseIdx mem)
    case queued =>
      dsimp only [Outbox.addWithTimeout]
      rw [List.map_append, List.filter_append, inTurn.queued,
        List.filter_cons_of_pos (by simpa using asks)]
      rfl
    case numbers =>
      apply List.Subperm.trans (List.Perm.subperm _) inTurn.numbers
      have moved := (taken.map fun (message, place) => (message.transactionId, place)).count_eq
      rw [List.perm_iff_count]
      intro number
      have same := moved number
      simp only [NumberedCourse.numbers, Stack.numberOf, List.map_append, List.map_cons,
        List.map_nil, List.count_append, List.count_cons, List.count_nil] at same ⊢
      omega

/-- Nothing is numbered, queued or answered. -/
theorem of_quiet {after : StackCourse} (wired : after.stack.FullyWired)
    (inflight : after.stack.inflight = numbered.course.stack.inflight)
    (queued : after.stack.outbox.queue.filter (·.message.asks) =
      numbered.course.stack.outbox.queue.filter (·.message.asks))
    (next : after.stack.nextTransaction = numbered.course.stack.nextTransaction) :
    InTurn first { numbered with course := after } :=
  ⟨wired, inTurn.held, inTurn.inflight.trans inflight.symm, inTurn.queued.trans queued.symm,
    next.trans inTurn.next, inTurn.numbers⟩

theorem receive (network : Network) :
    (numbered.step (.stack (.receive network))).InTurn first := by
  have wired := (numbered.course.persists_step (.receive network)).fullyWired inTurn.wired
  rcases inTurn.wired.receive_cases numbered.course.now network with
    ⟨dropped, same⟩ | ⟨message, source, -, outcome, became⟩
  · have quiet :
        InTurn first { numbered with course := numbered.course.step (.receive network) } := by
      apply inTurn.of_quiet wired
      · exact congrArg Stack.inflight same
      · exact congrArg (fun stack => stack.outbox.queue.filter (·.message.asks)) same
      · exact congrArg Stack.nextTransaction same
    unfold step stepStack
    dsimp only
    split
    · rename_i outcome
      exact absurd outcome (dropped _ _)
    · exact quiet
  · unfold step stepStack
    dsimp only
    rw [outcome]
    dsimp only
    split
    · rename_i asks
      obtain ⟨transactionId, body⟩ := message
      obtain ⟨asked, rfl⟩ := Message.asks_iff.1 asks
      obtain ⟨inflight, next, queued⟩ := inTurn.wired.queries_of_accept_request became.symm
      exact inTurn.of_quiet wired inflight queued next
    · rename_i replies
      have reply : ∀ asked, message.body ≠ .request asked :=
        fun asked body => replies (Message.asks_iff.2 ⟨asked, body⟩)
      obtain ⟨inflight, next, outbox⟩ := inTurn.wired.queries_of_accept_reply reply became.symm
      refine ⟨wired, inTurn.held, ?waiting, ?outgoing, next.trans inTurn.next, ?all⟩
      case waiting =>
        refine Eq.trans ?_ inflight.symm
        rw [← inTurn.inflight, List.eraseP_map]
        rfl
      case outgoing =>
        refine Eq.trans inTurn.queued ?_
        exact congrArg (fun outbox => outbox.queue.filter (·.message.asks)) outbox.symm
      case all =>
        apply List.Subperm.trans (List.Sublist.subperm _) inTurn.numbers
        exact (List.eraseP_sublist.map _).append_left _

theorem work (entropy : Entropy) : (numbered.step (.stack (.work entropy))).InTurn first := by
  have wired := (numbered.course.persists_step (.work entropy)).fullyWired inTurn.wired
  let ready := numbered.course.stack.tasks.takeReady
  let taken : Stack := { numbered.course.stack with tasks := ready.2 }
  let placed := Stack.placedQueries numbered.course.now ready.1 entropy taken numbered.made
  obtain ⟨next, numbers⟩ :=
    Stack.numbers_placedQueries numbered.course.now ready.1 entropy taken inTurn.next
  refine ⟨wired, inTurn.held, ?waiting, ?outgoing, next, ?all⟩
  case waiting =>
    exact inTurn.inflight.trans
      (numbered.course.stack.tended_runReady numbered.course.now entropy).inflight.symm
  case outgoing =>
    have asked : placed.1.map Prod.fst =
        Stack.queriesOfAll numbered.course.now ready.1 entropy taken :=
      Stack.map_fst_placedQueries _ _ _ _ _
    have all : (Stack.queriesOfAll numbered.course.now ready.1 entropy taken).filter
        (·.message.asks) = Stack.queriesOfAll numbered.course.now ready.1 entropy taken := by
      apply List.filter_eq_self.2
      intro outgoing mem
      exact Message.asks_iff.2 (Stack.exists_request_of_mem_queriesOfAll mem)
    change (numbered.queued ++ placed.1).map Prod.fst =
      (numbered.course.stack.runReady numbered.course.now entropy).2.2.outbox.queue.filter
        (·.message.asks)
    rw [Stack.outbox_runReady, List.map_append, asked, List.filter_append, ← inTurn.queued]
    exact congrArg (_ ++ ·) all.symm
  case all =>
    have new : (numbered.step (.stack (.work entropy))).numbers.Perm
        (numbered.numbers ++ placed.1.map Stack.numberOf) := by
      change (numbered.held.map _ ++ (numbered.queued ++ placed.1).map Stack.numberOf ++
        numbered.inflight.map Query.numberOf).Perm _
      rw [List.map_append, NumberedCourse.numbers, ← List.append_assoc, List.append_assoc,
        List.append_assoc _ _ (placed.1.map _)]
      exact List.perm_append_comm.append_left _
    exact (new.subperm.trans (inTurn.numbers.append (List.Subperm.refl _))).trans numbers.subperm

theorem expire : (numbered.step (.stack .expire)).InTurn first where
  wired := (numbered.course.persists_step .expire).fullyWired inTurn.wired
  held := inTurn.held
  inflight := by
    change (numbered.inflight.filter (!·.1.isExpired numbered.course.now)).map Prod.fst =
      (numbered.course.stack.expire numbered.course.now).2.inflight
    rw [Stack.expire_eq, Inflight.expire_eq_filter]
    dsimp only
    rw [← inTurn.inflight, List.filter_map]
    rfl
  queued := by
    change _ = (numbered.course.stack.expire numbered.course.now).2.outbox.queue.filter _
    rw [Stack.expire_eq]
    exact inTurn.queued
  next := by
    change (numbered.course.stack.expire numbered.course.now).2.nextTransaction = _
    rw [Stack.expire_eq]
    exact inTurn.next
  numbers := by
    apply List.Subperm.trans (List.Sublist.subperm _) inTurn.numbers
    exact (List.filter_sublist.map _).append_left _

theorem send (network : Network) : (numbered.step (.stack (.send network))).InTurn first := by
  have wired := (numbered.course.persists_step (.send network)).fullyWired inTurn.wired
  have linked : numbered.course.stack.resolves .dispatcher .tracker = true :=
    inTurn.wired.resolves (by decide)
  have sends := Stack.sendAll_stack linked numbered.course.now network
  refine ⟨wired, inTurn.held, ?waiting, ?outgoing, ?next, ?all⟩
  case waiting =>
    change (numbered.inflight ++ Stack.placedRequests numbered.course.now
      numbered.course.stack.family numbered.queued).map Prod.fst =
        (numbered.course.stack.sendAll numbered.course.now network).2.2.inflight
    rw [sends, List.map_append, Stack.map_fst_placedRequests, inTurn.inflight, inTurn.queued,
      Stack.requests_filter_asks]
  case outgoing =>
    change _ = (numbered.course.stack.sendAll numbered.course.now network).2.2.outbox.queue.filter _
    rw [sends]
    rfl
  case next =>
    change (numbered.course.stack.sendAll numbered.course.now network).2.2.nextTransaction = _
    rw [sends]
    exact inTurn.next
  case all =>
    apply List.Subperm.trans _ inTurn.numbers
    change List.Subperm (numbered.held.map _ ++ [] ++ (numbered.inflight ++
      Stack.placedRequests numbered.course.now numbered.course.stack.family
        numbered.queued).map Query.numberOf) _
    have sent := Stack.numbers_placedRequests numbered.course.now numbered.course.stack.family
      numbered.queued
    rw [List.append_nil, List.map_append]
    apply (List.perm_append_comm.append_left _).subperm.trans
    rw [← List.append_assoc]
    exact ((sent.append_left _).append_right _).subperm

theorem stepStack (event : StackEvent) : (numbered.step (.stack event)).InTurn first := by
  have wired := (numbered.course.persists_step event).fullyWired inTurn.wired
  cases event with
  | receive network => exact inTurn.receive network
  | schedule kind job => exact inTurn.of_quiet wired rfl rfl rfl
  | work entropy => exact inTurn.work entropy
  | expire => exact inTurn.expire
  | send network => exact inTurn.send network
  | want infoHash =>
    obtain ⟨tasks, wanted⟩ := numbered.course.stack.want_frame infoHash
    apply inTurn.of_quiet wired
    · rw [StackCourse.step, wanted]
    · rw [StackCourse.step, wanted]
    · rw [StackCourse.step, wanted]
  | purge => exact inTurn.of_quiet wired rfl rfl rfl
  | rotate entropy => exact inTurn.of_quiet wired rfl rfl rfl
  | advance milliseconds => exact inTurn.of_quiet wired rfl rfl rfl

theorem step (event : NumberingEvent) : (numbered.step event).InTurn first := by
  cases event with
  | stack event => exact inTurn.stepStack event
  | make request => exact inTurn.make request
  | queue index destination remote timeout =>
    exact inTurn.queue index destination remote timeout

end InTurn

theorem InTurn.run (inTurn : numbered.InTurn first) (events : List NumberingEvent) :
    (numbered.run events).InTurn first := by
  induction events generalizing numbered with
  | nil => exact inTurn
  | cons event events ih => exact ih (inTurn.step event)

/-! ## Distinct numbers -/

/-- Of 65536 places in a row no two have the same number. -/
theorem place_inj {one another : Nat}
    (same : first + UInt16.ofNat one = first + UInt16.ofNat another)
    (near : one < another + 65536) (near' : another < one + 65536) : one = another := by
  have equal := congrArg UInt16.toNat same
  simp only [UInt16.toNat_add, UInt16.toNat_ofNat'] at equal
  omega

namespace InTurn

variable (inTurn : numbered.InTurn first)

include inTurn

theorem place_of_mem {number : UInt16 × Nat} (mem : number ∈ numbered.numbers) :
    number.1 = first + UInt16.ofNat number.2 ∧ number.2 < numbered.made := by
  obtain ⟨place, within, rfl⟩ := List.mem_map.1 (inTurn.numbers.subset mem)
  exact ⟨rfl, List.mem_range.1 within⟩

theorem nodup_places : (numbered.inflight.map Prod.snd).Nodup := by
  have all : ((Stack.numbersOf first numbered.made).map Prod.snd).Nodup := by
    rw [Stack.numbersOf, List.map_map]
    exact (List.map_id _).symm ▸ List.nodup_range
  obtain ⟨made, permuted, within⟩ := inTurn.numbers
  have distinct : (numbered.numbers.map Prod.snd).Nodup :=
    (permuted.map Prod.snd).nodup_iff.1 ((within.map Prod.snd).nodup all)
  rw [NumberedCourse.numbers, List.map_append, List.map_map] at distinct
  exact (List.nodup_append.1 distinct).2.1

theorem number_of_mem {entry : Query × Nat} (mem : entry ∈ numbered.inflight) :
    entry.1.transactionId = first + UInt16.ofNat entry.2 ∧ entry.2 < numbered.made :=
  inTurn.place_of_mem (List.mem_append_right _ (List.mem_map_of_mem mem))

/-- While the oldest query that waits is not too old, those that wait have different
numbers. -/
theorem eq_of_number_eq
    (window : ∀ entry ∈ numbered.inflight, numbered.made ≤ entry.2 + 65536)
    {one another : Query × Nat} (mem : one ∈ numbered.inflight)
    (mem' : another ∈ numbered.inflight)
    (same : one.1.transactionId = another.1.transactionId) : one = another := by
  obtain ⟨number, made⟩ := inTurn.number_of_mem mem
  obtain ⟨number', made'⟩ := inTurn.number_of_mem mem'
  have near := window one mem
  have near' := window another mem'
  have place : one.2 = another.2 := by
    rw [number, number'] at same
    exact place_inj same (by omega) (by omega)
  exact List.inj_on_of_nodup_map inTurn.nodup_places mem mem' place

theorem nodup_numbers
    (window : ∀ entry ∈ numbered.inflight, numbered.made ≤ entry.2 + 65536) :
    (numbered.course.stack.inflight.map Query.transactionId).Nodup := by
  rw [← inTurn.inflight, List.map_map]
  apply List.Nodup.map_on _ inTurn.nodup_places.of_map
  intro one mem another mem' same
  exact inTurn.eq_of_number_eq window mem mem' same

end InTurn

/-- However a stack goes on that has no queries at first, each query that waits has the
number of its place among all that were made.  While no more than 65536 were made since
the oldest one that waits, that one included, no two that wait have the same number.  A
message that answers one then takes out the only one with its number, and no other. -/
theorem numbers_identify {stack : Stack} (wired : stack.FullyWired)
    (idle : stack.inflight = [])
    (unasked : ∀ outgoing ∈ stack.outbox.queue, outgoing.message.asks = false) (now : Nat)
    (events : List NumberingEvent)
    (window : ∀ entry ∈ ((start now stack).run events).inflight,
      ((start now stack).run events).made ≤ entry.2 + 65536) :
    let last := (start now stack).run events
    let inflight := last.course.stack.inflight
    last.inflight.map Prod.fst = inflight ∧
    (∀ entry ∈ last.inflight,
      entry.1.transactionId = stack.nextTransaction + UInt16.ofNat entry.2) ∧
    last.course.stack.nextTransaction = stack.nextTransaction + UInt16.ofNat last.made ∧
    (inflight.map Query.transactionId).Nodup ∧
    (∀ transactionId source query rest,
      Inflight.answer transactionId source inflight = some (query, rest) →
      query.transactionId = transactionId ∧
      (∃ place, (query, place) ∈ last.inflight ∧
        ∀ entry ∈ last.inflight, entry.1.transactionId = transactionId →
          entry = (query, place)) ∧
      rest = inflight.filter (·.transactionId ≠ transactionId)) ∧
    ∀ network message source, last.course.Accepts (.receive network) message source →
      message.asks = false →
      (∃ query ∈ inflight, query.transactionId = message.transactionId) ∧
      (last.course.step (.receive network)).stack.inflight =
        inflight.filter (·.transactionId ≠ message.transactionId) := by
  intro last inflight
  have inTurn := (inTurn_start wired idle unasked now).run events
  have distinct := inTurn.nodup_numbers window
  refine ⟨inTurn.inflight, fun entry mem => (inTurn.number_of_mem mem).1, inTurn.next, distinct,
    ?answered, ?received⟩
  case answered =>
    intro transactionId source query rest answered
    obtain ⟨number, left⟩ := Inflight.eq_filter_of_answer distinct answered
    obtain ⟨-, older, newer, parts, -, -⟩ := Inflight.answer_eq_some_iff.1 answered
    have mem : query ∈ last.inflight.map Prod.fst := by
      rw [inTurn.inflight]
      change query ∈ inflight
      rw [parts]
      simp
    obtain ⟨⟨_, place⟩, waits, rfl⟩ := List.mem_map.1 mem
    refine ⟨number, ⟨place, waits, ?_⟩, left⟩
    intro entry mem same
    exact inTurn.eq_of_number_eq window mem waits (same.trans number.symm)
  case received =>
    rintro network message source ⟨_, same, accepted⟩ replies
    cases same
    have reply : ∀ asked, message.body ≠ .request asked := by
      intro asked body
      rw [Message.asks_iff.2 ⟨asked, body⟩] at replies
      cases replies
    obtain ⟨query, answered⟩ := inTurn.wired.answer_of_receive reply accepted
    obtain ⟨number, left⟩ := Inflight.eq_filter_of_answer distinct answered
    obtain ⟨-, older, newer, parts, -, -⟩ := Inflight.answer_eq_some_iff.1 answered
    refine ⟨⟨query, ?_, number⟩, left⟩
    change query ∈ last.course.stack.inflight
    rw [parts]
    simp

/-- The numbers start again between two pings, and the answer to the first one takes out
only that. -/
theorem numbers_identify_two_pings :
    let peer : Address := ⟨.v4 (.zero 4), 7000⟩
    let fresh := Stack.assembled ⟨⟨.zero 20⟩, 6881⟩ ⟨.ipv4, ⟨.v4 (.zero 4), 6881⟩⟩ 1000 0 ⟨1⟩
    let stack := { fresh with nextTransaction := 65535 }
    let ping := NumberingEvent.make (.ping ⟨.zero 20⟩)
    let events := [ping, ping, .queue 0 peer none 1000, .queue 0 peer none 1000,
      .stack (.send ⟨[], [], false, 0⟩)]
    let last := (start 0 stack).run events
    stack.FullyWired ∧ stack.inflight = [] ∧
      (∀ outgoing ∈ stack.outbox.queue, outgoing.message.asks = false) ∧
      (∀ entry ∈ last.inflight, last.made ≤ entry.2 + 65536) ∧
      last.course.stack.inflight.map Query.transactionId = [65535, 0] ∧
      ∀ query rest, Inflight.answer 65535 peer last.course.stack.inflight = some (query, rest) →
        rest.map Query.transactionId = [0] := by
  intro peer fresh stack ping events last
  have assembled : fresh.FullyWired := Stack.fullyWired_assembled _ _ _ _ _
  have wired : stack.FullyWired := ⟨assembled.wired, assembled.whole⟩
  have window : ∀ entry ∈ last.inflight, last.made ≤ entry.2 + 65536 := by decide +kernel
  have numbers : last.course.stack.inflight.map Query.transactionId = [65535, 0] := by
    decide +kernel
  obtain ⟨-, -, -, -, answered, -⟩ := numbers_identify wired rfl nofun 0 events window
  refine ⟨wired, rfl, nofun, window, numbers, ?_⟩
  intro query rest found
  obtain ⟨-, -, rfl⟩ := answered _ _ _ _ found
  have left := congrArg (List.filter (· ≠ 65535)) numbers
  rw [List.filter_map] at left
  exact left

end NumberedCourse

end Kademlia
