import Kademlia.Proofs.Host.Links
import Kademlia.Proofs.Stack.Confinement
import Kademlia.Proofs.Stack.Refresh

/-!
# Tasks in their turn

Tasks are added to three queues, from outside, when nodes are heard of and by other tasks, and
each execution of the interaction of a stack takes the first of each queue.  What it takes it
runs, whether or not that fails, and what is queued meanwhile waits behind all the others.  So
no task is lost and none runs twice, and how long one waits depends on its place only.
-/

namespace Kademlia

/-! ## Queues -/

namespace TaskQueue

variable {queue : TaskQueue} {kind : QueueKind} {task : Task}

/-- The first task of each queue, with the queue that it is from, in the order in which they
run. -/
def ready (queue : TaskQueue) : List (QueueKind × Task) :=
  [.periodic1, .periodic2, .immediate].flatMap fun kind =>
    ((queue.get kind).take 1).map (kind, ·)

/-- The tasks among some that are from a queue. -/
def fromQueue (kind : QueueKind) (ran : List (QueueKind × Task)) : List Task :=
  (ran.filter (·.1 = kind)).map Prod.snd

theorem mem_of_mem_fromQueue {ran : List (QueueKind × Task)} (mem : task ∈ fromQueue kind ran) :
    (kind, task) ∈ ran := by
  obtain ⟨⟨own, other⟩, listed, rfl⟩ := List.mem_map.1 mem
  obtain ⟨inside, same⟩ := List.mem_filter.1 listed
  rw [decide_eq_true_eq] at same
  exact same ▸ inside

theorem map_snd_ready (queue : TaskQueue) : queue.ready.map Prod.snd = queue.takeReady.1 := by
  simp [ready, takeReady, get, Function.comp_def]

theorem map_job_ready (queue : TaskQueue) :
    queue.ready.map (·.2.job) = queue.takeReady.1.map Task.job := by
  rw [← map_snd_ready, List.map_map]
  rfl

theorem fromQueue_map (kind other : QueueKind) (tasks : List Task) :
    fromQueue kind (tasks.map (other, ·)) = if other = kind then tasks else [] := by
  rw [fromQueue, List.filter_map, List.map_map]
  by_cases own : other = kind
  · simp [own, Function.comp_def]
  · simp [own, Function.comp_def]

theorem fromQueue_ready (queue : TaskQueue) (kind : QueueKind) :
    fromQueue kind queue.ready = (queue.get kind).take 1 := by
  have parts (other : QueueKind) := fromQueue_map kind other ((queue.get other).take 1)
  unfold fromQueue at parts ⊢
  rw [ready, List.flatMap_cons, List.flatMap_cons, List.flatMap_cons, List.flatMap_nil,
    List.append_nil, List.filter_append, List.filter_append, List.map_append, List.map_append,
    parts, parts, parts]
  cases kind <;> simp

/-- At most one task of each queue is ready. -/
theorem sublist_map_fst_ready (queue : TaskQueue) :
    (queue.ready.map Prod.fst).Sublist [.periodic1, .periodic2, .immediate] := by
  have one (kind : QueueKind) :
      (((queue.get kind).take 1).map fun task => (kind, task).1).Sublist [kind] := by
    cases queue.get kind with
    | nil => exact List.nil_sublist _
    | cons task tasks => exact .refl _
  simpa [ready, Function.comp_def] using
    (one .periodic1).append ((one .periodic2).append (one .immediate))

theorem get_takeReady (queue : TaskQueue) (kind : QueueKind) :
    queue.takeReady.2.get kind = (queue.get kind).drop 1 := by
  cases kind <;> rfl

theorem get_add (queue : TaskQueue) (kind other : QueueKind) (tasks : List Task) :
    (queue.add kind tasks).get other = queue.get other ++ if other = kind then tasks else [] := by
  cases kind <;> cases other <;> simp [add, get]

theorem add_nil (queue : TaskQueue) (kind : QueueKind) : queue.add kind [] = queue := by
  cases kind <;> simp [add]

theorem add_add (queue : TaskQueue) (kind : QueueKind) (first second : List Task) :
    (queue.add kind first).add kind second = queue.add kind (first ++ second) := by
  cases kind <;> simp [add]

end TaskQueue

namespace Stack

variable {stack before between after : Stack} {task : Task} {now : Nat} {entropy : Entropy}

/-! ## Tasks that come in -/

/-- Tasks came into the immediate queue, and into no other one. -/
def Gains (before after : Stack) : Prop :=
  ∃ arrived, after.tasks = before.tasks.add .immediate arrived

namespace Gains

theorem of_eq (same : after.tasks = before.tasks) : Gains before after :=
  ⟨[], same.trans (TaskQueue.add_nil _ _).symm⟩

theorem trans (first : Gains before between) (second : Gains between after) :
    Gains before after := by
  obtain ⟨earlier, came⟩ := first
  obtain ⟨later, followed⟩ := second
  exact ⟨earlier ++ later, by rw [followed, came, TaskQueue.add_add]⟩

end Gains

theorem gains_addNode (stack : Stack) (now : Nat) (node : Node) :
    Gains stack (stack.addNode now node).2 := by
  unfold addNode
  generalize stack.table.insert now node = inserted
  obtain ⟨_ | _ | oldest, table⟩ := inserted
  · exact .of_eq rfl
  · exact .of_eq rfl
  · dsimp only
    split
    · exact ⟨_, rfl⟩
    · exact .of_eq rfl

theorem attentive_gains : Attentive Gains where
  refl _ := .of_eq rfl
  trans := .trans
  replies _ _ _ := .of_eq rfl
  answers _ _ := .of_eq rfl
  notes := gains_addNode

/-! ## Tasks that other tasks queue -/

/-- The tasks that a task queues when it runs: a refresh that finds what it needs looks for
some ids. -/
def followUps (stack : Stack) (now : Nat) (entropy : Entropy) (task : Task) : List Task :=
  match task.job with
  | .bucketRefresh force =>
      if [.localNode, .table, .taskQueue].all (stack.finds task) then
        let drawn := (drawTargets stack.localNode.id (stack.dueAt now force) entropy).1
        (stack.sought drawn).map fun target => { task with job := .nodeLookup target [] }
      else []
  | _ => []

/-- The tasks that some tasks queue, each in the state that the earlier ones left. -/
def followUpsOfAll (now : Nat) : List Task → Entropy → Stack → List Task
  | [], _, _ => []
  | task :: rest, entropy, stack =>
      let (_, left, after) := stack.runTask now entropy task
      stack.followUps now entropy task ++ followUpsOfAll now rest left after

theorem followUps_of_lost {part : Part} (needed : part ∈ [.localNode, .table, .taskQueue])
    (lost : stack.finds task part = false) (now : Nat) (entropy : Entropy) :
    stack.followUps now entropy task = [] := by
  have missing : ¬ [.localNode, .table, .taskQueue].all (stack.finds task) = true := by
    intro all
    have found := List.all_eq_true.1 all part needed
    rw [lost] at found
    cases found
  unfold followUps
  split
  · exact if_neg missing
  · rfl

theorem tasks_runRefresh (stack : Stack) (now : Nat) (entropy : Entropy) {force : Bool}
    (job : task.job = .bucketRefresh force) :
    (stack.runRefresh now entropy task force).2.2.tasks =
      stack.tasks.add .periodic2 (stack.followUps now entropy task) := by
  cases own : stack.finds task .localNode with
  | false =>
    obtain ⟨error, refused⟩ := exists_requireFor own
    rw [followUps_of_lost (by decide) own, TaskQueue.add_nil, runRefresh, refused]
    rfl
  | true =>
    cases table : stack.finds task .table with
    | false =>
      obtain ⟨error, refused⟩ := exists_requireFor table
      rw [followUps_of_lost (by decide) table, TaskQueue.add_nil, runRefresh,
        requireFor_of_finds own, refused]
      rfl
    | true =>
      cases queue : stack.finds task .taskQueue with
      | false =>
        have lost (table : RoutingTable) : { stack with table }.finds task .taskQueue = false :=
          queue
        rw [followUps_of_lost (by decide) queue, TaskQueue.add_nil, runRefresh,
          requireFor_of_finds own, requireFor_of_finds table]
        dsimp only [ok_bind]
        obtain ⟨error, refused⟩ := exists_requireFor (lost _)
        rw [refused]
      | true =>
        have done := runRefresh_of_finds own table queue now entropy force
        dsimp only at done
        have all : [.localNode, .table, .taskQueue].all (stack.finds task) = true := by
          simp [own, table, queue]
        rw [done, followUps, job]
        dsimp only
        rw [if_pos all]
        rfl

/-- A task queues its follow-ups behind all that wait, and takes nothing away. -/
theorem tasks_runTask (stack : Stack) (now : Nat) (entropy : Entropy) (task : Task) :
    (stack.runTask now entropy task).2.2.tasks =
      stack.tasks.add .periodic2 (stack.followUps now entropy task) := by
  cases job : task.job with
  | ping destination remote =>
    rw [runTask, followUps, job, TaskQueue.add_nil]
    exact stack.tasks_runPing task destination remote
  | nodeLookup target contacts =>
    rw [runTask, followUps, job, TaskQueue.add_nil]
    exact stack.tasks_runLookup task target contacts _
  | peerLookup infoHash =>
    rw [runTask, followUps, job, TaskQueue.add_nil]
    exact stack.tasks_runLookup task infoHash [] _
  | bucketRefresh force =>
    rw [← stack.tasks_runRefresh now entropy job, runTask, job]

/-- So do tasks that run one after another. -/
theorem tasks_runTasks (now : Nat) (tasks : List Task) (entropy : Entropy) (stack : Stack) :
    (runTasks now tasks entropy stack).2.2.tasks =
      stack.tasks.add .periodic2 (followUpsOfAll now tasks entropy stack) := by
  induction tasks generalizing entropy stack with
  | nil => exact (TaskQueue.add_nil _ _).symm
  | cons task tasks ih =>
    have others := ih (stack.runTask now entropy task).2.1 (stack.runTask now entropy task).2.2
    rw [tasks_runTask, TaskQueue.add_add] at others
    exact others

/-- Each task has an outcome of its own, whatever the others come to. -/
theorem map_fst_runTasks (now : Nat) (tasks : List Task) (entropy : Entropy) (stack : Stack) :
    (runTasks now tasks entropy stack).1.map Prod.fst = tasks.map Task.job := by
  induction tasks generalizing entropy stack with
  | nil => rfl
  | cons task tasks ih => exact congrArg (task.job :: ·) (ih _ _)

/-! ## Executions -/

/-- A stack once its interaction has received what waits for it. -/
def received (stack : Stack) (client : Option ClientHandle) (world : World) : Stack :=
  (drain world.now maxReceived world.network (client.bind world.client?) stack).2.2

theorem persists_received (stack : Stack) (client : Option ClientHandle) (world : World) :
    Persists stack (stack.received client world) :=
  persists_drain world.now maxReceived world.network _ stack

/-- Random bytes and a stack once its tasks have run as well, if there is a task queue. -/
def afterTasks (stack : Stack) (client : Option ClientHandle) (world : World) : Entropy × Stack :=
  if stack.has .taskQueue then
    ((stack.received client world).runReady world.now world.entropy).2
  else (world.entropy, stack.received client world)

theorem persists_afterTasks (stack : Stack) (client : Option ClientHandle) (world : World) :
    Persists stack (stack.afterTasks client world).2 := by
  have received := stack.persists_received client world
  unfold afterTasks
  split
  · exact received.trans (persists_runReady _ world.now world.entropy)
  · exact received

/-- What came of a stack by giving up on queries and by sending. -/
def Cleared (before after : Stack) : Prop :=
  ∃ table inflight outbox, after = { before with table, inflight, outbox }

theorem cleared_expire (stack : Stack) (now : Nat) : Cleared stack (stack.expire now).2 := by
  rw [expire_eq]
  exact ⟨_, _, _, rfl⟩

theorem cleared_sendAll (stack : Stack) (now : Nat) (network : Network) :
    Cleared stack (stack.sendAll now network).2.2 := by
  rw [sendAll, sendEach_stack]
  exact ⟨_, _, _, rfl⟩

theorem Cleared.refl (stack : Stack) : Cleared stack stack :=
  ⟨_, _, _, rfl⟩

theorem Cleared.trans (first : Cleared before between) (second : Cleared between after) :
    Cleared before after := by
  obtain ⟨_, _, _, rfl⟩ := first
  obtain ⟨table, inflight, outbox, rfl⟩ := second
  exact ⟨table, inflight, outbox, rfl⟩

theorem finds_singleton (action : Action) (stack : Stack) (part : Part) :
    action.finds (some stack) [part] = stack.has part := by
  rw [Action.finds, List.all_cons, List.all_nil, Bool.and_true, Action.link, Link.get_wiredTo,
    Option.bind_some, owned]
  cases stack.has part <;> rfl

/-- When its tasks have run, a stack gives up on queries and sends, and does nothing else. -/
theorem cleared_interactByLinks (stack : Stack) (readiness : Address)
    (client : Option ClientHandle) (world : World) :
    let execution := (Action.interaction readiness client).interactByLinks world stack
    execution.world.entropy = (stack.afterTasks client world).1 ∧
      Cleared (stack.afterTasks client world).2 execution.stack := by
  have persists := stack.persists_received client world
  unfold Action.interactByLinks afterTasks
  unfold received at persists ⊢
  dsimp only [Action.client?]
  generalize drain world.now maxReceived world.network (client.bind world.client?) stack =
    drained at persists ⊢
  obtain ⟨network, served, drained⟩ := drained
  have same : drained.has .taskQueue = stack.has .taskQueue := by
    rw [has, has, persists.gone]
  dsimp only
  rw [finds_singleton, same]
  generalize (if stack.has .taskQueue then (drained.runReady world.now world.entropy).2
    else (world.entropy, drained)) = worked
  obtain ⟨entropy, worked⟩ := worked
  dsimp only
  have expired : Cleared worked
      (if worked.has .tracker then (worked.expire world.now).2 else worked) := by
    split
    · exact cleared_expire worked world.now
    · exact .refl worked
  rw [finds_singleton]
  generalize (if worked.has .tracker then (worked.expire world.now).2 else worked) = after at *
  have sent : Cleared after
      (if (Action.interaction readiness client).finds (some after) [.dispatcher, .connection] then
        (after.sendAll world.now network).2 else (network, after)).2 := by
    split
    · exact cleared_sendAll after world.now network
    · exact .refl after
  cases client with
  | none => exact ⟨rfl, expired.trans sent⟩
  | some handle =>
    cases served with
    | none => exact ⟨rfl, expired.trans sent⟩
    | some served => exact ⟨rfl, expired.trans sent⟩

theorem executeByLinks_of_receiver (receiver : stack.has .receiver = true) (readiness : Address)
    (client : Option ClientHandle) (world : World) :
    let action := Action.interaction readiness client
    action.executeByLinks world (some stack) =
      .ofExecution (action.interactByLinks world stack) := by
  intro action
  have found : action.finds (some stack) action.needs = true :=
    (finds_singleton action stack .receiver).trans receiver
  change action.visit world (some stack) action.interactByLinks = _
  unfold Action.visit
  rw [found]

end Stack

/-! ## What an execution does to the queues -/

/-- What an execution does to the queues: which tasks come in while the stack receives, which
ones run, each with the queue that it is from, and which are queued by those that run. -/
structure Turn where
  arrived : List Task
  ran : List (QueueKind × Task)
  followed : List Task

/-- The tasks that an execution adds to a queue. -/
def Turn.added (turn : Turn) : QueueKind → List Task
  | .periodic1 => []
  | .periodic2 => turn.followed
  | .immediate => turn.arrived

namespace Stack

variable {stack : Stack} {kind : QueueKind} {task : Task}

/-- The tasks that come in while a stack receives. -/
def arrivals (stack : Stack) (client : Option ClientHandle) (world : World) : List Task :=
  (stack.received client world).tasks.immediate.drop stack.tasks.immediate.length

/-- The tasks that run in an execution queue these. -/
def scheduled (stack : Stack) (client : Option ClientHandle) (world : World) : List Task :=
  let received := stack.received client world
  let (ready, tasks) := received.tasks.takeReady
  followUpsOfAll world.now ready world.entropy { received with tasks }

/-- The turn of an execution: one that finds no receiver does nothing, and one that finds no
task queue runs nothing. -/
def turn (stack : Stack) (client : Option ClientHandle) (world : World) : Turn :=
  if stack.has .receiver then
    if stack.has .taskQueue then
      ⟨stack.arrivals client world, (stack.received client world).tasks.ready,
        stack.scheduled client world⟩
    else ⟨stack.arrivals client world, [], []⟩
  else ⟨[], [], []⟩

theorem tasks_received (stack : Stack) (client : Option ClientHandle) (world : World) :
    (stack.received client world).tasks =
      stack.tasks.add .immediate (stack.arrivals client world) := by
  obtain ⟨arrived, came⟩ :=
    attentive_gains.drain world.now maxReceived world.network (client.bind world.client?) stack
  rw [← received] at came
  have same : stack.arrivals client world = arrived := by
    rw [arrivals, came]
    exact List.drop_left
  rw [same, came]

theorem tasks_afterTasks (queue : stack.has .taskQueue = true) (client : Option ClientHandle)
    (world : World) :
    (stack.afterTasks client world).2.tasks =
      (stack.received client world).tasks.takeReady.2.add .periodic2
        (stack.scheduled client world) := by
  rw [afterTasks, if_pos queue]
  exact tasks_runTasks world.now _ world.entropy _

theorem turn_of_found (receiver : stack.has .receiver = true) (queue : stack.has .taskQueue = true)
    (client : Option ClientHandle) (world : World) :
    stack.turn client world =
      ⟨stack.arrivals client world, (stack.received client world).tasks.ready,
        stack.scheduled client world⟩ := by
  rw [turn, if_pos receiver, if_pos queue]

theorem sublist_turn (stack : Stack) (client : Option ClientHandle) (world : World) :
    ((stack.turn client world).ran.map Prod.fst).Sublist [.periodic1, .periodic2, .immediate] := by
  unfold turn
  split
  · split
    · exact TaskQueue.sublist_map_fst_ready _
    · exact List.nil_sublist _
  · exact List.nil_sublist _

end Stack

/-! ## Histories -/

/-- What happens to the tasks of a stack: one is added from outside, the interaction of the
stack is executed, or anything else happens, by which the tasks stay and no part goes. -/
inductive TaskEvent
  | add (kind : QueueKind) (task : Task)
  | execute (readiness : Address) (client : Option ClientHandle) (world : World)
  | meanwhile (other : Stack)

namespace TaskEvent

variable {stack : Stack} {kind : QueueKind} {task : Task} {events : List TaskEvent}

/-- What comes of a stack by an event. -/
def step (stack : Stack) : TaskEvent → Stack
  | add kind task => stack.addTasks kind [task]
  | execute readiness client world =>
      ((Action.interaction readiness client).executeByLinks world (some stack)).stack.getD stack
  | meanwhile other => { other with tasks := stack.tasks, gone := stack.gone }

/-- What comes of a stack by some events in order. -/
def run (stack : Stack) (events : List TaskEvent) : Stack :=
  events.foldl step stack

/-- The turn of an event, if that is an execution. -/
def turn? (stack : Stack) : TaskEvent → Option Turn
  | execute _ client world => some (stack.turn client world)
  | _ => none

/-- The turns of the executions among some events, in order. -/
def turns : Stack → List TaskEvent → List Turn
  | _, [] => []
  | stack, event :: events => (event.turn? stack).toList ++ turns (step stack event) events

/-- The tasks that an event adds to a queue. -/
def adds (kind : QueueKind) (stack : Stack) : TaskEvent → List Task
  | add other task => if kind = other then [task] else []
  | execute _ client world => (stack.turn client world).added kind
  | meanwhile _ => []

/-- The tasks that some events add to a queue, in order. -/
def added (kind : QueueKind) : Stack → List TaskEvent → List Task
  | _, [] => []
  | stack, event :: events => event.adds kind stack ++ added kind (step stack event) events

theorem step_execute_of_lost (lost : stack.has .receiver = false) (readiness : Address)
    (client : Option ClientHandle) (world : World) :
    step stack (execute readiness client world) = stack := by
  have nothing : (Action.interaction readiness client).finds (some stack) [.receiver] = false :=
    (Stack.finds_singleton _ stack .receiver).trans lost
  rw [step, Action.executeByLinks_of_lost nothing]
  rfl

theorem cleared_step_execute (receiver : stack.has .receiver = true) (readiness : Address)
    (client : Option ClientHandle) (world : World) :
    (stack.afterTasks client world).2.Cleared (step stack (execute readiness client world)) := by
  rw [step, Stack.executeByLinks_of_receiver receiver]
  exact (stack.cleared_interactByLinks readiness client world).2

theorem gone_step (stack : Stack) (event : TaskEvent) : (step stack event).gone = stack.gone := by
  cases event with
  | add kind task => rfl
  | meanwhile other => rfl
  | execute readiness client world =>
    cases receiver : stack.has .receiver with
    | false => rw [step_execute_of_lost receiver]
    | true =>
      obtain ⟨_, _, _, came⟩ := cleared_step_execute receiver readiness client world
      rw [came]
      exact (stack.persists_afterTasks client world).gone

theorem has_step (stack : Stack) (event : TaskEvent) (part : Part) :
    (step stack event).has part = stack.has part := by
  rw [Stack.has, Stack.has, gone_step]

/-- What an execution that finds its parts leaves in a queue: all that waited there or came
in, but for the first, and behind that what the tasks that ran have queued. -/
theorem get_step_execute (receiver : stack.has .receiver = true)
    (queue : stack.has .taskQueue = true) (readiness : Address) (client : Option ClientHandle)
    (world : World) (kind : QueueKind) :
    (step stack (execute readiness client world)).tasks.get kind =
      ((stack.received client world).tasks.get kind).drop 1 ++
        if kind = .periodic2 then stack.scheduled client world else [] := by
  obtain ⟨_, _, _, came⟩ := cleared_step_execute receiver readiness client world
  rw [came]
  dsimp only
  rw [Stack.tasks_afterTasks queue, TaskQueue.get_add, TaskQueue.get_takeReady]

theorem balanced_step (stack : Stack) (event : TaskEvent) (kind : QueueKind) :
    stack.tasks.get kind ++ event.adds kind stack =
      ((event.turn? stack).toList.flatMap fun turn => TaskQueue.fromQueue kind turn.ran) ++
        (step stack event).tasks.get kind := by
  cases event with
  | add other task => exact (TaskQueue.get_add stack.tasks other kind [task]).symm
  | meanwhile other => exact List.append_nil _
  | execute readiness client world =>
    change _ = [stack.turn client world].flatMap _ ++ _
    rw [List.flatMap_singleton, adds]
    cases receiver : stack.has .receiver with
    | false =>
      rw [step_execute_of_lost receiver, Stack.turn, receiver]
      cases kind <;> exact List.append_nil _
    | true =>
      have came := congrArg (TaskQueue.get · kind) (stack.tasks_received client world)
      rw [TaskQueue.get_add] at came
      cases queue : stack.has .taskQueue with
      | false =>
        obtain ⟨_, _, _, left⟩ := cleared_step_execute receiver readiness client world
        have nothing : stack.turn client world = ⟨stack.arrivals client world, [], []⟩ := by
          rw [Stack.turn, if_pos receiver, if_neg (Bool.eq_false_iff.1 queue)]
        rw [left, nothing, Stack.afterTasks, if_neg (Bool.eq_false_iff.1 queue)]
        dsimp only
        rw [came]
        cases kind <;> simp [Turn.added, TaskQueue.fromQueue]
      | true =>
        rw [get_step_execute receiver queue, Stack.turn_of_found receiver queue,
          TaskQueue.fromQueue_ready, ← List.append_assoc, List.take_append_drop, came]
        cases kind <;> simp [Turn.added]

theorem balanced_run (stack : Stack) (events : List TaskEvent) (kind : QueueKind) :
    stack.tasks.get kind ++ added kind stack events =
      ((turns stack events).flatMap fun turn => TaskQueue.fromQueue kind turn.ran) ++
        (run stack events).tasks.get kind := by
  induction events generalizing stack with
  | nil => exact List.append_nil _
  | cons event events ih =>
    rw [added, ← List.append_assoc, balanced_step, List.append_assoc, ih, turns,
      List.flatMap_append, ← List.append_assoc]
    rfl

/-- Where the parts are found, a task runs when as many executions have gone by as tasks are
before it, whatever comes of those. -/
theorem mem_ran_of_place (receiver : stack.has .receiver = true)
    (queue : stack.has .taskQueue = true) {place : Nat}
    (waits : (stack.tasks.get kind)[place]? = some task) {turn : Turn}
    (comes : (turns stack events)[place]? = some turn) : (kind, task) ∈ turn.ran := by
  have behind {tasks more : List Task} {place : Nat} (waits : tasks[place]? = some task) :
      (tasks ++ more)[place]? = some task :=
    (List.getElem?_append_left (List.getElem?_eq_some_iff.1 waits).1).trans waits
  -- On the events: only an execution takes from the queue, and it takes the first task.
  induction events generalizing stack place with
  | nil => cases comes
  | cons event events ih =>
    have stays {place : Nat} := @ih (step stack event)
      ((has_step stack event .receiver).trans receiver)
      ((has_step stack event .taskQueue).trans queue) place
    cases event with
    | add other own =>
      refine stays ?_ comes
      rw [step, Stack.addTasks, TaskQueue.get_add]
      exact behind waits
    | meanwhile other => exact stays waits comes
    | execute readiness client world =>
      have still : ((stack.received client world).tasks.get kind)[place]? = some task := by
        rw [Stack.tasks_received, TaskQueue.get_add]
        exact behind waits
      cases place with
      | zero =>
        cases comes
        apply TaskQueue.mem_of_mem_fromQueue
        rw [Stack.turn_of_found receiver queue, TaskQueue.fromQueue_ready]
        obtain ⟨tasks, first⟩ := List.head?_eq_some_iff.1 (List.head?_eq_getElem?.trans still)
        rw [first]
        exact List.mem_cons_self
      | succ place =>
        refine stays ?_ comes
        rw [get_step_execute receiver queue]
        apply behind
        rw [List.getElem?_drop, Nat.add_comm]
        exact still

/-- No execution runs more than one task of a queue, and each runs them in the order of the
queues. -/
theorem sublist_of_mem_turns {turn : Turn} (mem : turn ∈ turns stack events) :
    (turn.ran.map Prod.fst).Sublist [.periodic1, .periodic2, .immediate] := by
  induction events generalizing stack with
  | nil => cases mem
  | cons event events ih =>
    rcases List.mem_append.1 mem with now | later
    · cases event with
      | execute readiness client world =>
        obtain rfl := List.mem_singleton.1 now
        exact stack.sublist_turn client world
      | _ => cases now
    · exact ih later

theorem has_run (stack : Stack) (events : List TaskEvent) (part : Part) :
    (run stack events).has part = stack.has part := by
  induction events generalizing stack with
  | nil => rfl
  | cons event events ih => exact (ih (step stack event)).trans (has_step stack event part)

/-- After any history each queue holds what it held and what was added to it, in order, but for
its tasks that have run, which came first.  An execution runs at most one task of each queue,
the periodic ones first.  Where it finds its parts, a task that waits behind some others runs
in the execution after as many.  Each execution settles what it runs before the first task of
it runs, and runs all of that, one after another, whatever fails; what those tasks queue is
still in the queue when it is over. -/
theorem tasks_run_in_turn (stack : Stack) (events : List TaskEvent) :
    let present := run stack events
    (∀ kind, stack.tasks.get kind ++ added kind stack events =
        ((turns stack events).flatMap fun turn => TaskQueue.fromQueue kind turn.ran) ++
          present.tasks.get kind) ∧
      (∀ turn ∈ turns stack events,
        (turn.ran.map Prod.fst).Sublist [.periodic1, .periodic2, .immediate]) ∧
      (stack.has .receiver = true → stack.has .taskQueue = true →
        (∀ kind (place : Nat) task more turn, (present.tasks.get kind)[place]? = some task →
          (turns present more)[place]? = some turn → (kind, task) ∈ turn.ran) ∧
        ∀ readiness client world,
          let received := present.received client world
          let left := received.tasks.takeReady.2
          let turn := present.turn client world
          let (outcomes, entropy, after) := Stack.runTasks world.now (turn.ran.map Prod.snd)
            world.entropy { received with tasks := left }
          let visit := (Action.interaction readiness client).executeByLinks world (some present)
          received.tasks = present.tasks.add .immediate turn.arrived ∧
            turn.ran = received.tasks.ready ∧
            outcomes.map Prod.fst = turn.ran.map (·.2.job) ∧
            after.tasks = left.add .periodic2 turn.followed ∧
            visit.world.entropy = entropy ∧
            ∃ last, visit.stack = some last ∧ after.Cleared last) := by
  intro present
  refine ⟨balanced_run stack events, fun turn mem => sublist_of_mem_turns mem,
    fun receiver queue => ?_⟩
  rw [← has_run stack events] at receiver queue
  refine ⟨fun kind place task more turn waits comes => mem_ran_of_place receiver queue waits comes,
    fun readiness client world => ?_⟩
  have executed := present.cleared_interactByLinks readiness client world
  rw [Stack.executeByLinks_of_receiver receiver, Stack.turn_of_found receiver queue]
  rw [Stack.afterTasks, if_pos queue] at executed
  dsimp only
  rw [TaskQueue.map_snd_ready, TaskQueue.map_job_ready]
  exact ⟨present.tasks_received client world, rfl, Stack.map_fst_runTasks ..,
    Stack.tasks_runTasks .., executed.1, _, rfl, executed.2⟩

/-- A task without links is first in its queue, and a refresh in another one.  The first one
fails; the ping behind it runs in the second execution, as does the lookup that the refresh
queues. -/
theorem tasks_run_in_turn_after_failure :
    let stack := Stack.assembled ⟨⟨.zero 20⟩, 6881⟩ ⟨.ipv4, ⟨.v4 (.zero 4), 6881⟩⟩ 1000 0 ⟨1⟩
    let broken : Task := ⟨.none, 1000, .ping ⟨.v4 (.zero 4), 7000⟩ none⟩
    let ping := stack.task (.ping ⟨.v4 (.zero 4), 7001⟩ none)
    let lookup := stack.task (.nodeLookup ⟨.zero 20⟩ [])
    let world : World := ⟨0, 1700000000, ⟨1⟩, .empty, .empty, ⟨[]⟩, []⟩
    let events : List TaskEvent := [add .periodic1 broken, add .periodic1 ping,
      add .periodic2 (stack.task (.bucketRefresh false))]
    let execution : TaskEvent := execute ⟨.v4 (.zero 4), 6881⟩ none world
    ∃ first second, turns (run stack events) [execution, execution] = [first, second] ∧
      (.periodic1, broken) ∈ first.ran ∧
      ((run stack events).runTask 0 ⟨1⟩ broken).1 = .error (.notWired "task_factory.local_node") ∧
      first.followed = [lookup] ∧ (.periodic1, ping) ∈ second.ran ∧
      (.periodic2, lookup) ∈ second.ran := by
  intro stack broken ping lookup world events execution
  obtain ⟨-, -, places⟩ := tasks_run_in_turn stack events
  obtain ⟨-, -, placesLater⟩ := tasks_run_in_turn stack (events ++ [execution])
  obtain ⟨runs, -⟩ := places rfl rfl
  obtain ⟨runsLater, -⟩ := placesLater rfl rfl
  refine ⟨_, _, rfl, runs .periodic1 0 broken [execution, execution] _ rfl rfl, rfl, ?_,
    runs .periodic1 1 ping [execution, execution] _ rfl rfl,
    runsLater .periodic2 0 lookup [execution] _ ?_ rfl⟩
  · decide +kernel
  · decide +kernel

end TaskEvent

end Kademlia
