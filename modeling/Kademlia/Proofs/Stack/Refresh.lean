import Kademlia.Proofs.Stack.Course
import Kademlia.Proofs.Table.Refresh
import Kademlia.Proofs.Target

/-!
# Refreshing buckets

A refresh queues one lookup for each bucket that is due, of an id at the distance of that
bucket, and marks the bucket; a table without nodes makes it look for the own id instead.
What was marked is not due again before the interval has passed.
-/

namespace Kademlia.Stack

variable {stack : Stack} {task : Task} {now : Nat} {force : Bool}

/-! ## Drawing targets -/

/-- The ids that are drawn are at the distances that they are drawn for. -/
theorem distances_drawTargets (id : Id) {distances : List Nat}
    (apart : ∀ distance ∈ distances, 1 ≤ distance ∧ distance ≤ 160) (entropy : Entropy) :
    (drawTargets id distances entropy).1.map id.distance = distances := by
  induction distances generalizing entropy with
  | nil => rfl
  | cons distance distances ih =>
    obtain ⟨⟨positive, near⟩, others⟩ := List.forall_mem_cons.1 apart
    have drawn : id.distance (id.randomAtDistance distance entropy).1 = distance := by
      rw [Id.randomAtDistance, if_neg (Nat.ne_of_gt positive)]
      exact (id.distance_atDistance positive _).trans (Nat.min_eq_left near)
    have later := ih others (id.randomAtDistance distance entropy).2
    rw [drawTargets]
    exact congrArg₂ List.cons drawn later

/-! ## Buckets that are due -/

/-- A bucket is due for a refresh: for one that is forced when it has nodes, and else when
it was not looked after for long enough. -/
def Due (now : Nat) (force : Bool) (bucket : Bucket) : Prop :=
  if force then bucket.nodes ≠ [] else refreshInterval ≤ now - bucket.touched

instance (now : Nat) (force : Bool) (bucket : Bucket) : Decidable (Due now force bucket) :=
  inferInstanceAs (Decidable (if force then _ else _))

/-- The distances of the buckets that are due. -/
def dueAt (stack : Stack) (now : Nat) (force : Bool) : List Nat :=
  stack.table.distancesOf fun bucket => Due now force bucket

theorem dueAt_eq (stack : Stack) (now : Nat) (force : Bool) :
    stack.dueAt now force =
      if force then stack.table.distances else stack.table.stale now refreshInterval := by
  cases force with
  | false =>
    rw [if_neg Bool.false_ne_true, RoutingTable.stale_eq]
    rfl
  | true =>
    rw [if_pos rfl, dueAt, RoutingTable.distances_eq]
    congr 1
    funext bucket
    rw [Bool.eq_iff_iff]
    simp [Due]

section

variable (wf : stack.table.WellFormed)

include wf

theorem mem_dueAt_iff {distance : Nat} : distance ∈ stack.dueAt now force ↔
    ∃ bucket, stack.table.bucket? distance = some bucket ∧ Due now force bucket := by
  rw [dueAt, wf.ascending.mem_distancesOf_iff]
  simp only [decide_eq_true_eq]

/-- They are distances that other ids can have. -/
theorem bounds_of_mem_dueAt (now : Nat) (force : Bool) :
    ∀ distance ∈ stack.dueAt now force, 1 ≤ distance ∧ distance ≤ 160 := by
  intro distance mem
  obtain ⟨bucket, found, -⟩ := (mem_dueAt_iff wf).1 mem
  exact ⟨(wf.of_bucket? found).distance_pos, (wf.of_bucket? found).distance_le⟩

/-- Nothing is due in a table without nodes. -/
theorem dueAt_of_nodes_nil (vacant : stack.table.nodes = []) : stack.dueAt now force = [] := by
  rw [List.eq_nil_iff_forall_not_mem]
  intro distance mem
  obtain ⟨bucket, found, -⟩ := (mem_dueAt_iff wf).1 mem
  rw [wf.bucket?_of_nodes_nil vacant] at found
  cases found

end

/-! ## What a refresh does -/

/-- What a refresh looks for when some ids were drawn for the buckets that are due. -/
def sought (stack : Stack) (drawn : List Id) : List Id :=
  if drawn = [] ∧ stack.table.nodes = [] then [stack.localNode.id] else drawn

/-- A stack with the buckets at some distances marked and some ids to be looked for. -/
def lookedAfter (stack : Stack) (task : Task) (now : Nat) (due : List Nat) (targets : List Id) :
    Stack :=
  { stack with
    table := stack.table.touchAll now due
    tasks := stack.tasks.add .periodic2
      (targets.map fun target => { task with job := .nodeLookup target [] }) }

/-- A refresh that finds what it needs is done. -/
theorem runRefresh_of_finds (own : stack.finds task .localNode = true)
    (table : stack.finds task .table = true) (taskQueue : stack.finds task .taskQueue = true)
    (now : Nat) (entropy : Entropy) (force : Bool) :
    let (drawn, rest) := drawTargets stack.localNode.id (stack.dueAt now force) entropy
    stack.runRefresh now entropy task force =
      (.ok (), rest,
        stack.lookedAfter task now (stack.dueAt now force) (stack.sought drawn)) := by
  have vacant : (stack.table.touchAll now (stack.dueAt now force)).isEmpty = true ↔
      stack.table.nodes = [] := by
    rw [RoutingTable.isEmpty_iff, RoutingTable.nodes_touchAll]
  have found :
      { stack with table := stack.table.touchAll now (stack.dueAt now force) }.requireFor task
        .taskQueue = .ok () := requireFor_of_finds taskQueue
  rw [runRefresh, requireFor_of_finds own, requireFor_of_finds table]
  dsimp only [ok_bind]
  rw [← dueAt_eq, ← RoutingTable.touchAll, found]
  simp only [vacant]
  rfl

/-- What becomes of a stack by a refresh: which buckets are due, and what is looked for. -/
structure Refreshed (before : Stack) (task : Task) (now : Nat) (force : Bool) (due : List Nat)
    (targets : List Id) (after : Stack) : Prop where
  ascending : due.Pairwise (· < ·)
  mem_due_iff : ∀ distance, distance ∈ due ↔
    ∃ bucket, before.table.bucket? distance = some bucket ∧ Due now force bucket
  live : ∀ distance ∈ due, before.table.nodesAt distance ≠ []
  distances : before.table.nodes ≠ [] → targets.map before.localNode.id.distance = due
  vacant : before.table.nodes = [] → due = [] ∧ targets = [before.localNode.id]
  queued : after.tasks.periodic2 = before.tasks.periodic2 ++
    targets.map fun target => { task with job := .nodeLookup target [] }
  touched : ∀ distance, after.table.bucket? distance =
    (before.table.bucket? distance).map fun bucket =>
      if distance ∈ due then { bucket with touched := now } else bucket
  nodes : after.table.nodes = before.table.nodes
  frame : after =
    { before with
      table := { before.table with buckets := after.table.buckets }
      tasks := { before.tasks with periodic2 := after.tasks.periodic2 } }

/-- When an id was drawn for each bucket that is due, all of them are looked after, and
nothing else. -/
theorem refreshed_of_drawn (wf : stack.table.WellFormed) {drawn : List Id}
    (apart : drawn.map stack.localNode.id.distance = stack.dueAt now force) :
    Refreshed stack task now force (stack.dueAt now force) (stack.sought drawn)
      (stack.lookedAfter task now (stack.dueAt now force) (stack.sought drawn)) where
  ascending := wf.ascending.distancesOf_pairwise _
  mem_due_iff _ := mem_dueAt_iff wf
  live := by
    intro distance mem
    obtain ⟨bucket, found, -⟩ := (mem_dueAt_iff wf).1 mem
    exact wf.nodesAt_ne_nil found
  distances := by
    intro inhabited
    rw [sought, if_neg fun both => inhabited both.2]
    exact apart
  vacant := by
    intro vacant
    rw [dueAt_of_nodes_nil wf vacant] at apart ⊢
    exact ⟨rfl, if_pos ⟨List.map_eq_nil_iff.1 apart, vacant⟩⟩
  queued := rfl
  touched := stack.table.bucket?_touchAll now _
  nodes := stack.table.nodes_touchAll now _
  frame := by
    rw [lookedAfter, RoutingTable.touchAll_eq]
    rfl

namespace Refreshed

variable {before after again last : Stack} {other : Task} {later : Nat}
  {due dueAgain : List Nat} {targets targetsAgain : List Id}
  (first : Refreshed before task now force due targets after)
  (second : Refreshed again other later false dueAgain targetsAgain last)
  (same : again.table = after.table) (soon : later < now + refreshInterval)

include first second same soon

/-- What was marked is not due again before the interval has passed. -/
theorem not_due : ∀ distance ∈ dueAgain, distance ∉ due := by
  intro distance mem marked
  obtain ⟨bucket, found, overdue⟩ := (second.mem_due_iff distance).1 mem
  rw [same, first.touched, Option.map_eq_some_iff] at found
  obtain ⟨old, -, rfl⟩ := found
  rw [if_pos marked] at overdue
  have waited : refreshInterval ≤ later - now := overdue
  unfold refreshInterval at soon waited
  omega

/-- No id is looked for at a distance that was marked before. -/
theorem not_looked_for : ∀ target ∈ targetsAgain, again.localNode.id.distance target ∉ due := by
  intro target mem
  by_cases vacant : again.table.nodes = []
  · have nothingDue : due = [] := (first.vacant (by rw [← first.nodes, ← same, vacant])).1
    rw [nothingDue]
    exact List.not_mem_nil
  · apply first.not_due second same soon
    rw [← second.distances vacant]
    exact List.mem_map_of_mem mem

end Refreshed

/-- A refresh that a whole stack made is done on it. -/
theorem FullyWired.exists_refreshed (wired : stack.FullyWired) (wf : stack.table.WellFormed)
    (links : task.links = stack.wiring.ofPart .taskFactory) (job : task.job = .bucketRefresh force)
    (now : Nat) (entropy : Entropy) :
    ∃ due targets rest after, stack.runTask now entropy task = (.ok (), rest, after) ∧
      Refreshed stack task now force due targets after := by
  have ran : stack.runTask now entropy task = stack.runRefresh now entropy task force := by
    rw [runTask, job]
  have apart := distances_drawTargets stack.localNode.id (bounds_of_mem_dueAt wf now force) entropy
  exact ⟨_, _, _, _, ran.trans (runRefresh_of_finds (wired.finds links (by decide))
    (wired.finds links (by decide)) (wired.finds links (by decide)) now entropy force),
    refreshed_of_drawn wf apart⟩

/-- A refresh queues one lookup for each bucket that is due, in the order of their
distances, of an id at that distance; or, when there are no nodes, one of the own id.  It
marks those buckets and changes nothing else.  Until the interval has passed, a refresh that
is not forced leaves them out, as long as the table is the same. -/
theorem refresh_looks_after_due (wired : stack.FullyWired)
    (reached : stack.table.Reachable stack.family stack.localNode.id)
    (links : task.links = stack.wiring.ofPart .taskFactory) (job : task.job = .bucketRefresh force)
    (now : Nat) (entropy : Entropy) :
    ∃ due targets rest after, stack.runTask now entropy task = (.ok (), rest, after) ∧
      Refreshed stack task now force due targets after ∧
      ∀ again other later draws, Persists after again → again.table = after.table →
        other.links = again.wiring.ofPart .taskFactory → other.job = .bucketRefresh false →
        later < now + refreshInterval →
        ∃ dueAgain targetsAgain restAgain last,
          again.runTask later draws other = (.ok (), restAgain, last) ∧
          Refreshed again other later false dueAgain targetsAgain last ∧
          ∀ target ∈ targetsAgain, stack.localNode.id.distance target ∉ due := by
  obtain ⟨due, targets, rest, after, ran, first⟩ :=
    wired.exists_refreshed reached.wellFormed links job now entropy
  refine ⟨due, targets, rest, after, ran, first, ?_⟩
  intro again other later draws persists same otherLinks otherJob soon
  have left : after = (stack.runTask now entropy task).2.2 := by rw [ran]
  have stays : Persists stack again := by
    refine .trans ?_ persists
    rw [left]
    exact respected_persists.runTask stack now entropy task
  have wfAgain : again.table.WellFormed := by
    rw [same, left]
    exact (respected_tended.runTask stack now entropy task).wellFormed reached.wellFormed
  obtain ⟨dueAgain, targetsAgain, restAgain, last, ranAgain, second⟩ :=
    (stays.fullyWired wired).exists_refreshed wfAgain otherLinks otherJob later draws
  refine ⟨dueAgain, targetsAgain, restAgain, last, ranAgain, second, ?_⟩
  rw [← stays.localNode]
  exact first.not_looked_for second same soon

/-- A stack with a node at each of two distances, one seen some time after the other. -/
def twoBuckets : Stack :=
  { assembled ⟨⟨.zero 20⟩, 6881⟩ ⟨.ipv4, ⟨.v4 (.zero 4), 6881⟩⟩ 1000 0 ⟨1⟩ with
    table := .run
      [.insert 0 ⟨.ofNat 16, ⟨.v4 (.zero 4), 7000⟩⟩,
        .insert 500000 ⟨.ofNat 256, ⟨.v4 (.zero 4), 7001⟩⟩]
      (.empty .ipv4 ⟨.zero 20⟩) }

/-- One of the two buckets is due first; when the other one is, the first is no longer. -/
theorem refresh_looks_after_one_bucket_each :
    let task := twoBuckets.task (.bucketRefresh false)
    twoBuckets.FullyWired ∧
      twoBuckets.table.Reachable twoBuckets.family twoBuckets.localNode.id ∧
      ∃ due targets rest after,
        twoBuckets.runTask 1000000 ⟨7⟩ task = (.ok (), rest, after) ∧
        Refreshed twoBuckets task 1000000 false due targets after ∧ 5 ∈ due ∧ 9 ∉ due ∧
        ∃ dueAgain targetsAgain restAgain last,
          after.runTask 1500000 ⟨8⟩ (after.task (.bucketRefresh false)) =
            (.ok (), restAgain, last) ∧
          Refreshed after (after.task (.bucketRefresh false)) 1500000 false dueAgain targetsAgain
            last ∧
          9 ∈ dueAgain ∧
          ∀ target ∈ targetsAgain, twoBuckets.localNode.id.distance target ∉ due := by
  intro task
  have whole := fullyWired_assembled ⟨⟨.zero 20⟩, 6881⟩ ⟨.ipv4, ⟨.v4 (.zero 4), 6881⟩⟩ 1000 0 ⟨1⟩
  have wired : twoBuckets.FullyWired := ⟨whole.wired, whole.whole⟩
  have reached : twoBuckets.table.Reachable twoBuckets.family twoBuckets.localNode.id := ⟨_, rfl⟩
  have links : task.links = twoBuckets.wiring.ofPart .taskFactory := rfl
  obtain ⟨due, targets, rest, after, ran, first, again⟩ :=
    refresh_looks_after_due wired reached links rfl 1000000 ⟨7⟩
  obtain ⟨dueAgain, targetsAgain, restAgain, last, ranAgain, second, apart⟩ :=
    again after (after.task (.bucketRefresh false)) 1500000 ⟨8⟩ (.refl after) rfl rfl rfl
      (by decide)
  have old : 5 ∈ due :=
    (first.mem_due_iff 5).2
      ⟨⟨[⟨.ofNat 16, ⟨.v4 (.zero 4), 7000⟩⟩], [], 0⟩, by decide +kernel, by decide⟩
  have new : twoBuckets.table.bucket? 9 =
      some ⟨[⟨.ofNat 256, ⟨.v4 (.zero 4), 7001⟩⟩], [], 500000⟩ := by decide +kernel
  have notYet : 9 ∉ due := by
    rw [first.mem_due_iff, new]
    rintro ⟨bucket, ⟨⟩, overdue⟩
    exact absurd overdue (by decide)
  have atLast : 9 ∈ dueAgain := by
    rw [second.mem_due_iff, first.touched, new]
    exact ⟨_, congrArg some (if_neg notYet), by decide⟩
  exact ⟨wired, reached, due, targets, rest, after, ran, first, old, notYet, dueAgain, targetsAgain,
    restAgain, last, ranAgain, second, atLast, apart⟩

end Kademlia.Stack
