import Mathlib.Data.List.Induction
import Mathlib.Data.List.Pairwise
import Kademlia.Proofs.History
import Kademlia.Proofs.Table.Holding

/-!
# The order of a bucket

A node comes last in its bucket when it is seen, and also when it moves up from among
the replacements, however long ago it was seen.  So the order of a bucket is that of the
last operations which did either, and it is the order in which the nodes were last seen
only as long as none moves up behind one that was seen after it.
-/

namespace Kademlia.RoutingTable

variable {table : RoutingTable} {id other : Id} {node oldest : Node} {now distance : Nat}
  {operation : Operation} {operations : List Operation}

/-! ## Seeing and moving up -/

/-- An operation sees a node of an id when it adds one of the table's family. -/
def sees (id : Id) (table : RoutingTable) : Operation → Bool
  | .insert _ node => node.id = id && node.family = table.family
  | _ => false

/-- An operation lets the replacement of an id move up when it removes another one. -/
def promotes (id : Id) (table : RoutingTable) : Operation → Bool
  | .remove gone => !table.contains id && (table.remove gone).2.contains id
  | _ => false

/-- An operation puts a node of an id last in its bucket. -/
def places (table : RoutingTable) (operation : Operation) (id : Id) : Bool :=
  sees id table operation || promotes id table operation

/-- The number of the last operation that saw a node of an id. -/
def lastSeen (table : RoutingTable) (operations : List Operation) (id : Id) : Nat :=
  lastTime apply (sees id) operations table

/-- The number of the last operation by which a node of an id moved up. -/
def lastPromoted (table : RoutingTable) (operations : List Operation) (id : Id) : Nat :=
  lastTime apply (promotes id) operations table

/-- The number of the last operation that put a node of an id last in its bucket. -/
def lastPlaced (table : RoutingTable) (operations : List Operation) (id : Id) : Nat :=
  max (table.lastSeen operations id) (table.lastPromoted operations id)

theorem lastSeen_concat (table : RoutingTable) (operations : List Operation)
    (operation : Operation) (id : Id) :
    table.lastSeen (operations ++ [operation]) id =
      if sees id (table.run operations) operation then operations.length + 1
      else table.lastSeen operations id :=
  lastTime_concat operations operation table

theorem lastSeen_le_length (table : RoutingTable) (operations : List Operation) (id : Id) :
    table.lastSeen operations id ≤ operations.length :=
  lastTime_le_length operations table

theorem lastPlaced_concat (table : RoutingTable) (operations : List Operation)
    (operation : Operation) (id : Id) :
    table.lastPlaced (operations ++ [operation]) id =
      if (table.run operations).places operation id then operations.length + 1
      else table.lastPlaced operations id := by
  rw [lastPlaced, lastPlaced, lastSeen, lastPromoted, lastSeen, lastPromoted, ← lastTime_or,
    ← lastTime_or, lastTime_concat]
  rfl

theorem lastPlaced_le_length (table : RoutingTable) (operations : List Operation) (id : Id) :
    table.lastPlaced operations id ≤ operations.length :=
  Nat.max_le.2 ⟨lastTime_le_length operations table, lastTime_le_length operations table⟩

/-! ## One operation -/

/-- Some nodes stay in order, those that are not placed, and one that is may come last. -/
def Shifted (placed : Id → Bool) (before after : List Node) : Prop :=
  ∃ (kept : List Node) (last : Option Node), after = kept ++ last.toList ∧ kept.Sublist before ∧
    (∀ node ∈ kept, placed node.id = false) ∧ ∀ node ∈ last, placed node.id = true

theorem Shifted.of_eq {placed : Id → Bool} {before after : List Node} (same : after = before)
    (unplaced : ∀ node ∈ before, placed node.id = false) : Shifted placed before after :=
  ⟨before, none, same.trans (List.append_nil _).symm, .refl _, unplaced, nofun⟩

namespace WellFormed

variable (wf : table.WellFormed)

include wf

/-- When a node is added whose id is in a bucket, it is stored there. -/
theorem stored_of_sees (mem : node ∈ table.nodesAt distance) {added : Node}
    (seen : sees node.id table (.insert now added) = true) :
    (table.insert now added).1 = .stored ∧ distance = table.id.distance added.id := by
  rw [sees, Bool.and_eq_true, decide_eq_true_eq, decide_eq_true_eq] at seen
  obtain ⟨same, ofFamily⟩ := seen
  obtain ⟨-, placed⟩ := wf.of_mem_nodesAt mem
  rw [← same] at placed
  refine ⟨insert_eq_stored_iff.2 ⟨ofFamily, ?_, .inl ?_⟩, placed.symm⟩
  · obtain ⟨oldest, others, nodes⟩ := List.exists_cons_of_ne_nil (List.ne_nil_of_mem mem)
    rw [placed]
    exact wf.distance_ne_zero nodes
  · rw [placed, same]
    exact List.mem_map_of_mem mem

theorem shifted_insert (now : Nat) (added : Node) (distance : Nat) :
    Shifted (table.places (.insert now added)) (table.nodesAt distance)
      ((table.insert now added).2.nodesAt distance) := by
  have after := table.nodesAt_insert now added distance
  by_cases stored : (table.insert now added).1 = .stored ∧ distance = table.id.distance added.id
  · rw [if_pos stored] at after
    refine ⟨Bucket.without added.id (table.nodesAt distance), some added, after,
      Bucket.without_sublist _ _, ?_, ?_⟩
    · intro node mem
      have different := (Bucket.mem_without.1 mem).2
      simp [places, sees, promotes, Ne.symm different]
    · rintro node ⟨⟩
      simp [places, sees, (insert_eq_stored_iff.1 stored.1).1]
  · rw [if_neg stored] at after
    refine .of_eq after fun node mem => ?_
    change (sees node.id table (.insert now added) || false) = false
    rw [Bool.or_false, Bool.eq_false_iff]
    exact fun seen => stored (wf.stored_of_sees mem seen)

/-- A node that moves up from among the replacements was not in the table, and is then. -/
theorem promotes_of_getLast? {gone : Id} {distance : Nat}
    (last : (table.cachedAt distance).getLast? = some node)
    (moved : node ∈ (table.remove gone).2.nodesAt distance) :
    promotes node.id table (.remove gone) = true := by
  have placed := ((wf.remove gone).of_mem_nodesAt moved).2
  have present : (table.remove gone).2.contains node.id = true :=
    contains_iff.2 ⟨node, by rwa [placed], rfl⟩
  have absent : table.contains node.id = false := by
    rw [Bool.eq_false_iff]
    intro live
    apply wf.not_mem_cachedAt live
    rw [id_remove] at placed
    rw [placed]
    exact List.mem_map_of_mem (List.mem_of_getLast? last)
  simp [promotes, present, absent]

theorem shifted_remove (gone : Id) (distance : Nat) :
    Shifted (table.places (.remove gone)) (table.nodesAt distance)
      ((table.remove gone).2.nodesAt distance) := by
  have unmoved : ∀ node ∈ table.nodesAt distance, table.places (.remove gone) node.id = false := by
    intro node mem
    have live : table.contains node.id = true :=
      contains_iff.2 ⟨node, by rwa [(wf.of_mem_nodesAt mem).2], rfl⟩
    simp [places, sees, promotes, live]
  have after := table.nodesAt_remove gone distance
  by_cases taken : table.contains gone = true ∧ distance = table.id.distance gone
  · rw [if_pos taken] at after
    refine ⟨Bucket.without gone (table.nodesAt distance), (table.cachedAt distance).getLast?,
      after, Bucket.without_sublist _ _, ?_, ?_⟩
    · exact fun node mem => unmoved node (Bucket.mem_without.1 mem).1
    · intro node last
      refine wf.promotes_of_getLast? last ?_
      rw [after]
      exact List.mem_append_right _ (Option.mem_toList.2 last)
  · rw [if_neg taken] at after
    exact .of_eq after unmoved

/-- What an operation does to the nodes at a distance: some of them stay as they are,
and a node that it sees, or that moves up by it, may come last. -/
theorem shifted_apply (operation : Operation) (distance : Nat) :
    Shifted (table.places operation) (table.nodesAt distance)
      ((table.apply operation).nodesAt distance) := by
  cases operation with
  | insert now added => exact wf.shifted_insert now added distance
  | remove gone => exact wf.shifted_remove gone distance
  | touch now touched => exact .of_eq (table.nodesAt_touch now touched distance) fun _ _ => rfl

/-- A node that a table holds is of its family. -/
theorem family_of_holds (holds : table.Holds node) : node.family = table.family := by
  obtain ⟨⟨distance, bucket⟩, listed, mem⟩ := holds
  exact (wf.buckets listed).family_eq node mem

end WellFormed

/-! ## Whole runs -/

section Run

variable (family : Family) (own : Id)

/-- The nodes of a bucket are in the order in which they were put last there. -/
theorem nodesAt_pairwise_lastPlaced (operations : List Operation) (distance : Nat) :
    ((run operations (empty family own)).nodesAt distance).Pairwise fun a b =>
      lastPlaced (empty family own) operations a.id <
        lastPlaced (empty family own) operations b.id := by
  induction operations using List.reverseRecOn with
  | nil => exact .nil
  | append_singleton operations operation ih =>
    have wf : (run operations (empty family own)).WellFormed :=
      (wellFormed_empty family own).run operations
    obtain ⟨kept, last, after, before, unplaced, placed⟩ :=
      wf.shifted_apply operation distance
    rw [run_append]
    change ((apply _ operation).nodesAt distance).Pairwise _
    rw [after, List.pairwise_append]
    simp only [lastPlaced_concat]
    refine ⟨?_, ?_, ?_⟩
    · refine (ih.sublist before).imp_of_mem fun {a b} first second order => ?_
      rw [unplaced a first, unplaced b second]
      exact order
    · cases last <;> simp
    · intro a first b second
      rw [unplaced a first, placed b (Option.mem_toList.1 second)]
      exact Nat.lt_succ_of_le (lastPlaced_le_length _ operations a.id)

/-- Whatever node a table holds was seen. -/
theorem lastSeen_pos (holds : (run operations (empty family own)).Holds node) :
    0 < lastSeen (empty family own) operations node.id := by
  induction operations using List.reverseRecOn with
  | nil => exact absurd holds (not_holds_empty family own node)
  | append_singleton operations operation ih =>
    have wf : (run (operations ++ [operation]) (empty family own)).WellFormed :=
      (wellFormed_empty family own).run _
    have ofFamily := wf.family_of_holds holds
    have families (operations : List Operation) :
        (run operations (empty family own)).family = family :=
      (run_id_family operations (empty family own)).2
    rw [families] at ofFamily
    rw [run_append] at holds
    rw [lastSeen_concat]
    split
    · exact Nat.succ_pos _
    · rename_i unseen
      cases operation with
      | insert now added =>
        rcases Holds.of_insert holds with rfl | before
        · simp [sees, families, ofFamily] at unseen
        · exact ih before
      | remove gone => exact ih (Holds.of_remove holds)
      | touch now touched => exact ih (Holds.of_touch holds)

/-- One operation does not see two ids. -/
theorem eq_of_lastSeen_eq (seen : 0 < lastSeen table operations id)
    (same : lastSeen table operations id = lastSeen table operations other) : id = other := by
  induction operations using List.reverseRecOn with
  | nil => exact absurd seen (Nat.lt_irrefl 0)
  | append_singleton operations operation ih =>
    have first := table.lastSeen_le_length operations id
    have second := table.lastSeen_le_length operations other
    rw [lastSeen_concat] at seen
    rw [lastSeen_concat, lastSeen_concat] at same
    split at same
    · rename_i here
      split at same
      · rename_i there
        cases operation with
        | insert now added =>
          rw [sees, Bool.and_eq_true, decide_eq_true_eq] at here there
          exact here.1.symm.trans there.1
        | remove gone => cases here
        | touch now touched => cases here
      · omega
    · rename_i elsewhere
      split at same
      · omega
      · rw [if_neg elsewhere] at seen
        exact ih seen same

/-- The node that a newcomer waits for comes first in its bucket. -/
theorem nodesAt_of_deferred (deferred : (table.insert now node).1 = .deferred oldest) :
    ∃ others, table.nodesAt (table.id.distance node.id) = oldest :: others := by
  have inserted := table.inserted_insert now node
  generalize table.insert now node = result at inserted deferred
  cases inserted with
  | refused unfit => cases deferred
  | stored ofFamily apart fits => cases deferred
  | @deferred first others ofFamily apart absent nodes_eq full =>
    cases deferred
    rw [nodes_bucketFor] at nodes_eq
    exact ⟨others, nodes_eq⟩

/-- Nodes in the order in which they were put last are in the order in which they were seen
exactly when none of them moved up behind another one that was seen after it. -/
theorem pairwise_seen_iff {nodes : List Node}
    (positive : ∀ node ∈ nodes, 0 < lastSeen table operations node.id)
    (inOrder : nodes.Pairwise fun a b =>
      lastPlaced table operations a.id < lastPlaced table operations b.id) :
    nodes.Pairwise (fun a b =>
        lastSeen table operations a.id < lastSeen table operations b.id) ↔
      ∀ a ∈ nodes, ∀ b ∈ nodes,
        lastSeen table operations b.id < lastSeen table operations a.id →
          lastPromoted table operations b.id ≤ lastPlaced table operations a.id := by
  constructor
  · intro bySeen a first b second
    refine List.Pairwise.forall_of_forall_of_flip (R := fun a b =>
      lastSeen table operations b.id < lastSeen table operations a.id →
        lastPromoted table operations b.id ≤ lastPlaced table operations a.id) ?_ ?_ ?_ first second
    · exact fun node _ later => absurd later (Nat.lt_irrefl _)
    · exact bySeen.imp fun order later => absurd order (Nat.lt_asymm later)
    · refine inOrder.imp fun {a b} order => ?_
      intro _
      exact Nat.le_trans (Nat.le_max_right _ _) (Nat.le_of_lt order)
  · intro unpassed
    refine inOrder.imp_of_mem fun {a b} first second order => ?_
    by_contra earlier
    rcases Nat.eq_or_lt_of_le (Nat.le_of_not_lt earlier) with same | passed
    · have equal : b.id = a.id := eq_of_lastSeen_eq (positive b second) same
      rw [equal] at order
      exact Nat.lt_irrefl _ order
    · exact absurd order (Nat.not_lt.2 (Nat.max_le.2
        ⟨Nat.le_trans (Nat.le_of_lt passed) (Nat.le_max_left _ _), unpassed a first b second passed⟩))

/-- The nodes of a bucket are in the order in which they were put last there.  That is the
order in which they were last seen exactly when none of them moved up behind another one
that was seen after it; as long as none moved up since it was last seen, it is the one seen
the longest ago that a newcomer waits for. -/
theorem ordered_by_last_placing (operations : List Operation) (distance : Nat) :
    let table := run operations (empty family own)
    let seen (node : Node) := lastSeen (empty family own) operations node.id
    let promoted (node : Node) := lastPromoted (empty family own) operations node.id
    let placed (node : Node) := max (seen node) (promoted node)
    let nodes := table.nodesAt distance
    (∀ node ∈ nodes, 0 < seen node) ∧
      nodes.Pairwise (fun a b => placed a < placed b) ∧
      (nodes.Pairwise (fun a b => seen a < seen b) ↔
        ∀ a ∈ nodes, ∀ b ∈ nodes, seen b < seen a → promoted b ≤ placed a) ∧
      ∀ now node oldest, (table.insert now node).1 = .deferred oldest →
        table.id.distance node.id = distance →
        oldest ∈ nodes ∧ ∀ other ∈ nodes, other ≠ oldest →
          placed oldest < placed other ∧ (promoted other ≤ seen other → seen oldest < seen other) := by
  intro table seen promoted placed nodes
  have positive : ∀ node ∈ nodes, 0 < seen node := by
    intro node mem
    have wf : table.WellFormed := (wellFormed_empty family own).run operations
    obtain ⟨-, here⟩ := wf.of_mem_nodesAt mem
    refine lastSeen_pos family own (holds_of_mem_nodes (wf.mem_nodes_iff.2 ?_))
    rwa [here]
  have inOrder : nodes.Pairwise fun a b => placed a < placed b :=
    nodesAt_pairwise_lastPlaced family own operations distance
  refine ⟨positive, inOrder, pairwise_seen_iff positive inOrder, ?_⟩
  · rintro now node oldest deferred rfl
    obtain ⟨others, parts⟩ := nodesAt_of_deferred deferred
    change nodes = _ at parts
    rw [parts] at inOrder ⊢
    refine ⟨List.mem_cons_self, ?_⟩
    intro other mem different
    have order := List.rel_of_pairwise_cons inOrder
      ((List.mem_cons.1 mem).resolve_left different)
    refine ⟨order, fun unmoved => ?_⟩
    exact Nat.lt_of_le_of_lt (Nat.le_max_left _ _) (Nat.lt_of_lt_of_eq order (Nat.max_eq_left unmoved))

end Run

/-- A node whose id is a number. -/
def numbered (n : Nat) : Node :=
  ⟨.ofNat n, ⟨.v4 (.zero 4), 7000⟩⟩

/-- Nine nodes at one distance are seen one after another, so that the last of them waits
as a replacement; the second one is seen again, and the first one is removed. -/
def overtaking : List Operation :=
  (List.range' 16 9 ++ [17]).map (fun n => .insert 0 (numbered n)) ++ [.remove (.ofNat 16)]

/-- The replacement comes last although another node was seen after it, and once the
others are seen again a newcomer waits for that node, and not for the one seen the longest
ago. -/
theorem overtaken_by_replacement :
    let start := empty .ipv4 ⟨.zero 20⟩
    let later := overtaking ++ (List.range' 18 6).map fun n => .insert 0 (numbered n)
    let seen operations (node : Node) := lastSeen start operations node.id
    (run overtaking start).nodesAt 5 = [18, 19, 20, 21, 22, 23, 17, 24].map numbered ∧
      ((run overtaking start).nodesAt 5).map (seen overtaking) = [3, 4, 5, 6, 7, 8, 10, 9] ∧
      (¬ ((run overtaking start).nodesAt 5).Pairwise fun a b =>
        seen overtaking a < seen overtaking b) ∧
      ((run later start).nodesAt 5).map (seen later) = [10, 9, 12, 13, 14, 15, 16, 17] ∧
      ((run later start).insert 0 (numbered 25)).1 = .deferred (numbered 17) ∧
      seen later (numbered 24) < seen later (numbered 17) := by
  decide +kernel

end Kademlia.RoutingTable
