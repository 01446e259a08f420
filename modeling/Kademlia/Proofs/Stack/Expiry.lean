import Kademlia.Proofs.Inflight
import Kademlia.Proofs.Stack.Wiring
import Kademlia.Proofs.Table.Eviction
import Kademlia.Proofs.Table.Run

/-!
# Nodes that do not answer

When queries have waited for too long, the nodes that they asked are removed from
the table, in the order of the queries.  A node that is only a replacement when
its query is handled may still move up for another one that is removed later.
-/

namespace Kademlia

/-- Giving up on a query makes no difference to a table: whatever else there is to give up
on, and whenever, the table becomes what it would without that query. -/
def Query.SparesTable (query : Query) : Prop :=
  ∀ (stack : Stack) (now : Nat) (earlier later : List Query),
    stack.inflight = earlier ++ query :: later →
      (stack.expire now).2.table =
        ({ stack with inflight := earlier ++ later }.expire now).2.table

namespace Stack

variable {stack : Stack} {now : Nat}

/-- The ids of the nodes that were asked by the queries that have waited for too
long, in order. -/
def silent (stack : Stack) (now : Nat) : List Id :=
  (Inflight.expire now stack.inflight).1.filterMap Query.remote

/-- Giving up on queries changes what waits, and removes the silent nodes. -/
theorem expire_eq (stack : Stack) (now : Nat) :
    stack.expire now =
      ((Inflight.expire now stack.inflight).1,
        { stack with
          inflight := (Inflight.expire now stack.inflight).2
          table :=
            if stack.resolves .tracker .table then stack.table.evict (stack.silent now)
            else stack.table }) := by
  have removed (ids : List Id) (stack : Stack) :
      ids.foldl (fun stack id => (stack.removeNode id).2) stack =
        { stack with table := stack.table.evict ids } := by
    induction ids generalizing stack with
    | nil => rfl
    | cons id ids ih => exact ih (stack.removeNode id).2
  by_cases linked : stack.resolves .tracker .table = true
  · rw [expire, if_pos linked]
    dsimp only
    rw [removed]
    exact if_pos linked
  · rw [expire, if_neg linked]
    exact if_neg linked

/-- Where nothing waits for an answer nothing is given up on. -/
theorem expire_of_unasked (unasked : stack.inflight = []) (now : Nat) :
    stack.expire now = ([], stack) := by
  rw [expire_eq, silent, unasked]
  change ([], { stack with inflight := [], table := if _ then stack.table else stack.table }) = _
  rw [ite_self, ← unasked]

/-- A query that was not sent to a node that is known has none removed. -/
theorem sparesTable_of_unnamed {query : Query} (unnamed : query.remote = none) :
    query.SparesTable := by
  intro stack now earlier later waits
  have given (inflight : Inflight) :
      (Inflight.expire now inflight).1 = inflight.filter (·.isExpired now) := by
    rw [Inflight.expire_eq_filter]
  have silent : stack.silent now = { stack with inflight := earlier ++ later }.silent now := by
    rw [Stack.silent, Stack.silent, given, given, waits, List.filter_append, List.filter_append,
      List.filterMap_append, List.filterMap_append, List.filter_cons]
    split
    · rw [List.filterMap_cons_none unnamed]
    · rfl
  rw [expire_eq, expire_eq, silent]
  rfl

/-- A silent node is in the table afterwards exactly if, once it was handled for
the last time, it is among the replacements that move up for the silent nodes that
are handled after it.  One that was no replacement before is gone. -/
theorem contains_expire_iff {family : Family} {own id : Id}
    (linked : stack.resolves .tracker .table = true) (reached : stack.table.Reachable family own)
    (mem : id ∈ (stack.expire now).1.filterMap Query.remote) :
    ∃ first later,
      (stack.expire now).1.filterMap Query.remote = first ++ id :: later ∧ id ∉ later ∧
      ((stack.expire now).2.table.contains id = true ↔
        id ∈ (stack.table.evict (first ++ [id])).nextUp (own.distance id)
          (RoutingTable.evictions (own.distance id) later
            (stack.table.evict (first ++ [id])))) ∧
      (id ∉ (stack.table.cachedAt (own.distance id)).map Node.id →
        (stack.expire now).2.table.contains id = false) := by
  rw [expire_eq, if_pos linked] at *
  obtain ⟨later, first, reversed, last⟩ := List.eq_append_cons_of_mem (List.mem_reverse.2 mem)
  have parts : stack.silent now = first.reverse ++ id :: later.reverse := by
    rw [silent, ← List.reverse_reverse (List.filterMap _ _), reversed]
    simp
  have last : id ∉ later.reverse := fun mem => last (List.mem_reverse.1 mem)
  have wf := reached.wellFormed
  refine ⟨first.reverse, later.reverse, parts, last, ?_, ?_⟩
  · rw [parts, wf.contains_evict_iff last, reached.id_eq]
  · intro uncached
    rw [← reached.id_eq] at uncached
    rw [parts]
    exact wf.contains_evict_of_not_cached last uncached

/-- A stack with a full bucket: its nodes have the ids 16 to 23, and a ninth one of
the id 24 is kept as a replacement.  Some of the nine were asked at the same time. -/
def crowded (asked : List Nat) : Stack :=
  let node (n : Nat) : Node := ⟨.ofNat n, ⟨.v4 (.zero 4), 7000⟩⟩
  let query (n : Nat) : Query := ⟨1, (node n).address, some (node n).id, "ping", 0, 1000⟩
  { assembled ⟨⟨.zero 20⟩, 6881⟩ ⟨.ipv4, ⟨.v4 (.zero 4), 6881⟩⟩ 1000 0 ⟨1⟩ with
    table := .run ((List.range' 16 9).map fun n => .insert 0 (node n)) (.empty .ipv4 ⟨.zero 20⟩)
    inflight := asked.map query }

/-- The oldest node of a full bucket, asked after its replacement, is gone. -/
theorem contains_expire_oldest :
    let stack := crowded [24, 16]
    stack.resolves .tracker .table = true ∧ stack.table.Reachable .ipv4 ⟨.zero 20⟩ ∧
      Id.ofNat 16 ∈ (stack.expire 1000).1.filterMap Query.remote ∧
      (stack.expire 1000).2.table.contains (.ofNat 16) = false := by
  intro stack
  have linked : stack.resolves .tracker .table = true := by decide
  have reached : stack.table.Reachable .ipv4 ⟨.zero 20⟩ := ⟨_, rfl⟩
  have mem : Id.ofNat 16 ∈ (stack.expire 1000).1.filterMap Query.remote := by decide +kernel
  obtain ⟨first, later, -, -, -, gone⟩ := contains_expire_iff linked reached mem
  exact ⟨linked, reached, mem, gone (by decide +kernel)⟩

/-- The replacement is in the table when it was asked before the oldest node, and
not when it was asked after it, though its query expires either way. -/
theorem contains_expire_replacement :
    (crowded [24, 16]).resolves .tracker .table = true ∧
      (crowded [24, 16]).table.Reachable .ipv4 ⟨.zero 20⟩ ∧
      Id.ofNat 24 ∈ ((crowded [24, 16]).expire 1000).1.filterMap Query.remote ∧
      ((crowded [24, 16]).expire 1000).2.table.contains (.ofNat 24) = true ∧
      Id.ofNat 24 ∈ ((crowded [16, 24]).expire 1000).1.filterMap Query.remote ∧
      ((crowded [16, 24]).expire 1000).2.table.contains (.ofNat 24) = false := by
  refine ⟨by decide, ⟨_, rfl⟩, ?_, ?_, ?_, ?_⟩
  · decide +kernel
  · decide +kernel
  · decide +kernel
  · decide +kernel

end Stack

end Kademlia
