import Kademlia.Proofs.Table.Reload
import Kademlia.Stack.Basic

/-!
# Nodes that a stack adds to its table

A node that the table stores goes into the table, and nothing else happens; only
one that has to wait may queue a task.
-/

namespace Kademlia.Stack

variable {stack : Stack} {now : Nat} {node : Node} {nodes : List Node}

/-- Adding a node changes nothing but the table and the tasks. -/
theorem addNode_frame (stack : Stack) (now : Nat) (node : Node) :
    ∃ tasks, (stack.addNode now node).2 =
      { stack with table := (stack.table.insert now node).2, tasks } := by
  unfold addNode
  rcases stack.table.insert now node with ⟨_ | _ | oldest, table⟩
  · exact ⟨stack.tasks, rfl⟩
  · exact ⟨stack.tasks, rfl⟩
  · dsimp only
    split
    · exact ⟨_, rfl⟩
    · exact ⟨stack.tasks, rfl⟩

/-- A node that is stored queues no task. -/
theorem addNode_of_stored (stored : (stack.table.insert now node).1 = .stored) :
    (stack.addNode now node).2 = { stack with table := (stack.table.insert now node).2 } := by
  unfold addNode
  generalize stack.table.insert now node = result at stored
  obtain ⟨insertion, table⟩ := result
  cases stored
  rfl

/-- A stack that added nodes in order. -/
def addNodes (stack : Stack) (now : Nat) (nodes : List Node) : Stack :=
  nodes.foldl (fun stack node => (stack.addNode now node).2) stack

/-- Nodes that the table takes in one after another queue no task. -/
theorem addNodes_eq (admits : stack.table.Admits nodes) (now : Nat) :
    stack.addNodes now nodes = { stack with table := stack.table.insertAll now nodes } := by
  induction nodes generalizing stack with
  | nil => rfl
  | cons node nodes ih =>
    have first := addNode_of_stored (admits.stored now)
    have others : (stack.addNode now node).2.table.Admits nodes := by
      rw [first]
      exact admits.insert now
    calc
      stack.addNodes now (node :: nodes) = (stack.addNode now node).2.addNodes now nodes := rfl
      _ = { (stack.addNode now node).2 with
            table := (stack.addNode now node).2.table.insertAll now nodes } := ih others
      _ = { stack with table := stack.table.insertAll now (node :: nodes) } := by
        rw [first]
        rfl

end Kademlia.Stack
