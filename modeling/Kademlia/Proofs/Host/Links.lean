import Kademlia.Host.Links
import Kademlia.Proofs.Stack.Frame

/-!
# Commands by their links

On a stack that is whole the links of a command give all their parts, and executing it by
them is what executing it is.  Where a part that the command needs is gone, and all the more
where the stack is, it does nothing at all.
-/

namespace Kademlia.Action

variable {stack : Stack}

theorem needs_ne_nil (action : Action) : action.needs ≠ [] := by
  cases action <;> exact List.cons_ne_nil _ _

/-! ## Whole stacks -/

theorem finds_of_whole (whole : stack.gone = []) (action : Action) (targets : List Part) :
    action.finds (some stack) targets = true := by
  rw [finds, List.all_eq_true]
  intro target _
  rw [link, Link.get_wiredTo, Option.bind_some, Stack.owned, Stack.has, whole]
  rfl

theorem visit_of_whole (whole : stack.gone = []) (action : Action) (world : World)
    (way : World → Stack → Execution) :
    action.visit world (some stack) way = .ofExecution (way world stack) := by
  unfold visit
  rw [finds_of_whole whole]

/-- No part goes while a round is under way, so none of its steps is left out. -/
theorem interactByLinks_of_whole (whole : stack.gone = []) (readiness : Address)
    (client : Option ClientHandle) (world : World) :
    (interaction readiness client).interactByLinks world stack = interact client world stack := by
  have drained := Stack.persists_drain world.now Stack.maxReceived world.network
    (client.bind world.client?) stack
  unfold interactByLinks interact Stack.interact
  rw [client?]
  generalize Stack.drain world.now Stack.maxReceived world.network (client.bind world.client?)
    stack = received at drained ⊢
  obtain ⟨network, served, afterDrain⟩ := received
  dsimp only at drained ⊢
  have whole := drained.gone.trans whole
  have worked := afterDrain.persists_runReady world.now world.entropy
  rw [if_pos (finds_of_whole whole _ _)]
  generalize afterDrain.runReady world.now world.entropy = work at worked ⊢
  obtain ⟨outcomes, entropy, afterTasks⟩ := work
  dsimp only at worked ⊢
  have whole := worked.gone.trans whole
  have expired := afterTasks.persists_expire world.now
  rw [if_pos (finds_of_whole whole _ _), if_pos (finds_of_whole (expired.gone.trans whole) _ _)]
  cases client with
  | none => rfl
  | some handle =>
    cases served with
    | none => rfl
    | some served => rfl

theorem executeByLinks_of_whole (whole : stack.gone = []) (action : Action) (world : World) :
    action.executeByLinks world (some stack) = .ofExecution (action.execute world stack) := by
  have visited (way : World → Stack → Execution) := visit_of_whole whole action world way
  cases action with
  | interaction readiness client =>
    exact (visited _).trans
      (congrArg Visit.ofExecution (interactByLinks_of_whole whole readiness client world))
  | tokenUpdate interval => exact visited _
  | bucketRefresh interval => exact visited _
  | peerAnnounce interval => exact visited _
  | autoSave path interval => exact visited _
  | forcedBucketRefresh done =>
    cases done with
    | true => rfl
    | false => exact visited _
  | entryPoint points bootstrap done =>
    cases done with
    | true => rfl
    | false => exact visited _

theorem shutDownByLinks_of_whole (whole : stack.gone = []) (action : Action) (world : World) :
    action.shutDownByLinks world (some stack) = .ofExecution (action.shutDown world stack) := by
  cases action with
  | autoSave path interval => exact visit_of_whole whole _ world _
  | _ => rfl

/-! ## Lost parts -/

theorem visit_of_lost {action : Action} {stack : Option Stack}
    (lost : action.finds stack action.needs = false) (world : World)
    (way : World → Stack → Execution) : action.visit world stack way = .idle world stack := by
  unfold visit
  rw [lost]
  cases stack with
  | none => rfl
  | some stack => rfl

/-- Without its parts a command does nothing when it is executed. -/
theorem executeByLinks_of_lost {action : Action} {stack : Option Stack}
    (lost : action.finds stack action.needs = false) (world : World) :
    action.executeByLinks world stack = .idle world stack := by
  have visited (way : World → Stack → Execution) := visit_of_lost lost world way
  unfold executeByLinks
  split
  · rfl
  · cases action with
    | _ => exact visited _

/-- Without its parts a command does nothing when its host shuts down. -/
theorem shutDownByLinks_of_lost {action : Action} {stack : Option Stack}
    (lost : action.finds stack action.needs = false) (world : World) :
    action.shutDownByLinks world stack = .idle world stack := by
  cases action with
  | autoSave path interval => exact visit_of_lost lost world _
  | _ => rfl

/-- Links into a stack that is gone give nothing. -/
theorem finds_none (action : Action) : action.finds none action.needs = false := by
  obtain ⟨target, more, needs⟩ := List.exists_cons_of_ne_nil action.needs_ne_nil
  rw [needs]
  rfl

end Kademlia.Action
