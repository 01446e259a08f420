import Kademlia.Host.Command
import Kademlia.Proofs.Network.Traffic
import Kademlia.Proofs.Stack.Frame

/-!
# What commands leave as it is

Whatever a command does, its stack stays the node that it is, and no socket is
opened or closed.
-/

namespace Kademlia

/-- An execution that keeps the node that a stack is, and the sockets there are. -/
structure Execution.Keeps (done : Execution) (world : World) (stack : Stack) : Prop where
  stack : stack.Persists done.stack
  network : world.network.Traffic done.world.network

namespace Action

variable (world : World) (stack : Stack)

theorem keeps_silently {stack after : Stack} (persists : stack.Persists after) :
    (silently world after).Keeps world stack :=
  ⟨persists, .refl world.network⟩

theorem keeps_interact (client : Option ClientHandle) :
    (interact client world stack).Keeps world stack := by
  have persists := stack.persists_interact world.now world.entropy world.network
    (client.bind world.client?)
  have traffic := stack.traffic_interact world.now world.entropy world.network
    (client.bind world.client?)
  unfold interact
  generalize stack.interact world.now world.entropy world.network (client.bind world.client?) =
    round at persists traffic ⊢
  obtain ⟨entropy, network, served, after⟩ := round
  dsimp only
  split
  · exact ⟨persists, traffic⟩
  · exact ⟨persists, traffic⟩

theorem keeps_updateTokens : (updateTokens world stack).Keeps world stack := by
  unfold updateTokens
  obtain ⟨secrets, entropy⟩ := stack.secrets.rotate world.now world.entropy
  exact ⟨⟨rfl, rfl, rfl, rfl⟩, .refl world.network⟩

theorem keeps_save (path : String) : (save path world stack).Keeps world stack := by
  unfold save
  dsimp only
  split
  · exact ⟨.refl stack, .refl world.network⟩
  · exact ⟨.refl stack, .refl world.network⟩

theorem keeps_join (points : List EntryPoint) (bootstrap : Bool) :
    (join points bootstrap world stack).Keeps world stack := by
  unfold join
  dsimp only
  split
  · exact ⟨.refl stack, .refl world.network⟩
  · exact ⟨stack.persists_addTasks _ _, .refl world.network⟩

theorem keeps_execute (action : Action) : (action.execute world stack).Keeps world stack := by
  cases action with
  | interaction readiness client => exact keeps_interact world stack client
  | tokenUpdate interval => exact keeps_updateTokens world stack
  | bucketRefresh interval => exact keeps_silently world (stack.persists_addTasks _ _)
  | peerAnnounce interval => exact keeps_silently world ⟨rfl, rfl, rfl, rfl⟩
  | autoSave path interval => exact keeps_save world stack path
  | forcedBucketRefresh done =>
    cases done with
    | true => exact keeps_silently world (.refl stack)
    | false => exact keeps_silently world (stack.persists_addTasks _ _)
  | entryPoint points bootstrap done =>
    cases done with
    | true => exact keeps_silently world (.refl stack)
    | false => exact keeps_join world stack points bootstrap

theorem keeps_shutDown (action : Action) : (action.shutDown world stack).Keeps world stack := by
  cases action with
  | autoSave path interval => exact keeps_save world stack path
  | _ => exact keeps_silently world (.refl stack)

end Action

end Kademlia
