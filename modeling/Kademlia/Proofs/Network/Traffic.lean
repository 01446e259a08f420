import Kademlia.Proofs.Association
import Kademlia.Proofs.Stack.Send
import Kademlia.Stack.Interact

/-!
# Traffic

Datagrams that come and go change what waits at the sockets of a network, and
nothing else.  So a round of a stack opens no socket and closes none.
-/

namespace Kademlia

namespace Network

/-- The addresses that are bound, with how many handles keep each of them. -/
def sockets (network : Network) : List (Address × Nat) :=
  network.channels.map fun (address, channel) => (address, channel.handles)

/-- A network that another one may have become by datagrams alone. -/
structure Traffic (before after : Network) : Prop where
  sockets : after.sockets = before.sockets
  attempted : after.attempted = before.attempted
  refusesClones : after.refusesClones = before.refusesClones
  ephemeral : after.ephemeral = before.ephemeral

namespace Traffic

variable {before between after : Network}

theorem refl (network : Network) : Traffic network network :=
  ⟨rfl, rfl, rfl, rfl⟩

theorem trans (first : Traffic before between) (second : Traffic between after) :
    Traffic before after :=
  ⟨second.sockets.trans first.sockets, second.attempted.trans first.attempted,
    second.refusesClones.trans first.refusesClones, second.ephemeral.trans first.ephemeral⟩

end Traffic

/-- Changing what waits at an address is traffic. -/
theorem traffic_modify (network : Network) (address : Address) {change : Channel → Channel}
    (keeps : ∀ channel, (change channel).handles = channel.handles) :
    Traffic network (network.modify address change) := by
  refine ⟨?_, rfl, rfl, rfl⟩
  rw [sockets, sockets, modify, List.map_map]
  apply List.map_congr_left
  rintro ⟨bound, channel⟩ _
  dsimp only [Function.comp_apply]
  split
  · rw [keeps]
  · rfl

theorem traffic_deliver (network : Network) (source destination : Address) (bytes : Bytes) :
    Traffic network (network.deliver source destination bytes) :=
  network.traffic_modify destination fun _ => rfl

theorem traffic_deliverAll (network : Network) (source : Address)
    (datagrams : List (Address × Bytes)) :
    Traffic network (network.deliverAll source datagrams) := by
  induction datagrams generalizing network with
  | nil => exact .refl network
  | cons datagram datagrams ih => exact (network.traffic_deliver source _ _).trans (ih _)

theorem traffic_receive (network : Network) (address : Address) (size : Nat) :
    Traffic network (network.receive address size).2 := by
  unfold receive
  split
  · exact .refl network
  · split
    · exact .refl network
    · dsimp only
      exact network.traffic_modify address fun _ => rfl

/-! ## What waits where -/

/-- What waits at an address that is bound. -/
def Waits (network : Network) (address : Address) (waiting : List Datagram) : Prop :=
  ∃ handles, network.channel? address = some ⟨handles, waiting⟩

/-- What is bound at one address can be changed alone. -/
theorem channel?_modify (network : Network) (address : Address) (change : Channel → Channel)
    (other : Address) :
    (network.modify address change).channel? other =
      if other = address then (network.channel? other).map change
      else network.channel? other := by
  rw [channel?, modify,
    Association.lookup_map (fun bound channel => if bound = address then change channel else channel)]
  split
  · rfl
  · rw [Option.map_id']
    rfl

/-- The datagrams among some that are for an address, as they wait there. -/
def arriving (source destination : Address) (datagrams : List (Address × Bytes)) : List Datagram :=
  (datagrams.filter (·.1 = destination)).map fun (_, bytes) => ⟨bytes, source⟩

/-- Datagrams that are delivered wait behind those that were there. -/
theorem channel?_deliverAll (network : Network) (source : Address)
    (datagrams : List (Address × Bytes)) (address : Address) :
    (network.deliverAll source datagrams).channel? address =
      (network.channel? address).map fun channel =>
        { channel with waiting := channel.waiting ++ arriving source address datagrams } := by
  induction datagrams generalizing network with
  | nil => simp [deliverAll, arriving]
  | cons datagram datagrams ih =>
    obtain ⟨destination, bytes⟩ := datagram
    have others := ih (network.deliver source destination bytes)
    rw [deliver, channel?_modify] at others
    refine others.trans ?_
    split
    · rename_i here
      rw [Option.map_map, arriving, arriving, List.filter_cons_of_pos (by simp [here])]
      simp [Function.comp_def]
    · rename_i elsewhere
      rw [arriving, arriving, List.filter_cons_of_neg (by simpa using Ne.symm elsewhere)]

end Network

theorem Connection.traffic_receive (connection : Connection) (network : Network) (size : Nat) :
    network.Traffic (connection.receive network size).2 := by
  have read := network.traffic_receive connection.localAddress size
  unfold receive
  split
  all_goals
    rename_i outcome
    rw [outcome] at read
    exact read

namespace Stack

theorem traffic_receive (stack : Stack) (now : Nat) (network : Network) :
    network.Traffic (stack.receive now network).2.1 := by
  have read := stack.connection.traffic_receive network mtu
  unfold receive
  split
  · exact .refl network
  · split
    all_goals
      rename_i outcome
      rw [outcome] at read
      exact read

theorem traffic_drain (now budget : Nat) (network : Network) (client : Option TrackerClient)
    (stack : Stack) : network.Traffic (drain now budget network client stack).1 := by
  induction budget generalizing network client stack with
  | zero => exact .refl network
  | succ budget ih =>
    have received := stack.traffic_receive now network
    unfold drain
    split
    all_goals
      rename_i outcome
      rw [outcome] at received
    · exact received
    · exact received
    · exact received.trans (ih _ _ _)
    · exact received.trans (ih _ _ _)

theorem traffic_sendAll (stack : Stack) (now : Nat) (network : Network) :
    network.Traffic (stack.sendAll now network).2.1 := by
  rw [sendAll_network]
  exact network.traffic_deliverAll _ _

/-- A whole round is traffic. -/
theorem traffic_interact (stack : Stack) (now : Nat) (entropy : Entropy) (network : Network)
    (client : Option TrackerClient) :
    network.Traffic (stack.interact now entropy network client).2.1 := by
  have received := traffic_drain now maxReceived network client stack
  unfold interact
  generalize drain now maxReceived network client stack = drained at received ⊢
  obtain ⟨rest, client, stack⟩ := drained
  exact received.trans (traffic_sendAll _ now rest)

end Stack

end Kademlia
