import Kademlia.Proofs.Network.Binding
import Kademlia.Proofs.Network.Traffic

/-!
# Handles to sockets

An address is bound as long as there are handles to it.  Opening one more adds one, closing
one takes one away, and nothing else that happens on a network changes how many there are.
-/

namespace Kademlia.Network

variable {network before after : Network} {address other : Address}

/-- How many handles there are to an address. -/
def handles (network : Network) (address : Address) : Nat :=
  ((network.channel? address).map Channel.handles).getD 0

/-- No address is bound without a handle. -/
def Held (network : Network) : Prop :=
  ∀ address channel, network.channel? address = some channel → 0 < channel.handles

theorem held_empty : empty.Held :=
  nofun

theorem Held.isBound_iff (held : network.Held) :
    network.isBound address = true ↔ 0 < network.handles address := by
  rw [isBound, handles]
  cases found : network.channel? address with
  | none => exact iff_of_false Bool.false_ne_true (Nat.lt_irrefl 0)
  | some channel => exact iff_of_true rfl (held address channel found)

/-! ## What leaves the handles as they are -/

theorem lookup_sockets (network : Network) (address : Address) :
    network.sockets.lookup address = (network.channel? address).map Channel.handles := by
  rw [sockets, channel?]
  induction network.channels with
  | nil => rfl
  | cons entry channels ih =>
    obtain ⟨bound, channel⟩ := entry
    rw [List.map_cons]
    by_cases here : address = bound
    · rw [here, List.lookup_cons_self, List.lookup_cons_self]
      rfl
    · rw [Association.lookup_cons_of_ne here, Association.lookup_cons_of_ne here, ih]

/-- Networks with the same sockets have the same handles. -/
theorem handles_congr (same : after.sockets = before.sockets) (address : Address) :
    after.handles address = before.handles address := by
  rw [handles, handles, ← lookup_sockets, ← lookup_sockets, same]

theorem held_congr (same : after.sockets = before.sockets) (held : before.Held) : after.Held := by
  intro address channel found
  have handles : (after.channel? address).map Channel.handles =
      (before.channel? address).map Channel.handles := by
    rw [← lookup_sockets, ← lookup_sockets, same]
  rw [found, Option.map_some, eq_comm, Option.map_eq_some_iff] at handles
  obtain ⟨earlier, there, equal⟩ := handles
  rw [← equal]
  exact held address earlier there

theorem Tried.sockets (tried : Tried before after) : after.sockets = before.sockets := by
  rw [Network.sockets, Network.sockets, tried.channels]

/-! ## Opening and closing -/

theorem channel?_acquire (network : Network) (address other : Address) :
    (network.acquire address).channel? other =
      if other = address then
        some (((network.channel? other).map fun channel =>
          { channel with handles := channel.handles + 1 }).getD ⟨1, []⟩)
      else network.channel? other := by
  unfold acquire
  split
  · rename_i bound
    rw [channel?_modify]
    split
    · rename_i here
      rw [here]
      obtain ⟨channel, found⟩ := Option.isSome_iff_exists.1 bound
      rw [found]
      rfl
    · rfl
  · rename_i unbound
    have absent : network.channel? address = none :=
      Option.not_isSome_iff_eq_none.1 unbound
    change (network.channels ++ [(address, (⟨1, []⟩ : Channel))]).lookup other = _
    rw [List.lookup_append]
    split
    · rename_i here
      rw [here, List.lookup_cons_self]
      change (network.channel? address).or _ = _
      rw [absent]
      rfl
    · rename_i elsewhere
      rw [Association.lookup_cons_of_ne elsewhere, List.lookup_nil, Option.or_none]
      rfl

theorem handles_acquire (network : Network) (address other : Address) :
    (network.acquire address).handles other =
      if other = address then network.handles other + 1 else network.handles other := by
  rw [handles, channel?_acquire, handles]
  split
  · cases network.channel? other with
    | none => rfl
    | some channel => rfl
  · rfl

theorem handles_acquire_eq_add (network : Network) (address other : Address) :
    (network.acquire address).handles other = network.handles other + [address].count other := by
  rw [handles_acquire, List.count_singleton]
  by_cases here : other = address
  · rw [if_pos here, here, beq_self_eq_true, if_pos rfl]
  · rw [if_neg here, beq_eq_false_iff_ne.2 (Ne.symm here), if_neg Bool.false_ne_true, Nat.add_zero]

theorem Held.acquire (held : network.Held) (address : Address) :
    (network.acquire address).Held := by
  intro other channel found
  rw [channel?_acquire] at found
  split at found
  · cases there : network.channel? other with
    | none =>
      rw [there] at found
      cases found
      exact Nat.one_pos
    | some earlier =>
      rw [there] at found
      cases found
      exact Nat.succ_pos _
  · exact held other channel found

theorem channel?_release (network : Network) (address other : Address) :
    (network.release address).channel? other =
      if other = address then
        ((network.channel? other).map fun channel =>
          { channel with handles := channel.handles - 1 }).filter (0 < ·.handles)
      else network.channel? other := by
  unfold release
  split
  · rename_i absent
    split
    · rename_i here
      rw [here, absent]
      rfl
    · rfl
  · rename_i channel found
    split
    · rename_i last
      refine (Association.lookup_filter_ne address network.channels other).trans ?_
      split
      · rename_i here
        have last : ¬ 0 < channel.handles - 1 := by omega
        rw [here, found, Option.map_some, Option.filter_some, if_neg (by simpa using last)]
      · rfl
    · rename_i more
      rw [channel?_modify]
      split
      · rename_i here
        have more : 0 < channel.handles - 1 := by omega
        rw [here, found, Option.map_some, Option.filter_some, if_pos (by simpa using more)]
      · rfl

theorem handles_release (network : Network) (address other : Address) :
    (network.release address).handles other =
      if other = address then network.handles other - 1 else network.handles other := by
  rw [handles, channel?_release, handles]
  split
  · cases network.channel? other with
    | none => rfl
    | some channel =>
      rw [Option.map_some, Option.filter_some, Option.map_some]
      split
      · rfl
      · rename_i last
        have last : ¬ 0 < channel.handles - 1 := by simpa using last
        exact (Nat.eq_zero_of_not_pos last).symm
  · rfl

theorem Held.release (held : network.Held) (address : Address) :
    (network.release address).Held := by
  intro other channel found
  rw [channel?_release] at found
  split at found
  · have kept := (Option.filter_eq_some_iff.1 found).2
    simpa using kept
  · exact held other channel found

/-- Closing handles takes away one for each time that an address is named. -/
theorem handles_releaseAll (addresses : List Address) (network : Network) (other : Address) :
    (addresses.foldl release network).handles other =
      network.handles other - addresses.count other := by
  induction addresses generalizing network with
  | nil => rfl
  | cons address addresses ih =>
    rw [List.foldl_cons, ih, handles_release, List.count_cons]
    by_cases here : other = address
    · rw [if_pos here, if_pos (by simp [here])]
      omega
    · rw [if_neg here, if_neg (by simpa using Ne.symm here), Nat.add_zero]

theorem Held.releaseAll (held : network.Held) (addresses : List Address) :
    (addresses.foldl Network.release network).Held := by
  induction addresses generalizing network with
  | nil => exact held
  | cons address addresses ih => exact ih (held.release address)

/-- A further handle to an address that is bound is one more. -/
theorem eq_acquire_of_clone (bound : network.isBound address = true)
    (cloned : network.clone address = .ok after) : after = network.acquire address := by
  unfold clone at cloned
  rw [if_pos bound] at cloned
  split at cloned
  · cases cloned
  · cases cloned
    rfl

end Kademlia.Network
