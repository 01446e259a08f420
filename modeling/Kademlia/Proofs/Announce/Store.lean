import Kademlia.Announce.Store

/-!
# What the store of announces keeps

Whatever is announced, asked for and purged, in whatever order and at whatever
times, no info hash has two entries and no peer is listed twice for one of them.
A peer that was just announced is the first one to be given.
-/

namespace Kademlia

namespace Recency

variable {κ ν : Type} [DecidableEq κ] {key : κ} {value : ν} {entries : List (κ × ν)}

theorem mem_of_lookup (found : entries.lookup key = some value) : (key, value) ∈ entries := by
  obtain ⟨before, after, parts, -⟩ := List.lookup_eq_some_iff.1 found
  rw [parts]
  exact List.mem_append_right before List.mem_cons_self

/-- A key that is used goes in front of the others. -/
theorem nodup_keys_cons_erase (distinct : (entries.map Prod.fst).Nodup) :
    (((key, value) :: erase key entries).map Prod.fst).Nodup := by
  rw [List.map_cons, List.nodup_cons]
  constructor
  · intro mem
    obtain ⟨entry, kept, same⟩ := List.mem_map.1 mem
    exact (mem_erase.1 kept).2 same
  · exact (List.filter_sublist.map Prod.fst).nodup distinct

theorem nodup_keys_put (capacity : Nat) (distinct : (entries.map Prod.fst).Nodup) :
    ((put capacity key value entries).map Prod.fst).Nodup :=
  ((List.take_sublist capacity _).map Prod.fst).nodup (nodup_keys_cons_erase distinct)

theorem nodup_keys_promote (distinct : (entries.map Prod.fst).Nodup) :
    ((promote key entries).map Prod.fst).Nodup := by
  unfold promote
  split
  · exact nodup_keys_cons_erase distinct
  · exact distinct

theorem mem_of_mem_put {capacity : Nat} {entry : κ × ν}
    (mem : entry ∈ put capacity key value entries) : entry = (key, value) ∨ entry ∈ entries := by
  rcases List.mem_cons.1 (List.mem_of_mem_take mem) with new | old
  · exact .inl new
  · exact .inr (mem_erase.1 old).1

theorem mem_of_mem_promote {entry : κ × ν} (mem : entry ∈ promote key entries) :
    entry ∈ entries := by
  unfold promote at mem
  split at mem
  · rename_i found
    rcases List.mem_cons.1 mem with rfl | old
    · exact mem_of_lookup found
    · exact (mem_erase.1 old).1
  · exact mem

/-- While there is room for anything, a key that is used is the first one. -/
theorem exists_put {capacity : Nat} (room : 0 < capacity) (key : κ) (value : ν)
    (entries : List (κ × ν)) :
    ∃ others, put capacity key value entries = (key, value) :: others := by
  cases capacity with
  | zero => exact absurd room (Nat.lt_irrefl 0)
  | succ capacity => exact ⟨_, rfl⟩

end Recency

namespace AnnounceStore

variable {store : AnnounceStore} {infoHash : InfoHash}

/-! ## The invariant -/

/-- What holds of every store: it has room, and neither the info hashes nor the
peers of any of them come twice. -/
structure WellFormed (store : AnnounceStore) : Prop where
  room : 0 < store.maxInfoHashes
  roomForPeers : 0 < store.maxPeers
  distinct : (store.announces.map Prod.fst).Nodup
  distinctPeers : ∀ entry ∈ store.announces, (entry.2.map Prod.fst).Nodup

theorem wellFormed_withCapacity {maxInfoHashes maxPeers : Nat} (room : 0 < maxInfoHashes)
    (roomForPeers : 0 < maxPeers) : (withCapacity maxInfoHashes maxPeers).WellFormed :=
  ⟨room, roomForPeers, List.nodup_nil, nofun⟩

namespace WellFormed

variable (wf : store.WellFormed)

include wf

theorem nodup_peersOf (infoHash : InfoHash) : ((store.peersOf infoHash).map Prod.fst).Nodup := by
  unfold peersOf
  cases found : store.announces.lookup infoHash with
  | none => exact List.nodup_nil
  | some peers => exact wf.distinctPeers (infoHash, peers) (Recency.mem_of_lookup found)

theorem add (now : Nat) (infoHash : InfoHash) (peer : Address) :
    (store.add now infoHash peer).WellFormed where
  room := wf.room
  roomForPeers := wf.roomForPeers
  distinct := Recency.nodup_keys_put _ wf.distinct
  distinctPeers := by
    intro entry mem
    rcases Recency.mem_of_mem_put mem with rfl | old
    · exact Recency.nodup_keys_put _ (wf.nodup_peersOf infoHash)
    · exact wf.distinctPeers entry old

theorem get (infoHash : InfoHash) : (store.get infoHash).2.WellFormed where
  room := wf.room
  roomForPeers := wf.roomForPeers
  distinct := Recency.nodup_keys_promote wf.distinct
  distinctPeers entry mem := wf.distinctPeers entry (Recency.mem_of_mem_promote mem)

theorem purge (now : Nat) : (store.purge now).WellFormed where
  room := wf.room
  roomForPeers := wf.roomForPeers
  distinct := by
    apply (List.filter_sublist.map Prod.fst).nodup
    rw [List.map_map]
    exact wf.distinct
  distinctPeers := by
    intro entry mem
    obtain ⟨old, listed, rfl⟩ := List.mem_map.1 (List.mem_filter.1 mem).1
    exact (List.filter_sublist.map Prod.fst).nodup (wf.distinctPeers old listed)

theorem want (infoHash : InfoHash) : (store.want infoHash).WellFormed := by
  unfold AnnounceStore.want
  split
  · exact wf
  · exact ⟨wf.room, wf.roomForPeers, wf.distinct, wf.distinctPeers⟩

end WellFormed

/-! ## Every store that can come about -/

/-- What can be done to a store. -/
inductive Operation
  | add (now : Nat) (infoHash : InfoHash) (peer : Address)
  | get (infoHash : InfoHash)
  | purge (now : Nat)
  | want (infoHash : InfoHash)
deriving DecidableEq

/-- A store after an operation. -/
def apply (store : AnnounceStore) : Operation → AnnounceStore
  | .add now infoHash peer => store.add now infoHash peer
  | .get infoHash => (store.get infoHash).2
  | .purge now => store.purge now
  | .want infoHash => store.want infoHash

/-- A store after some operations in order. -/
def run (operations : List Operation) (store : AnnounceStore) : AnnounceStore :=
  operations.foldl apply store

theorem WellFormed.apply (wf : store.WellFormed) (operation : Operation) :
    (store.apply operation).WellFormed := by
  cases operation with
  | add now infoHash peer => exact wf.add now infoHash peer
  | get infoHash => exact wf.get infoHash
  | purge now => exact wf.purge now
  | want infoHash => exact wf.want infoHash

theorem WellFormed.run (wf : store.WellFormed) (operations : List Operation) :
    (store.run operations).WellFormed := by
  induction operations generalizing store with
  | nil => exact wf
  | cons operation operations ih => exact ih (wf.apply operation)

/-- A store, of whatever capacity, that can come about. -/
def Reachable (store : AnnounceStore) : Prop :=
  ∃ maxInfoHashes maxPeers operations, 0 < maxInfoHashes ∧ 0 < maxPeers ∧
    store = run operations (withCapacity maxInfoHashes maxPeers)

theorem reachable_empty : empty.Reachable :=
  ⟨2000, 500, [], by decide, by decide, rfl⟩

namespace Reachable

variable (reached : store.Reachable)

include reached

theorem wellFormed : store.WellFormed := by
  obtain ⟨maxInfoHashes, maxPeers, operations, room, roomForPeers, rfl⟩ := reached
  exact (wellFormed_withCapacity room roomForPeers).run operations

theorem run (later : List Operation) : (store.run later).Reachable := by
  obtain ⟨maxInfoHashes, maxPeers, operations, room, roomForPeers, rfl⟩ := reached
  refine ⟨maxInfoHashes, maxPeers, operations ++ later, room, roomForPeers, ?_⟩
  rw [AnnounceStore.run, AnnounceStore.run, AnnounceStore.run, List.foldl_append]

end Reachable

/-! ## Who is listed -/

/-- A peer is listed for an info hash since its announce at some time. -/
def Lists (store : AnnounceStore) (infoHash : InfoHash) (peer : Address) (announcedAt : Nat) :
    Prop :=
  ∃ peers, (infoHash, peers) ∈ store.announces ∧ (peer, announcedAt) ∈ peers

section Lists

variable {now announcedAt : Nat} {other : InfoHash} {peer announced : Address}

theorem lists_of_mem_peersOf (mem : (peer, announcedAt) ∈ store.peersOf infoHash) :
    store.Lists infoHash peer announcedAt := by
  unfold peersOf at mem
  cases found : store.announces.lookup infoHash with
  | none =>
    rw [found] at mem
    exact absurd mem List.not_mem_nil
  | some peers =>
    rw [found] at mem
    exact ⟨peers, Recency.mem_of_lookup found, mem⟩

/-- What is listed after an announce is the peer that announced itself, or was listed
before. -/
theorem Lists.of_add (listed : (store.add now other announced).Lists infoHash peer announcedAt) :
    (infoHash = other ∧ peer = announced ∧ announcedAt = now) ∨
      store.Lists infoHash peer announcedAt := by
  obtain ⟨peers, entry, mem⟩ := listed
  rcases Recency.mem_of_mem_put entry with new | old
  · obtain ⟨rfl, rfl⟩ := Prod.mk.inj new
    rcases Recency.mem_of_mem_put mem with latest | earlier
    · obtain ⟨rfl, rfl⟩ := Prod.mk.inj latest
      exact .inl ⟨rfl, rfl, rfl⟩
    · exact .inr (lists_of_mem_peersOf earlier)
  · exact .inr ⟨peers, old, mem⟩

theorem Lists.of_get (listed : (store.get other).2.Lists infoHash peer announcedAt) :
    store.Lists infoHash peer announcedAt := by
  obtain ⟨peers, entry, mem⟩ := listed
  exact ⟨peers, Recency.mem_of_mem_promote entry, mem⟩

theorem Lists.of_purge (listed : (store.purge now).Lists infoHash peer announcedAt) :
    store.Lists infoHash peer announcedAt := by
  obtain ⟨peers, entry, mem⟩ := listed
  obtain ⟨⟨_, earlier⟩, old, same⟩ := List.mem_map.1 (List.mem_filter.1 entry).1
  obtain ⟨rfl, rfl⟩ := Prod.mk.inj same
  exact ⟨earlier, old, (List.mem_filter.1 mem).1⟩

theorem Lists.of_want (listed : (store.want other).Lists infoHash peer announcedAt) :
    store.Lists infoHash peer announcedAt := by
  unfold want at listed
  split at listed
  · exact listed
  · exact listed

/-- Who is listed after some operations was before, or one of them was its announce. -/
theorem Lists.of_run {operations : List Operation}
    (listed : (store.run operations).Lists infoHash peer announcedAt) :
    store.Lists infoHash peer announcedAt ∨ .add announcedAt infoHash peer ∈ operations := by
  induction operations generalizing store with
  | nil => exact .inl listed
  | cons operation operations ih =>
    rcases ih listed with first | later
    · cases operation with
      | add now other announced =>
        rcases first.of_add with ⟨rfl, rfl, rfl⟩ | before
        · exact .inr List.mem_cons_self
        · exact .inl before
      | get other => exact .inl first.of_get
      | purge now => exact .inl first.of_purge
      | want other => exact .inl first.of_want
    · exact .inr (List.mem_cons_of_mem operation later)

/-- A peer that announced itself is listed. -/
theorem WellFormed.lists_add (wf : store.WellFormed) (now : Nat) (infoHash : InfoHash)
    (peer : Address) : (store.add now infoHash peer).Lists infoHash peer now := by
  obtain ⟨others, latest⟩ :=
    Recency.exists_put wf.roomForPeers peer now (store.peersOf infoHash)
  obtain ⟨rest, first⟩ := Recency.exists_put wf.room infoHash
    (Recency.put store.maxPeers peer now (store.peersOf infoHash)) store.announces
  refine ⟨_, by rw [AnnounceStore.add, first]; exact List.mem_cons_self, ?_⟩
  rw [latest]
  exact List.mem_cons_self

/-- Who is given for an info hash is listed for it. -/
theorem exists_lists_of_mem_get (given : peer ∈ (store.get infoHash).1) :
    ∃ announcedAt, store.Lists infoHash peer announcedAt := by
  obtain ⟨⟨_, announcedAt⟩, taken, rfl⟩ := List.mem_map.1 given
  exact ⟨announcedAt, lists_of_mem_peersOf (List.mem_of_mem_take taken)⟩

end Lists

/-! ## Asking after an announce -/

/-- Once a peer is announced it is given first, and no peer is given twice or
beyond the bound. -/
theorem WellFormed.exists_get_add (wf : store.WellFormed) (now : Nat) (infoHash : InfoHash)
    (peer : Address) :
    ∃ others, ((store.add now infoHash peer).get infoHash).1 = peer :: others ∧
      (peer :: others).Nodup ∧ (peer :: others).length ≤ maxGiven := by
  have announced : (store.add now infoHash peer).peersOf infoHash =
      Recency.put store.maxPeers peer now (store.peersOf infoHash) := by
    rw [peersOf, AnnounceStore.add, Recency.lookup_put wf.room]
    rfl
  have distinct := (wf.add now infoHash peer).nodup_peersOf infoHash
  obtain ⟨others, first⟩ :=
    Recency.exists_put wf.roomForPeers peer now (store.peersOf infoHash)
  rw [announced, first] at distinct
  have given : ((store.add now infoHash peer).get infoHash).1 =
      peer :: (others.take (maxGiven - 1)).map Prod.fst := by
    rw [AnnounceStore.get, announced, first]
    rfl
  refine ⟨_, given, ?_, ?_⟩
  · exact ((List.take_sublist maxGiven _).map Prod.fst).nodup distinct
  · rw [← given, AnnounceStore.get, List.length_map]
    exact List.length_take_le maxGiven _

end AnnounceStore

end Kademlia
