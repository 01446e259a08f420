import Kademlia.Announce.Recency
import Kademlia.Id

/-!
# Announced peers

For each info hash the peers that announced it are kept with the time of their
last announce.  Both the info hashes and the peers of each are bounded by how
recently they were used.
-/

namespace Kademlia

/-- The peers of info hashes, most recently used first, and the info hashes that
this node looks for itself. -/
structure AnnounceStore where
  maxInfoHashes : Nat
  maxPeers : Nat
  announces : List (InfoHash × List (Address × Nat))
  wanted : List InfoHash
deriving DecidableEq

namespace AnnounceStore

/-- How long an announce counts, in milliseconds. -/
def lifetime : Nat :=
  30 * 60 * 1000

/-- How many peers are given at once. -/
def maxGiven : Nat :=
  50

/-- A store for some numbers of info hashes and of peers of each. -/
def withCapacity (maxInfoHashes maxPeers : Nat) : AnnounceStore :=
  ⟨maxInfoHashes, maxPeers, [], []⟩

/-- An empty store. -/
def empty : AnnounceStore :=
  withCapacity 2000 500

/-- The announces for an info hash, the latest first. -/
def peersOf (store : AnnounceStore) (infoHash : InfoHash) : List (Address × Nat) :=
  (store.announces.lookup infoHash).getD []

/-- Records an announce. -/
def add (store : AnnounceStore) (now : Nat) (infoHash : InfoHash) (peer : Address) :
    AnnounceStore :=
  let peers := Recency.put store.maxPeers peer now (store.peersOf infoHash)
  { store with announces := Recency.put store.maxInfoHashes infoHash peers store.announces }

/-- The peers that announced an info hash last; asking for it uses it. -/
def get (store : AnnounceStore) (infoHash : InfoHash) : List Address × AnnounceStore :=
  (((store.peersOf infoHash).take maxGiven).map Prod.fst,
    { store with announces := Recency.promote infoHash store.announces })

/-- Whether an announce no longer counts. -/
def isExpired (now announcedAt : Nat) : Bool :=
  lifetime ≤ now - announcedAt

/-- Forgets announces that no longer count, and info hashes left without any. -/
def purge (store : AnnounceStore) (now : Nat) : AnnounceStore :=
  let current :=
    store.announces.map fun (infoHash, peers) =>
      (infoHash, peers.filter fun (_, announcedAt) => !isExpired now announcedAt)
  { store with announces := current.filter fun (_, peers) => !peers.isEmpty }

/-- Marks an info hash as looked for. -/
def want (store : AnnounceStore) (infoHash : InfoHash) : AnnounceStore :=
  if infoHash ∈ store.wanted then store
  else { store with wanted := infoHash :: store.wanted }

/-- Whether an info hash is looked for. -/
def isWanted (store : AnnounceStore) (infoHash : InfoHash) : Bool :=
  infoHash ∈ store.wanted

/-- How many info hashes have peers. -/
def infoHashCount (store : AnnounceStore) : Nat :=
  store.announces.length

/-- How many announces there are. -/
def peerCount (store : AnnounceStore) : Nat :=
  store.announces.foldl (fun count (_, peers) => count + peers.length) 0

end AnnounceStore

end Kademlia
