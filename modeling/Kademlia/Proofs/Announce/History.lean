import Kademlia.Proofs.Announce.Course
import Mathlib.Data.Finset.Card

/-!
# What the store of announces keeps, told from what happened

Who is listed can be told from the events alone: whoever was announced and did not leave
with its info hash, was not followed by too many others and did not expire.  The order of
the store is what carries this: its info hashes are in the order of their latest use, and
the peers of each are the first of all that were announced for it, the latest first.
-/

namespace Kademlia

namespace AnnounceStore

variable {store : AnnounceStore} {now announcedAt : Nat} {infoHash : InfoHash}
  {peer : Address} {peers : List (Address × Nat)}

/-! ## Single stores -/

theorem WellFormed.peersOf_eq (wf : store.WellFormed)
    (entry : (infoHash, peers) ∈ store.announces) : store.peersOf infoHash = peers := by
  rw [peersOf, (Recency.lookup_eq_some_iff wf.distinct).2 entry]
  rfl

theorem WellFormed.lists_iff (wf : store.WellFormed) :
    store.Lists infoHash peer announcedAt ↔ (peer, announcedAt) ∈ store.peersOf infoHash := by
  constructor
  · rintro ⟨peers, entry, mem⟩
    rw [wf.peersOf_eq entry]
    exact mem
  · exact lists_of_mem_peersOf

theorem WellFormed.lists_unique (wf : store.WellFormed) {other : Nat}
    (one : store.Lists infoHash peer announcedAt) (another : store.Lists infoHash peer other) :
    announcedAt = other := by
  have distinct := wf.nodup_peersOf infoHash
  have first := (Recency.lookup_eq_some_iff distinct).2 (wf.lists_iff.1 one)
  have second := (Recency.lookup_eq_some_iff distinct).2 (wf.lists_iff.1 another)
  exact Option.some.inj (first.symm.trans second)

theorem peersOf_add (room : 0 < store.maxInfoHashes) (now : Nat) (infoHash : InfoHash)
    (peer : Address) : (store.add now infoHash peer).peersOf infoHash =
      Recency.put store.maxPeers peer now (store.peersOf infoHash) := by
  rw [peersOf, add, Recency.lookup_put room]
  rfl

theorem WellFormed.lists_get_iff (wf : store.WellFormed) (asked : InfoHash) :
    (store.get asked).2.Lists infoHash peer announcedAt ↔
      store.Lists infoHash peer announcedAt := by
  simp only [Lists, AnnounceStore.get, Recency.mem_promote_iff wf.distinct]

/-- What is purged is what no longer counts. -/
theorem lists_purge_iff : (store.purge now).Lists infoHash peer announcedAt ↔
    store.Lists infoHash peer announcedAt ∧ now - announcedAt < lifetime := by
  constructor
  · intro listed
    refine ⟨listed.of_purge, ?_⟩
    obtain ⟨peers, entry, mem⟩ := listed
    obtain ⟨old, -, same⟩ := List.mem_map.1 (List.mem_filter.1 entry).1
    obtain ⟨-, rfl⟩ := Prod.mk.inj same
    simpa [isExpired] using (List.mem_filter.1 mem).2
  · rintro ⟨⟨peers, entry, mem⟩, young⟩
    have current : (peer, announcedAt) ∈ peers.filter fun entry => !isExpired now entry.2 := by
      apply List.mem_filter.2
      exact ⟨mem, by simpa [isExpired] using young⟩
    refine ⟨_, List.mem_filter.2 ⟨List.mem_map_of_mem entry, ?_⟩, current⟩
    simpa using List.ne_nil_of_mem current

/-- Peers of an info hash are the first of all that were announced for it, the latest
first, no more than there may be. -/
structure Recent (capacity now : Nat) (all : List Address) (peers : List (Address × Nat)) :
    Prop where
  isFirst : peers.map Prod.fst <+: all
  bounded : peers.length ≤ capacity
  sorted : peers.Pairwise fun newer older => older.2 ≤ newer.2
  past : ∀ entry ∈ peers, entry.2 ≤ now

namespace Recent

variable {capacity : Nat} {all : List Address}

theorem nil (capacity now : Nat) (all : List Address) : Recent capacity now all [] :=
  ⟨List.nil_prefix, Nat.zero_le _, List.Pairwise.nil, nofun⟩

theorem put (recent : Recent capacity now all peers) (peer : Address) :
    Recent capacity now (Recency.touch peer all) (Recency.put capacity peer now peers) where
  isFirst := by
    rw [Recency.keys_put]
    exact (List.take_prefix _ _).trans (Recency.touch_prefix peer recent.isFirst)
  bounded := Recency.length_put_le _ _ _ _
  sorted := by
    apply List.Pairwise.sublist (List.take_sublist _ _)
    apply List.pairwise_cons.2
    constructor
    · intro entry mem
      exact recent.past entry (Recency.mem_erase.1 mem).1
    · exact recent.sorted.sublist List.filter_sublist
  past := by
    intro entry mem
    rcases Recency.mem_of_mem_put mem with rfl | old
    · exact Nat.le_refl now
    · exact recent.past entry old

theorem purge (recent : Recent capacity now all peers) :
    Recent capacity now all (peers.filter fun (_, announcedAt) => !isExpired now announcedAt) where
  isFirst := by
    apply List.IsPrefix.trans (List.IsPrefix.map _ (Recency.filter_prefix _)) recent.isFirst
    apply recent.sorted.imp
    intro newer older earlier young
    simp only [isExpired, Bool.not_eq_true', decide_eq_false_iff_not] at young ⊢
    omega
  bounded := (List.length_filter_le _ _).trans recent.bounded
  sorted := recent.sorted.sublist List.filter_sublist
  past entry mem := recent.past entry (List.mem_filter.1 mem).1

theorem mono (recent : Recent capacity now all peers) {later : Nat} (onward : now ≤ later) :
    Recent capacity later all peers :=
  ⟨recent.isFirst, recent.bounded, recent.sorted,
    fun entry mem => (recent.past entry mem).trans onward⟩

/-- A peer stays while fewer than there may be were announced after it. -/
theorem mem_put (recent : Recent capacity now all peers) {announced : Address}
    {newer older : List Address} (parts : Recency.touch announced all = newer ++ peer :: older)
    (fresh : peer ∉ newer) (few : newer.length < capacity) (different : peer ≠ announced)
    (distinct : (peers.map Prod.fst).Nodup) (mem : (peer, announcedAt) ∈ peers) :
    (peer, announcedAt) ∈ Recency.put capacity announced now peers := by
  have first := Recency.touch_prefix announced recent.isFirst
  rw [parts] at first
  have known : peer ∈ Recency.touch announced (peers.map Prod.fst) :=
    Recency.mem_touch.2 (.inr (List.mem_map_of_mem mem))
  have kept := Recency.mem_take_of_mem first known fresh few
  rw [← Recency.keys_put _ _ now] at kept
  obtain ⟨⟨_, time⟩, entry, rfl⟩ := List.mem_map.1 kept
  rcases Recency.mem_of_mem_put entry with new | old
  · exact absurd (congrArg Prod.fst new) different
  · have same := (Recency.lookup_eq_some_iff distinct).2 old
    rw [(Recency.lookup_eq_some_iff distinct).2 mem] at same
    rw [Option.some.inj same]
    exact entry

end Recent

end AnnounceStore

namespace AnnounceCourse

/-! ## The specification -/

/-- An info hash makes way at an event after some others: another one without peers is
announced while there are as many as there may be, and all others were used later. -/
structure Evicts (course : AnnounceCourse) (events : List AnnounceEvent) (infoHash : InfoHash)
    (event : AnnounceEvent) : Prop where
  newcomer : ∃ other peer, event = .announce other peer ∧ ¬ (course.run events).Knows other
  full : (course.run events).store.infoHashCount = course.store.maxInfoHashes
  known : (course.run events).Knows infoHash
  oldest : ∀ other, (course.run events).Knows other → other ≠ infoHash →
    course.Later Uses events other infoHash

/-- An announce still counts after what came since: it is the latest of its peer, its
info hash did not make way, fewer other peers were announced than there may be, and
nothing was purged once it was too old. -/
structure Keeps (course : AnnounceCourse) (before : List AnnounceEvent) (infoHash : InfoHash)
    (peer : Address) (after : List AnnounceEvent) : Prop where
  latest : .announce infoHash peer ∉ after
  unevicted : ∀ earlier event later, after = earlier ++ event :: later →
    ¬ course.Evicts (before ++ .announce infoHash peer :: earlier) infoHash event
  few : (announcers infoHash after).toFinset.card < course.store.maxPeers
  unexpired : ∀ earlier later, after = earlier ++ .purge :: later →
    (course.run (before ++ .announce infoHash peer :: earlier)).now - (course.run before).now <
      AnnounceStore.lifetime

/-! ## The invariant -/

/-- What holds of what came of a store after some events. -/
structure Accounted (course : AnnounceCourse) (events : List AnnounceEvent)
    (last : AnnounceCourse) : Prop where
  wellFormed : last.store.WellFormed
  sameInfoHashes : last.store.maxInfoHashes = course.store.maxInfoHashes
  samePeers : last.store.maxPeers = course.store.maxPeers
  bounded : last.store.announces.length ≤ course.store.maxInfoHashes
  ordered : (last.store.announces.map Prod.fst).Pairwise (course.Later Uses events)
  inhabited : ∀ entry ∈ last.store.announces, entry.2 ≠ []
  recent : ∀ entry ∈ last.store.announces,
    AnnounceStore.Recent course.store.maxPeers last.now
      (Recency.latestFirst (announcers entry.1 events)) entry.2

variable {course last : AnnounceCourse} {events : List AnnounceEvent} {event : AnnounceEvent}
  {infoHash other : InfoHash} {peer announced : Address} {announcedAt : Nat}
  {peers : List (Address × Nat)}

namespace Accounted

theorem recent_peersOf (accounted : course.Accounted events last) (infoHash : InfoHash) :
    AnnounceStore.Recent course.store.maxPeers last.now
      (Recency.latestFirst (announcers infoHash events)) (last.store.peersOf infoHash) := by
  unfold AnnounceStore.peersOf
  cases found : last.store.announces.lookup infoHash with
  | none => exact .nil _ _ _
  | some peers => exact accounted.recent _ (Recency.mem_of_lookup found)

theorem knows_iff (accounted : course.Accounted events last) : last.Knows infoHash ↔
    ∃ peer announcedAt, last.store.Lists infoHash peer announcedAt := by
  constructor
  · intro known
    obtain ⟨⟨_, peers⟩, entry, rfl⟩ := List.mem_map.1 known
    obtain ⟨⟨peer, announcedAt⟩, mem⟩ :=
      List.exists_mem_of_ne_nil peers (accounted.inhabited _ entry)
    exact ⟨peer, announcedAt, peers, entry, mem⟩
  · rintro ⟨peer, announcedAt, peers, entry, -⟩
    exact List.mem_map_of_mem entry

variable (accounted : course.Accounted events (course.run events))

include accounted

/-- The info hash that makes way is the last one. -/
theorem evicts_iff : course.Evicts events infoHash (.announce other announced) ↔
    ¬ (course.run events).Knows other ∧
      (course.run events).store.announces.length = (course.run events).store.maxInfoHashes ∧
      ((course.run events).store.announces.map Prod.fst).getLast? = some infoHash := by
  rw [Recency.getLast?_eq_some_iff accounted.ordered Later.asymm, accounted.sameInfoHashes]
  constructor
  · rintro ⟨⟨_, _, same, newcomer⟩, full, known, oldest⟩
    obtain ⟨rfl, rfl⟩ := AnnounceEvent.announce.inj same
    exact ⟨newcomer, full, known, oldest⟩
  · rintro ⟨newcomer, full, known, oldest⟩
    exact ⟨⟨other, announced, rfl, newcomer⟩, full, known, oldest⟩

/-- What an announce leaves of another info hash. -/
theorem mem_announce_iff (different : infoHash ≠ other) :
    (infoHash, peers) ∈ ((course.run events).step (.announce other announced)).store.announces ↔
      (infoHash, peers) ∈ (course.run events).store.announces ∧
        ¬ course.Evicts events infoHash (.announce other announced) := by
  have bounded := accounted.bounded
  rw [← accounted.sameInfoHashes] at bounded
  rw [accounted.evicts_iff]
  exact Recency.mem_put_iff accounted.wellFormed.distinct bounded accounted.wellFormed.room
    different

/-! ## Steps -/

theorem announce (infoHash : InfoHash) (peer : Address) :
    course.Accounted (events ++ [.announce infoHash peer])
      ((course.run events).step (.announce infoHash peer)) where
  wellFormed := accounted.wellFormed.add _ _ _
  sameInfoHashes := accounted.sameInfoHashes
  samePeers := accounted.samePeers
  bounded := by
    rw [← accounted.sameInfoHashes]
    exact Recency.length_put_le _ _ _ _
  ordered := by
    simp only [step, AnnounceStore.add, Recency.keys_put]
    apply List.Pairwise.sublist (List.take_sublist _ _)
    apply pairwise_touch accounted.ordered (.announce peer)
    rintro other ⟨⟩
    rfl
  inhabited := by
    intro entry mem
    rcases Recency.mem_of_mem_put mem with rfl | old
    · obtain ⟨others, first⟩ := Recency.exists_put accounted.wellFormed.roomForPeers peer
        (course.run events).now ((course.run events).store.peersOf infoHash)
      simp [first]
    · exact accounted.inhabited entry old
  recent := by
    rintro ⟨other, peers⟩ mem
    by_cases own : other = infoHash
    · subst own
      have now_eq := (accounted.wellFormed.add (course.run events).now other peer).peersOf_eq mem
      rw [AnnounceStore.peersOf_add accounted.wellFormed.room, accounted.samePeers] at now_eq
      rw [announcers_append, announcers_cons_self, ← now_eq]
      exact Recency.latestFirst_concat _ peer ▸ (accounted.recent_peersOf other).put peer
    · have silent : announcers other [.announce infoHash peer] = [] := by
        simp [announcers, Ne.symm own]
      rw [announcers_append, silent, List.append_nil]
      exact accounted.recent _ ((accounted.mem_announce_iff own).1 mem).1

theorem ask (infoHash : InfoHash) : course.Accounted (events ++ [.ask infoHash])
    ((course.run events).step (.ask infoHash)) where
  wellFormed := accounted.wellFormed.get _
  sameInfoHashes := accounted.sameInfoHashes
  samePeers := accounted.samePeers
  bounded := (Recency.length_promote_le _ _).trans accounted.bounded
  ordered := by
    simp only [step, AnnounceStore.get, Recency.keys_promote]
    split
    · rename_i known
      apply pairwise_touch accounted.ordered (.ask known)
      rintro other ⟨⟩
      rfl
    · rename_i unknown
      apply pairwise_untouched accounted.ordered
      rintro other mem ⟨⟩
      exact unknown mem
  inhabited := by
    intro entry mem
    exact accounted.inhabited entry (Recency.mem_of_mem_promote mem)
  recent := by
    intro entry mem
    have silent : announcers entry.1 [.ask infoHash] = [] := by simp [announcers]
    rw [announcers_append, silent, List.append_nil]
    exact accounted.recent entry (Recency.mem_of_mem_promote mem)

theorem purge : course.Accounted (events ++ [.purge]) ((course.run events).step .purge) where
  wellFormed := accounted.wellFormed.purge _
  sameInfoHashes := accounted.sameInfoHashes
  samePeers := accounted.samePeers
  bounded := by
    refine Nat.le_trans (List.length_filter_le _ _) ?_
    rw [List.length_map]
    exact accounted.bounded
  ordered := by
    apply List.Pairwise.sublist (List.filter_sublist.map Prod.fst)
    rw [List.map_map]
    exact pairwise_untouched accounted.ordered nofun
  inhabited := by
    intro entry mem
    simpa using (List.mem_filter.1 mem).2
  recent := by
    intro entry mem
    obtain ⟨old, listed, rfl⟩ := List.mem_map.1 (List.mem_filter.1 mem).1
    have silent : announcers old.1 [.purge] = [] := rfl
    rw [announcers_append, silent, List.append_nil]
    exact (accounted.recent old listed).purge

theorem advance (milliseconds : Nat) : course.Accounted (events ++ [.advance milliseconds])
    ((course.run events).step (.advance milliseconds)) where
  wellFormed := accounted.wellFormed
  sameInfoHashes := accounted.sameInfoHashes
  samePeers := accounted.samePeers
  bounded := accounted.bounded
  ordered := pairwise_untouched accounted.ordered nofun
  inhabited := accounted.inhabited
  recent := by
    intro entry mem
    have silent : announcers entry.1 [.advance milliseconds] = [] := rfl
    rw [announcers_append, silent, List.append_nil]
    exact (accounted.recent entry mem).mono (Nat.le_add_right _ _)

end Accounted

theorem accounted_start {maxInfoHashes maxPeers : Nat} (room : 0 < maxInfoHashes)
    (roomForPeers : 0 < maxPeers) (now : Nat) (events : List AnnounceEvent) :
    (start maxInfoHashes maxPeers now).Accounted events
      ((start maxInfoHashes maxPeers now).run events) := by
  induction events using List.reverseRec with
  | nil =>
    exact ⟨AnnounceStore.wellFormed_withCapacity room roomForPeers, rfl, rfl, Nat.zero_le _,
      List.Pairwise.nil, nofun, nofun⟩
  | append_singleton events event ih =>
    rw [run_concat]
    cases event with
    | announce infoHash peer => exact ih.announce infoHash peer
    | ask infoHash => exact ih.ask infoHash
    | purge => exact ih.purge
    | advance milliseconds => exact ih.advance milliseconds

/-! ## What an event takes away -/

namespace Accounted

variable (accounted : course.Accounted events (course.run events))

include accounted

theorem knows_step_iff_of_other (different : infoHash ≠ other)
    (known : (course.run events).Knows infoHash) :
    ((course.run events).step (.announce other announced)).Knows infoHash ↔
      ¬ course.Evicts events infoHash (.announce other announced) := by
  constructor
  · intro still
    obtain ⟨⟨_, peers⟩, entry, rfl⟩ := List.mem_map.1 still
    exact ((accounted.mem_announce_iff different).1 entry).2
  · intro kept
    obtain ⟨⟨_, peers⟩, entry, rfl⟩ := List.mem_map.1 known
    exact List.mem_map_of_mem ((accounted.mem_announce_iff different).2 ⟨entry, kept⟩)

/-- An info hash is left without peers exactly when it makes way, or when all its peers
are purged. -/
theorem not_knows_step_iff (known : (course.run events).Knows infoHash) :
    ¬ ((course.run events).step event).Knows infoHash ↔
      course.Evicts events infoHash event ∨ event = .purge ∧
        ∀ peer announcedAt, (course.run events).store.Lists infoHash peer announcedAt →
          AnnounceStore.lifetime ≤ (course.run events).now - announcedAt := by
  cases event with
  | announce other announced =>
    by_cases own : infoHash = other
    · subst own
      have still : ((course.run events).step (.announce infoHash announced)).Knows infoHash := by
        rw [(accounted.announce infoHash announced).knows_iff]
        exact ⟨announced, _, accounted.wellFormed.lists_add _ infoHash announced⟩
      constructor
      · intro gone
        exact absurd still gone
      · rintro (evicted | ⟨⟨⟩, -⟩)
        exact absurd known (accounted.evicts_iff.1 evicted).1
    · rw [accounted.knows_step_iff_of_other own known, not_not]
      simp
  | ask other =>
    have still : ((course.run events).step (.ask other)).Knows infoHash := by
      rw [(accounted.ask other).knows_iff]
      simpa only [step, accounted.wellFormed.lists_get_iff] using accounted.knows_iff.1 known
    constructor
    · intro gone
      exact absurd still gone
    · rintro (⟨⟨_, _, ⟨⟩, -⟩, -⟩ | ⟨⟨⟩, -⟩)
  | purge =>
    have kept : ((course.run events).step .purge).Knows infoHash ↔ ∃ peer announcedAt,
        (course.run events).store.Lists infoHash peer announcedAt ∧
          (course.run events).now - announcedAt < AnnounceStore.lifetime := by
      rw [accounted.purge.knows_iff]
      simp only [step, AnnounceStore.lists_purge_iff]
    rw [kept]
    constructor
    · intro unlisted
      refine .inr ⟨rfl, fun peer announcedAt listed => Nat.le_of_not_lt fun young => ?_⟩
      exact unlisted ⟨peer, announcedAt, listed, young⟩
    · rintro (⟨⟨_, _, ⟨⟩, -⟩, -⟩ | ⟨-, old⟩)
      rintro ⟨peer, announcedAt, listed, young⟩
      exact absurd young (Nat.not_lt_of_le (old peer announcedAt listed))
  | advance milliseconds =>
    constructor
    · intro gone
      exact absurd known gone
    · rintro (⟨⟨_, _, ⟨⟩, -⟩, -⟩ | ⟨⟨⟩, -⟩)

end Accounted

/-! ## Who is listed -/

/-- Who is listed after an event was before, or was announced by it. -/
theorem lists_of_step (listed : (course.step event).store.Lists infoHash peer announcedAt) :
    course.store.Lists infoHash peer announcedAt ∨
      event = .announce infoHash peer ∧ announcedAt = course.now := by
  cases event with
  | announce other announced =>
    rcases listed.of_add with ⟨rfl, rfl, rfl⟩ | before
    · exact .inr ⟨rfl, rfl⟩
    · exact .inl before
  | ask other => exact .inl listed.of_get
  | purge => exact .inl listed.of_purge
  | advance milliseconds => exact .inl listed

/-- Who is listed was so ever since its latest announce. -/
theorem lists_of_run {first second : List AnnounceEvent}
    (latest : .announce infoHash peer ∉ second)
    (listed : (course.run (first ++ second)).store.Lists infoHash peer announcedAt) :
    (course.run first).store.Lists infoHash peer announcedAt := by
  induction second using List.reverseRec with
  | nil => simpa using listed
  | append_singleton second event ih =>
    rw [List.mem_append, List.mem_singleton, not_or] at latest
    rw [← List.append_assoc, run_concat] at listed
    rcases lists_of_step listed with before | ⟨same, -⟩
    · exact ih latest.1 before
    · exact absurd same.symm latest.2

/-- Ahead of a peer are those that were announced since. -/
theorem exists_latestFirst_announcers (before : List AnnounceEvent) {after : List AnnounceEvent}
    (latest : .announce infoHash peer ∉ after) :
    ∃ newer older,
      Recency.latestFirst (announcers infoHash (before ++ .announce infoHash peer :: after)) =
        newer ++ peer :: older ∧
      peer ∉ newer ∧ newer.length = (announcers infoHash after).toFinset.card := by
  have last : peer ∉ announcers infoHash after := fun mem => latest (mem_announcers.1 mem)
  obtain ⟨newer, older, parts, distinct, ahead⟩ :=
    Recency.exists_latestFirst_eq (announcers infoHash before) last
  have same : newer.toFinset = (announcers infoHash after).toFinset := by
    ext other
    rw [List.mem_toFinset, List.mem_toFinset, ahead]
  refine ⟨newer, older, ?_, ?_, ?_⟩
  · rw [announcers_append, announcers_cons_self, parts]
  · rwa [ahead]
  · rw [← same, List.toFinset_card_of_nodup distinct]

theorem Keeps.init {before after : List AnnounceEvent}
    (keeps : course.Keeps before infoHash peer (after ++ [event])) :
    course.Keeps before infoHash peer after where
  latest mem := keeps.latest (List.mem_append_left _ mem)
  unevicted := by
    rintro earlier own later rfl
    exact keeps.unevicted earlier own (later ++ [event]) (by simp)
  few := by
    refine Nat.lt_of_le_of_lt (Finset.card_le_card ?_) keeps.few
    intro other mem
    rw [List.mem_toFinset, announcers_append] at *
    exact List.mem_append_left _ mem
  unexpired := by
    rintro earlier later rfl
    exact keeps.unexpired earlier (later ++ [event]) (by simp)

section Listed

variable (accounted : ∀ events, course.Accounted events (course.run events))

include accounted

/-- Who is listed was announced, at the time that is remembered and not later. -/
theorem exists_announce (fresh : course.store.announces = [])
    (listed : (course.run events).store.Lists infoHash peer announcedAt) :
    ∃ before after, events = before ++ .announce infoHash peer :: after ∧
      announcedAt = (course.run before).now ∧ .announce infoHash peer ∉ after := by
  induction events using List.reverseRec with
  | nil =>
    obtain ⟨peers, entry, -⟩ := listed
    rw [run_nil, fresh] at entry
    exact absurd entry List.not_mem_nil
  | append_singleton events event ih =>
    have wf := (accounted (events ++ [event])).wellFormed
    rw [run_concat] at listed wf
    by_cases own : event = .announce infoHash peer
    · subst own
      have now_listed :=
        (accounted events).wellFormed.lists_add (course.run events).now infoHash peer
      exact ⟨events, [], rfl, wf.lists_unique listed now_listed, List.not_mem_nil⟩
    · rcases lists_of_step listed with old | ⟨same, -⟩
      · obtain ⟨before, after, rfl, time, latest⟩ := ih old
        refine ⟨before, after ++ [event], by simp, time, ?_⟩
        rw [List.mem_append, List.mem_singleton, not_or]
        exact ⟨latest, Ne.symm own⟩
      · exact absurd same own

theorem keeps_of_lists {before after : List AnnounceEvent}
    (latest : .announce infoHash peer ∉ after)
    (listed : (course.run (before ++ .announce infoHash peer :: after)).store.Lists infoHash peer
      (course.run before).now) : course.Keeps before infoHash peer after where
  latest := latest
  unevicted := by
    rintro earlier event later rfl evicted
    have parts : before ++ .announce infoHash peer :: (earlier ++ event :: later) =
        before ++ .announce infoHash peer :: earlier ++ [event] ++ later := by simp
    rw [parts] at listed
    have still := lists_of_run (fun mem => latest (by simp [mem])) listed
    have known := (accounted _).knows_iff.2 ⟨peer, _, still⟩
    rw [run_concat] at known
    exact ((accounted _).not_knows_step_iff evicted.known).2 (.inl evicted) known
  few := by
    obtain ⟨newer, older, parts, fresh, count⟩ := exists_latestFirst_announcers before latest
    have acc := accounted (before ++ .announce infoHash peer :: after)
    have recent := acc.recent_peersOf infoHash
    have mem := acc.wellFormed.lists_iff.1 listed
    have first := recent.isFirst
    rw [parts] at first
    have shorter := Recency.length_lt_of_mem first (List.mem_map_of_mem mem) fresh
    rw [List.length_map] at shorter
    rw [← count]
    exact Nat.lt_of_lt_of_le shorter recent.bounded
  unexpired := by
    rintro earlier later rfl
    have parts : before ++ .announce infoHash peer :: (earlier ++ .purge :: later) =
        before ++ .announce infoHash peer :: earlier ++ [.purge] ++ later := by simp
    rw [parts] at listed
    have still := lists_of_run (fun mem => latest (by simp [mem])) listed
    rw [run_concat] at still
    exact (AnnounceStore.lists_purge_iff.1 still).2

theorem lists_of_keeps {before after : List AnnounceEvent}
    (keeps : course.Keeps before infoHash peer after) :
    (course.run (before ++ .announce infoHash peer :: after)).store.Lists infoHash peer
      (course.run before).now := by
  induction after using List.reverseRec with
  | nil =>
    rw [run_concat]
    exact (accounted before).wellFormed.lists_add _ _ _
  | append_singleton after event ih =>
    have listed := ih keeps.init
    have acc := accounted (before ++ .announce infoHash peer :: after)
    rw [← List.cons_append, ← List.append_assoc, run_concat]
    cases event with
    | announce other announced =>
      by_cases own : infoHash = other
      · subst own
        have different : peer ≠ announced := by
          rintro rfl
          exact keeps.latest (by simp)
        obtain ⟨newer, older, parts, fresh, count⟩ :=
          exists_latestFirst_announcers before keeps.latest
        rw [← List.cons_append, ← List.append_assoc, announcers_append,
          announcers_cons_self] at parts
        have few := keeps.few
        rw [← count] at few
        have after_wf := acc.wellFormed.add
          (course.run (before ++ .announce infoHash peer :: after)).now infoHash announced
        apply after_wf.lists_iff.2
        rw [AnnounceStore.peersOf_add acc.wellFormed.room, acc.samePeers]
        exact (acc.recent_peersOf infoHash).mem_put
          ((Recency.latestFirst_concat _ announced).symm.trans parts) fresh few different
          (acc.wellFormed.nodup_peersOf infoHash) (acc.wellFormed.lists_iff.1 listed)
      · obtain ⟨peers, entry, mem⟩ := listed
        have kept := keeps.unevicted after (.announce other announced) [] rfl
        exact ⟨peers, (acc.mem_announce_iff own).2 ⟨entry, kept⟩, mem⟩
    | ask other => exact (acc.wellFormed.lists_get_iff other).2 listed
    | purge => exact AnnounceStore.lists_purge_iff.2 ⟨listed, keeps.unexpired after [] rfl⟩
    | advance milliseconds => exact listed

end Listed

/-! ## What is given -/

/-- The peers that are given are those that are listed, each once, the latest announced
first, up to a bound. -/
theorem Accounted.exists_get_eq (accounted : course.Accounted events (course.run events))
    (infoHash : InfoHash) :
    ∃ peers : List Address, peers.Nodup ∧
      (∀ peer, peer ∈ peers ↔
        ∃ announcedAt, (course.run events).store.Lists infoHash peer announcedAt) ∧
      peers.Pairwise (course.Later (Announces infoHash) events) ∧
      ((course.run events).store.get infoHash).1 = peers.take AnnounceStore.maxGiven := by
  refine ⟨((course.run events).store.peersOf infoHash).map Prod.fst,
    accounted.wellFormed.nodup_peersOf infoHash, ?listed, ?latest, ?given⟩
  case listed =>
    intro peer
    simp only [accounted.wellFormed.lists_iff, List.mem_map, Prod.exists]
    constructor
    · rintro ⟨_, announcedAt, mem, rfl⟩
      exact ⟨announcedAt, mem⟩
    · rintro ⟨announcedAt, mem⟩
      exact ⟨peer, announcedAt, mem, rfl⟩
  case latest =>
    exact (pairwise_latestFirst course infoHash events).sublist
      (accounted.recent_peersOf infoHash).isFirst.sublist
  case given => exact List.map_take

/-! ## The refinement -/

/-- A store that was empty at first keeps exactly what its history tells.  A peer is
listed since its latest announce that still counts; an info hash goes exactly when it
makes way to another one or when all its peers are purged; whoever is listed is given,
each once, the latest announced first, up to a bound; purging drops what is too old and
nothing else; and no info hash stays without peers. -/
theorem announces_of_history {maxInfoHashes maxPeers : Nat} (room : 0 < maxInfoHashes)
    (roomForPeers : 0 < maxPeers) (now : Nat) (events : List AnnounceEvent) :
    let first := start maxInfoHashes maxPeers now
    let last := first.run events
    (∀ infoHash peer announcedAt, last.store.Lists infoHash peer announcedAt ↔
      ∃ before after, events = before ++ .announce infoHash peer :: after ∧
        announcedAt = (first.run before).now ∧ first.Keeps before infoHash peer after) ∧
    (∀ infoHash event, last.Knows infoHash → (¬ (last.step event).Knows infoHash ↔
      first.Evicts events infoHash event ∨ event = .purge ∧
        ∀ peer announcedAt, last.store.Lists infoHash peer announcedAt →
          AnnounceStore.lifetime ≤ last.now - announcedAt)) ∧
    (∀ infoHash, ∃ peers : List Address, peers.Nodup ∧
      (∀ peer, peer ∈ peers ↔ ∃ announcedAt, last.store.Lists infoHash peer announcedAt) ∧
      peers.Pairwise (first.Later (Announces infoHash) events) ∧
      (last.store.get infoHash).1 = peers.take AnnounceStore.maxGiven) ∧
    (∀ infoHash peer announcedAt, (last.step .purge).store.Lists infoHash peer announcedAt ↔
      last.store.Lists infoHash peer announcedAt ∧
        last.now - announcedAt < AnnounceStore.lifetime) ∧
    ∀ entry ∈ last.store.announces, entry.2 ≠ [] := by
  intro first last
  have accounted : ∀ events, first.Accounted events (first.run events) :=
    accounted_start room roomForPeers now
  refine ⟨?listed, ?forgotten, ?given, ?purged, (accounted events).inhabited⟩
  case listed =>
    intro infoHash peer announcedAt
    constructor
    · intro listed
      obtain ⟨before, after, parts, rfl, latest⟩ := exists_announce accounted rfl listed
      refine ⟨before, after, parts, rfl, keeps_of_lists accounted latest ?_⟩
      rw [← parts]
      exact listed
    · rintro ⟨before, after, parts, rfl, keeps⟩
      have listed := lists_of_keeps accounted keeps
      rw [← parts] at listed
      exact listed
  case forgotten =>
    intro infoHash event known
    exact (accounted events).not_knows_step_iff known
  case given =>
    intro infoHash
    exact (accounted events).exists_get_eq infoHash
  case purged =>
    intro infoHash peer announcedAt
    exact AnnounceStore.lists_purge_iff

/-- Where there is room for one info hash, the first makes way to the second, whose peer
is listed. -/
theorem announces_of_history_one_info_hash :
    let peer : Address := ⟨.v4 (.zero 4), 6881⟩
    let announces := [AnnounceEvent.announce (.ofNat 1) peer, .announce (.ofNat 2) peer]
    let first := start 1 1 0
    first.Evicts (announces.take 1) (.ofNat 1) (.announce (.ofNat 2) peer) ∧
      ∃ before after, announces = before ++ .announce (.ofNat 2) peer :: after ∧
        0 = (first.run before).now ∧ first.Keeps before (.ofNat 2) peer after := by
  intro peer announces first
  have told := announces_of_history Nat.one_pos Nat.one_pos 0
  constructor
  · have known : (first.run (announces.take 1)).Knows (.ofNat 1) := by
      unfold Knows
      decide
    have gone : ¬ ((first.run (announces.take 1)).step (.announce (.ofNat 2) peer)).Knows
        (.ofNat 1) := by
      unfold Knows
      decide
    rcases ((told (announces.take 1)).2.1 _ _ known).1 gone with evicted | ⟨⟨⟩, -⟩
    exact evicted
  · apply ((told announces).1 (.ofNat 2) peer 0).1
    exact ⟨[(peer, 0)], by decide, List.mem_singleton.2 rfl⟩

end AnnounceCourse

end Kademlia
