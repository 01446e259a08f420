import Kademlia.Proofs.Announce.Recency
import Kademlia.Proofs.History

/-!
# All that happens to a store of announces

Peers are announced and asked for, announces are purged, and time passes, in any order.
-/

namespace Kademlia

/-- What happens to a store. -/
inductive AnnounceEvent
  | announce (infoHash : InfoHash) (peer : Address)
  | ask (infoHash : InfoHash)
  | purge
  | advance (milliseconds : Nat)
deriving DecidableEq

/-- A store at a time. -/
structure AnnounceCourse where
  now : Nat
  store : AnnounceStore
deriving DecidableEq

/-- Those who are announced for an info hash, in order. -/
def announcers (infoHash : InfoHash) (events : List AnnounceEvent) : List Address :=
  events.filterMap fun
    | .announce other peer => if other = infoHash then some peer else none
    | _ => none

namespace AnnounceCourse

/-! ## Courses -/

/-- An empty store for some numbers of info hashes and of peers of each. -/
def start (maxInfoHashes maxPeers now : Nat) : AnnounceCourse :=
  ⟨now, .withCapacity maxInfoHashes maxPeers⟩

/-- What comes of an event. -/
def step (course : AnnounceCourse) : AnnounceEvent → AnnounceCourse
  | .announce infoHash peer => { course with store := course.store.add course.now infoHash peer }
  | .ask infoHash => { course with store := (course.store.get infoHash).2 }
  | .purge => { course with store := course.store.purge course.now }
  | .advance milliseconds => { course with now := course.now + milliseconds }

/-- What comes of some events in order. -/
def run (course : AnnounceCourse) (events : List AnnounceEvent) : AnnounceCourse :=
  events.foldl step course

/-- There are peers of an info hash. -/
def Knows (course : AnnounceCourse) (infoHash : InfoHash) : Prop :=
  infoHash ∈ course.store.announces.map Prod.fst

/-- An event is a use of an info hash: one of its peers is announced, or it is asked for
while there are peers of it. -/
inductive Uses (infoHash : InfoHash) (course : AnnounceCourse) : AnnounceEvent → Prop
  | announce (peer : Address) : Uses infoHash course (.announce infoHash peer)
  | ask (known : course.Knows infoHash) : Uses infoHash course (.ask infoHash)

/-- An event is an announce of a peer for an info hash. -/
def Announces (infoHash : InfoHash) (peer : Address) (_ : AnnounceCourse)
    (event : AnnounceEvent) : Prop :=
  event = .announce infoHash peer

/-- Something last happened to one after it last happened to another. -/
def Later {κ : Type} (happens : κ → AnnounceCourse → AnnounceEvent → Prop)
    (course : AnnounceCourse) (events : List AnnounceEvent) (newer older : κ) : Prop :=
  ∃ before after, events = before ++ after ∧
    Sometime step (course.run before) after (happens newer) ∧
    ¬ Sometime step (course.run before) after (happens older)

section Courses

variable {κ : Type} {course : AnnounceCourse} {events before after : List AnnounceEvent}
  {event : AnnounceEvent} {infoHash : InfoHash} {peer : Address} {newer older : κ}
  {happens : κ → AnnounceCourse → AnnounceEvent → Prop}

@[simp]
theorem run_nil (course : AnnounceCourse) : course.run [] = course :=
  rfl

@[simp]
theorem run_cons (course : AnnounceCourse) (event : AnnounceEvent)
    (events : List AnnounceEvent) : course.run (event :: events) = (course.step event).run events :=
  rfl

@[simp]
theorem run_append (course : AnnounceCourse) (first second : List AnnounceEvent) :
    course.run (first ++ second) = (course.run first).run second :=
  List.foldl_append

theorem run_concat (course : AnnounceCourse) (events : List AnnounceEvent)
    (event : AnnounceEvent) : course.run (events ++ [event]) = (course.run events).step event := by
  simp

/-- Of two, only one is the later one. -/
theorem Later.asymm (first : course.Later happens events newer older) :
    ¬ course.Later happens events older newer := by
  obtain ⟨before, after, rfl, happened, never⟩ := first
  rintro ⟨before', after', parts, happened', never'⟩
  rcases List.append_eq_append_iff.1 parts with ⟨more, rfl, rfl⟩ | ⟨more, rfl, rfl⟩
  · rw [run_append] at happened'
    exact never (sometime_append.2 (.inr happened'))
  · rw [run_append] at happened
    exact never' (sometime_append.2 (.inr happened))

theorem Later.snoc (earlier : course.Later happens events newer older)
    (untouched : ¬ happens older (course.run events) event) :
    course.Later happens (events ++ [event]) newer older := by
  obtain ⟨before, after, rfl, happened, never⟩ := earlier
  rw [run_append] at untouched
  refine ⟨before, after ++ [event], by simp, sometime_append.2 (.inl happened), ?_⟩
  rw [sometime_concat, not_or]
  exact ⟨never, untouched⟩

theorem later_of_happens (happened : happens newer (course.run events) event)
    (untouched : ¬ happens older (course.run events) event) :
    course.Later happens (events ++ [event]) newer older :=
  ⟨events, [event], rfl, sometime_singleton.2 happened, by rwa [sometime_singleton]⟩

/-- What something just happened to is ahead of all others. -/
theorem pairwise_touch [DecidableEq κ] {key : κ} {keys : List κ}
    (ordered : keys.Pairwise (course.Later happens events))
    (happened : happens key (course.run events) event)
    (only : ∀ other, happens other (course.run events) event → other = key) :
    (Recency.touch key keys).Pairwise (course.Later happens (events ++ [event])) := by
  apply Recency.pairwise_touch ordered
  · intro other _ different
    exact later_of_happens happened fun also => different (only other also)
  · intro newer older different later
    exact later.snoc fun also => different (only older also)

theorem pairwise_untouched {keys : List κ}
    (ordered : keys.Pairwise (course.Later happens events))
    (untouched : ∀ key ∈ keys, ¬ happens key (course.run events) event) :
    keys.Pairwise (course.Later happens (events ++ [event])) := by
  apply ordered.imp_of_mem
  intro newer older _ mem later
  exact later.snoc (untouched older mem)

/-! ## Who was announced -/

@[simp]
theorem announcers_nil (infoHash : InfoHash) : announcers infoHash [] = [] :=
  rfl

@[simp]
theorem announcers_append (infoHash : InfoHash) (first second : List AnnounceEvent) :
    announcers infoHash (first ++ second) =
      announcers infoHash first ++ announcers infoHash second :=
  List.filterMap_append

@[simp]
theorem announcers_cons_self (infoHash : InfoHash) (peer : Address)
    (events : List AnnounceEvent) :
    announcers infoHash (.announce infoHash peer :: events) =
      peer :: announcers infoHash events := by
  simp [announcers]

@[simp]
theorem mem_announcers : peer ∈ announcers infoHash events ↔ .announce infoHash peer ∈ events := by
  simp only [announcers, List.mem_filterMap]
  constructor
  · rintro ⟨event, mem, announced⟩
    cases event with
    | announce other announcer =>
      simp only [Option.ite_none_right_eq_some, Option.some.injEq] at announced
      obtain ⟨rfl, rfl⟩ := announced
      exact mem
    | ask other => simp at announced
    | purge => simp at announced
    | advance milliseconds => simp at announced
  · intro mem
    exact ⟨_, mem, by simp⟩

/-- The latest announces for an info hash come in the order of their times. -/
theorem pairwise_latestFirst (course : AnnounceCourse) (infoHash : InfoHash)
    (events : List AnnounceEvent) :
    (Recency.latestFirst (announcers infoHash events)).Pairwise
      (course.Later (Announces infoHash) events) := by
  induction events using List.reverseRec with
  | nil => exact List.Pairwise.nil
  | append_singleton events event ih =>
    rw [announcers_append]
    by_cases own : ∃ peer, event = .announce infoHash peer
    · obtain ⟨peer, rfl⟩ := own
      rw [announcers_cons_self, announcers_nil, Recency.latestFirst_concat]
      apply pairwise_touch ih rfl
      rintro other ⟨⟩
      rfl
    · have silent : announcers infoHash [event] = [] := by
        apply List.eq_nil_iff_forall_not_mem.2
        intro peer mem
        exact own ⟨peer, (List.mem_singleton.1 (mem_announcers.1 mem)).symm⟩
      rw [silent, List.append_nil]
      apply pairwise_untouched ih
      intro peer _ happened
      exact own ⟨peer, happened⟩

end Courses

end AnnounceCourse

end Kademlia
