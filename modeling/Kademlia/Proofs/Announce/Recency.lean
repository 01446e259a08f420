import Kademlia.Proofs.Announce.Store
import Mathlib.Data.List.Induction

/-!
# Laws of lists by recency of use

What is used comes to the front, and the order of everything else stays.  An entry is
lost to another one exactly when that one is new, there is no room, and the entry is the
last.
-/

namespace Kademlia.Recency

variable {κ ν : Type} {capacity : Nat} {key : κ} {value : ν} {entries : List (κ × ν)}
  {entry : κ × ν} {keys others newer older : List κ}

/-! ## The first and the last of many -/

/-- The first keys of some have all that comes before a key they have. -/
theorem prefix_of_mem (isFirst : keys <+: newer ++ key :: older) (mem : key ∈ keys)
    (fresh : key ∉ newer) : newer ++ [key] <+: keys := by
  have longer : newer.length < keys.length := by
    apply Nat.lt_of_not_le
    intro short
    have within : keys <+: newer :=
      List.prefix_of_prefix_length_le isFirst (List.prefix_append _ _) short
    exact fresh (within.subset mem)
  have first : newer ++ [key] <+: newer ++ key :: older := ⟨older, by simp⟩
  apply List.prefix_of_prefix_length_le first isFirst
  simp only [List.length_append, List.length_singleton]
  omega

theorem length_lt_of_mem (isFirst : keys <+: newer ++ key :: older) (mem : key ∈ keys)
    (fresh : key ∉ newer) : newer.length < keys.length := by
  have longer := (prefix_of_mem isFirst mem fresh).length_le
  simp only [List.length_append, List.length_singleton] at longer
  omega

theorem mem_take_of_mem (isFirst : keys <+: newer ++ key :: older) (mem : key ∈ keys)
    (fresh : key ∉ newer) (room : newer.length < capacity) : key ∈ keys.take capacity := by
  have longer : (newer ++ [key]).length ≤ capacity := by
    simp only [List.length_append, List.length_singleton]
    omega
  obtain ⟨rest, rfl⟩ := prefix_of_mem isFirst mem fresh
  rw [List.take_append, List.take_of_length_le longer]
  simp

/-- What holds of nothing behind something that it fails for holds of the first ones
only. -/
theorem filter_prefix {α : Type} {kept : α → Bool} {all : List α}
    (ordered : all.Pairwise fun newer older => kept older = true → kept newer = true) :
    all.filter kept <+: all := by
  induction all with
  | nil => simp
  | cons first rest ih =>
    rw [List.pairwise_cons] at ordered
    by_cases holds : kept first
    · rw [List.filter_cons_of_pos holds, List.cons_prefix_cons]
      exact ⟨rfl, ih ordered.2⟩
    · have unkept : (first :: rest).filter kept = [] := by
        apply List.filter_eq_nil_iff.2
        intro other mem later
        rcases List.mem_cons.1 mem with rfl | behind
        · exact holds later
        · exact holds (ordered.1 other behind later)
      rw [unkept]
      exact List.nil_prefix

theorem mem_dropLast_iff (distinct : (entries.map Prod.fst).Nodup) :
    entry ∈ entries.dropLast ↔
      entry ∈ entries ∧ (entries.map Prod.fst).getLast? ≠ some entry.1 := by
  rcases List.eq_nil_or_concat entries with rfl | ⟨front, last, rfl⟩
  · simp
  · rw [List.concat_eq_append] at distinct ⊢
    rw [List.map_append, List.nodup_append] at distinct
    have fresh : last.1 ∉ front.map Prod.fst := by
      intro mem
      exact distinct.2.2 last.1 mem last.1 (by simp) rfl
    simp only [List.dropLast_concat, List.mem_append, List.mem_singleton, List.map_append,
      List.map_cons, List.map_nil, List.getLast?_append, List.getLast?_singleton,
      Option.some_or, ne_eq, Option.some.injEq]
    constructor
    · intro mem
      exact ⟨.inl mem, fun same => fresh (same ▸ List.mem_map_of_mem mem)⟩
    · rintro ⟨mem | rfl, earlier⟩
      · exact mem
      · exact absurd rfl earlier

variable [DecidableEq κ]

/-! ## Keys in the order of their use -/

/-- Keys once one of them is used. -/
def touch (key : κ) (keys : List κ) : List κ :=
  key :: keys.filter (· ≠ key)

@[simp]
theorem mem_touch {other : κ} : other ∈ touch key keys ↔ other = key ∨ other ∈ keys := by
  by_cases same : other = key <;> simp [touch, same]

theorem nodup_touch (distinct : keys.Nodup) : (touch key keys).Nodup := by
  apply List.nodup_cons.2
  constructor
  · simp
  · exact List.filter_sublist.nodup distinct

theorem touch_prefix (key : κ) (isFirst : keys <+: others) : touch key keys <+: touch key others :=
  List.cons_prefix_cons.2 ⟨rfl, isFirst.filter _⟩

/-- The keys that were used, the latest use first. -/
def latestFirst (uses : List κ) : List κ :=
  uses.foldl (fun keys key => touch key keys) []

@[simp]
theorem latestFirst_concat (uses : List κ) (key : κ) :
    latestFirst (uses ++ [key]) = touch key (latestFirst uses) := by
  simp [latestFirst]

/-- Ahead of a key are those that were used after it, each of them once. -/
theorem exists_latestFirst_eq (earlier : List κ) {later : List κ} (last : key ∉ later) :
    ∃ newer older, latestFirst (earlier ++ key :: later) = newer ++ key :: older ∧
      newer.Nodup ∧ ∀ other, other ∈ newer ↔ other ∈ later := by
  induction later using List.reverseRec with
  | nil => exact ⟨[], _, latestFirst_concat earlier key, List.nodup_nil, by simp⟩
  | append_singleton later used ih =>
    rw [List.mem_append, not_or, List.mem_singleton] at last
    obtain ⟨newer, older, parts, distinct, ahead⟩ := ih last.1
    refine ⟨touch used newer, older.filter (· ≠ used), ?_, nodup_touch distinct, ?_⟩
    · rw [← List.cons_append, ← List.append_assoc, latestFirst_concat, parts, touch, touch,
        List.filter_append, List.filter_cons_of_pos (by simpa using last.2)]
      rfl
    · intro other
      rw [mem_touch, ahead, List.mem_append, List.mem_singleton, or_comm]

theorem keys_cons_erase (key : κ) (value : ν) (entries : List (κ × ν)) :
    ((key, value) :: erase key entries).map Prod.fst = touch key (entries.map Prod.fst) := by
  rw [touch, List.filter_map]
  rfl

theorem keys_put (capacity : Nat) (key : κ) (value : ν) (entries : List (κ × ν)) :
    (put capacity key value entries).map Prod.fst =
      (touch key (entries.map Prod.fst)).take capacity := by
  rw [put, List.map_take, keys_cons_erase]

theorem lookup_eq_some_iff (distinct : (entries.map Prod.fst).Nodup) :
    entries.lookup key = some value ↔ (key, value) ∈ entries := by
  constructor
  · exact mem_of_lookup
  · intro mem
    induction entries with
    | nil => simp at mem
    | cons first rest ih =>
      rw [List.map_cons, List.nodup_cons] at distinct
      rcases List.mem_cons.1 mem with rfl | later
      · simp
      · have elsewhere : key ≠ first.1 := by
          intro same
          exact distinct.1 (same ▸ List.mem_map_of_mem later)
        rw [List.lookup_cons, beq_false_of_ne elsewhere]
        exact ih distinct.2 later

theorem lookup_eq_none_iff : entries.lookup key = none ↔ key ∉ entries.map Prod.fst := by
  rw [List.lookup_eq_none_iff, List.mem_map, not_exists]
  constructor
  · rintro absent entry ⟨mem, rfl⟩
    simpa using absent entry mem
  · intro absent entry mem
    simpa using fun same => absent entry ⟨mem, same.symm⟩

theorem keys_promote (key : κ) (entries : List (κ × ν)) :
    (promote key entries).map Prod.fst =
      if key ∈ entries.map Prod.fst then touch key (entries.map Prod.fst)
      else entries.map Prod.fst := by
  unfold promote
  split
  · rename_i value found
    rw [if_pos (List.mem_map_of_mem (mem_of_lookup found)), keys_cons_erase]
  · rename_i absent
    rw [if_neg (lookup_eq_none_iff.1 absent)]

/-- Using a key changes the order of the entries only. -/
theorem mem_promote_iff (distinct : (entries.map Prod.fst).Nodup) :
    entry ∈ promote key entries ↔ entry ∈ entries := by
  constructor
  · exact mem_of_mem_promote
  · intro mem
    unfold promote
    split
    · rename_i value found
      by_cases used : entry.1 = key
      · have same : (key, value) = entry := by
          have own := (lookup_eq_some_iff distinct).2 (used ▸ mem : (key, entry.2) ∈ entries)
          rw [found] at own
          rw [Option.some.inj own, ← used]
        rw [← same]
        exact List.mem_cons_self
      · exact List.mem_cons_of_mem _ (mem_erase.2 ⟨mem, used⟩)
    · exact mem

/-! ## What is lost -/

theorem erase_eq_self (new : key ∉ entries.map Prod.fst) : erase key entries = entries := by
  apply List.filter_eq_self.2
  rintro ⟨other, value⟩ mem
  simp only [ne_eq, decide_eq_true_eq]
  rintro rfl
  exact new (List.mem_map_of_mem mem)

theorem length_erase_lt (known : key ∈ entries.map Prod.fst) :
    (erase key entries).length < entries.length := by
  obtain ⟨entry, mem, rfl⟩ := List.mem_map.1 known
  apply List.length_filter_lt_length_iff_exists.2
  exact ⟨entry, mem, by simp⟩

theorem length_promote_le (key : κ) (entries : List (κ × ν)) :
    (promote key entries).length ≤ entries.length := by
  unfold promote
  split
  · rename_i value found
    exact length_erase_lt (List.mem_map_of_mem (mem_of_lookup found))
  · exact Nat.le_refl _

theorem put_of_known (known : key ∈ entries.map Prod.fst) (bounded : entries.length ≤ capacity) :
    put capacity key value entries = (key, value) :: erase key entries := by
  apply List.take_of_length_le
  have shorter := length_erase_lt known
  simp only [List.length_cons]
  omega

theorem put_of_room (room : entries.length < capacity) :
    put capacity key value entries = (key, value) :: erase key entries := by
  apply List.take_of_length_le
  have shorter : (erase key entries).length ≤ entries.length := List.length_filter_le _ _
  simp only [List.length_cons]
  omega

theorem put_of_full (new : key ∉ entries.map Prod.fst) (full : entries.length = capacity)
    (room : 0 < capacity) :
    put capacity key value entries = (key, value) :: entries.dropLast := by
  obtain ⟨capacity, rfl⟩ := Nat.exists_eq_add_one.2 room
  rw [put, erase_eq_self new, List.take_succ_cons, List.dropLast_eq_take, full]
  rfl

/-- An entry is lost to another key exactly when that key is new, there is no room, and
the entry is the last. -/
theorem mem_put_iff (distinct : (entries.map Prod.fst).Nodup)
    (bounded : entries.length ≤ capacity) (room : 0 < capacity) (other : entry.1 ≠ key) :
    entry ∈ put capacity key value entries ↔ entry ∈ entries ∧
      ¬ (key ∉ entries.map Prod.fst ∧ entries.length = capacity ∧
        (entries.map Prod.fst).getLast? = some entry.1) := by
  have apart : entry ≠ (key, value) := fun same => other (congrArg Prod.fst same)
  by_cases lost : key ∉ entries.map Prod.fst ∧ entries.length = capacity
  · obtain ⟨new, full⟩ := lost
    rw [put_of_full new full room, List.mem_cons, mem_dropLast_iff distinct]
    constructor
    · rintro (front | ⟨mem, earlier⟩)
      · exact absurd front apart
      · exact ⟨mem, fun reason => earlier reason.2.2⟩
    · rintro ⟨mem, kept⟩
      exact .inr ⟨mem, fun last => kept ⟨new, full, last⟩⟩
  · have whole : put capacity key value entries = (key, value) :: erase key entries := by
      by_cases known : key ∈ entries.map Prod.fst
      · exact put_of_known known bounded
      · apply put_of_room
        have room : entries.length ≠ capacity := fun full => lost ⟨known, full⟩
        omega
    rw [whole, List.mem_cons, mem_erase]
    constructor
    · rintro (new | old)
      · exact absurd new apart
      · exact ⟨old.1, fun reason => lost ⟨reason.1, reason.2.1⟩⟩
    · rintro ⟨mem, -⟩
      exact .inr ⟨mem, other⟩

/-! ## Order -/

/-- What is used is ahead of everything else, which keeps its order. -/
theorem pairwise_touch {before after : κ → κ → Prop} (ordered : keys.Pairwise before)
    (ahead : ∀ other ∈ keys, other ≠ key → after key other)
    (kept : ∀ newer older, older ≠ key → before newer older → after newer older) :
    (touch key keys).Pairwise after := by
  apply List.pairwise_cons.2
  constructor
  · intro other mem
    obtain ⟨old, different⟩ := List.mem_filter.1 mem
    exact ahead other old (by simpa using different)
  · apply (ordered.filter _).imp_of_mem
    intro newer older _ mem
    exact kept newer older (by simpa using (List.mem_filter.1 mem).2)

/-- In an order that nothing is in both ways, the last one is what all others are
before. -/
theorem getLast?_eq_some_iff {before : κ → κ → Prop} (ordered : keys.Pairwise before)
    (asymm : ∀ {one another}, before one another → ¬ before another one) :
    keys.getLast? = some key ↔ key ∈ keys ∧ ∀ other ∈ keys, other ≠ key → before other key := by
  rcases List.eq_nil_or_concat keys with rfl | ⟨front, last, rfl⟩
  · simp
  · rw [List.concat_eq_append] at ordered ⊢
    rw [List.pairwise_append] at ordered
    simp only [List.getLast?_append, List.getLast?_singleton, Option.some_or, Option.some.injEq,
      List.mem_append, List.mem_singleton]
    constructor
    · rintro rfl
      refine ⟨.inr rfl, ?_⟩
      rintro other (mem | rfl) different
      · exact ordered.2.2 other mem last (by simp)
      · exact absurd rfl different
    · rintro ⟨mem | rfl, latest⟩
      · apply Decidable.byContradiction
        intro different
        exact asymm (ordered.2.2 key mem last (by simp)) (latest last (.inr rfl) different)
      · rfl

end Kademlia.Recency
