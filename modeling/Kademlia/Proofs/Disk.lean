import Kademlia.Disk
import Kademlia.Proofs.Association

/-!
# A file that was replaced

A file can be replaced exactly where its directory is there, unless a directory is in its
place or in that of the temporary file.  What is read at its path afterwards is what was
written, and the temporary file beside it is gone.
-/

namespace Kademlia.Disk

variable {disk : Disk} {path other : String} {contents : Bytes}

theorem lookup_erase (disk : Disk) (path other : String) :
    (disk.erase path).entries.lookup other =
      if other = path then none else disk.entries.lookup other :=
  Association.lookup_filter_ne path disk.entries other

theorem lookup_set (disk : Disk) (path other : String) (entry : DiskEntry) :
    (disk.set path entry).entries.lookup other =
      if other = path then some entry else disk.entries.lookup other := by
  rw [set, List.lookup_append, lookup_erase]
  split
  · rename_i same
    rw [same, List.lookup_cons_self, Option.none_or]
  · rename_i different
    rw [Association.lookup_cons_of_ne different, List.lookup_nil, Option.or_none]

/-! ## Paths -/

/-- The directories on the way are shorter paths. -/
theorem length_lt_of_mem_waysBehind {before letters : List Char} {way : String}
    (mem : way ∈ waysBehind before letters) :
    way.length < before.length + letters.length := by
  induction letters generalizing before with
  | nil => exact absurd mem List.not_mem_nil
  | cons letter letters ih =>
    rcases List.mem_append.1 mem with here | later
    · split at here
      · rw [List.mem_singleton.1 here, String.length_ofList, List.length_reverse, List.length_cons]
        omega
      · exact absurd here List.not_mem_nil
    · have shorter := ih later
      rw [List.length_cons] at shorter ⊢
      omega

theorem length_lt_of_mem_ways {way : String} (mem : way ∈ ways path) :
    way.length < path.length := by
  have shorter := length_lt_of_mem_waysBehind mem
  rwa [List.length_nil, Nat.zero_add, String.length_toList] at shorter

/-- Letters that are no slashes lead through no further directory. -/
theorem waysBehind_append {before letters suffix : List Char} (flat : '/' ∉ suffix) :
    waysBehind before (letters ++ suffix) = waysBehind before letters := by
  induction letters generalizing before with
  | nil =>
    induction suffix generalizing before with
    | nil => rfl
    | cons letter suffix ih =>
      obtain ⟨own, others⟩ := not_or.1 (mt List.mem_cons.2 flat)
      have here : ¬ (letter = '/' ∧ before ≠ []) := fun both => own both.1.symm
      rw [List.nil_append, waysBehind, waysBehind, if_neg here, List.nil_append]
      exact ih others
  | cons letter letters ih => rw [List.cons_append, waysBehind, waysBehind, ih]

/-- The temporary file is in the directory of the file that it is for. -/
theorem ways_temporary (path : String) : ways (temporary path) = ways path := by
  rw [ways, temporary, String.toList_append]
  exact waysBehind_append (by decide)

theorem length_lt_temporary (path : String) : path.length < (temporary path).length := by
  rw [temporary, String.length_append]
  exact Nat.lt_add_of_pos_right (by decide)

theorem temporary_ne (path : String) : temporary path ≠ path := fun same =>
  Nat.ne_of_gt (length_lt_temporary path) (congrArg String.length same)

/-! ## What can be reached -/

theorem reaches_temporary (disk : Disk) (path : String) :
    disk.reaches (temporary path) = disk.reaches path := by
  rw [reaches, reaches, ways_temporary]

theorem reaches_congr {after : Disk}
    (same : ∀ way ∈ ways path, after.entries.lookup way = disk.entries.lookup way) :
    after.reaches path = disk.reaches path := by
  rw [reaches, reaches, Bool.eq_iff_iff, List.all_eq_true, List.all_eq_true]
  exact forall₂_congr fun way mem => by rw [same way mem]

/-- A path that is no shorter is not on the way. -/
theorem ne_of_mem_ways (longer : path.length ≤ other.length) {way : String}
    (mem : way ∈ ways path) : way ≠ other := by
  rintro rfl
  exact absurd (length_lt_of_mem_ways mem) (Nat.not_lt.2 longer)

theorem reaches_set (longer : path.length ≤ other.length) (disk : Disk) (entry : DiskEntry) :
    (disk.set other entry).reaches path = disk.reaches path :=
  reaches_congr fun way mem => by rw [lookup_set, if_neg (ne_of_mem_ways longer mem)]

theorem reaches_erase (longer : path.length ≤ other.length) (disk : Disk) :
    (disk.erase other).reaches path = disk.reaches path :=
  reaches_congr fun way mem => by rw [lookup_erase, if_neg (ne_of_mem_ways longer mem)]

theorem entry?_of_reaches (reached : disk.reaches path = true) :
    disk.entry? path = disk.entries.lookup path :=
  if_pos reached

/-! ## Replacing a file -/

/-- A file is written exactly where its directory is there and no directory is in its place. -/
theorem write_eq_ok_iff {after : Disk} :
    disk.write path contents = .ok after ↔
      disk.reaches path = true ∧ disk.entries.lookup path ≠ some .directory ∧
        after = disk.set path (.file contents) := by
  unfold write
  by_cases reached : disk.reaches path = true
  · rw [if_pos reached, entry?_of_reaches reached]
    split
    · rename_i inPlace
      exact iff_of_false nofun fun all => all.2.1 inPlace
    · rename_i free
      rw [Except.ok.injEq, eq_comm]
      exact ⟨fun same => ⟨reached, free, same⟩, fun all => all.2.2⟩
  · rw [if_neg reached]
    exact iff_of_false nofun fun all => reached all.1

/-- A file can be replaced exactly where its directory is there and no directory is in its
place or in that of the temporary file; and so it is replaced. -/
theorem replace_eq_ok_iff {after : Disk} :
    disk.replace path contents = (.ok (), after) ↔
      disk.reaches path = true ∧ disk.entries.lookup path ≠ some .directory ∧
        disk.entries.lookup (temporary path) ≠ some .directory ∧
        after = ((disk.set (temporary path) (.file contents)).set path (.file contents)).erase
          (temporary path) := by
  have longer := Nat.le_of_lt (length_lt_temporary path)
  have reached := reaches_set longer disk (.file contents)
  have there : (disk.set (temporary path) (.file contents)).entries.lookup path =
      disk.entries.lookup path := by
    rw [lookup_set, if_neg (temporary_ne path).symm]
  constructor
  · intro replaced
    unfold replace at replaced
    split at replaced
    · cases replaced
    · rename_i wrote
      obtain ⟨way, beside, rfl⟩ := write_eq_ok_iff.1 wrote
      rw [reaches_temporary] at way
      split at replaced
      · cases replaced
      · rename_i moved
        obtain ⟨-, inPlace, rfl⟩ := write_eq_ok_iff.1 moved
        rw [there] at inPlace
        cases replaced
        exact ⟨way, inPlace, beside, rfl⟩
  · rintro ⟨way, inPlace, beside, rfl⟩
    rw [replace, write_eq_ok_iff.2 ⟨(reaches_temporary disk path).trans way, beside, rfl⟩]
    dsimp only
    rw [write_eq_ok_iff.2 ⟨reached.trans way, there ▸ inPlace, rfl⟩]

/-- A file that could be replaced is read as what it was replaced by. -/
theorem read_of_replace {after : Disk}
    (replaced : disk.replace path contents = (.ok (), after)) :
    after.read path = .ok contents := by
  obtain ⟨way, -, -, rfl⟩ := replace_eq_ok_iff.1 replaced
  have longer := Nat.le_of_lt (length_lt_temporary path)
  rw [← reaches_set longer disk (.file contents), ← reaches_set (Nat.le_refl _) _ (.file contents),
    ← reaches_erase longer] at way
  rw [read, entry?_of_reaches way, lookup_erase, if_neg (temporary_ne path).symm, lookup_set,
    if_pos rfl]

end Kademlia.Disk
