/-!
# Lists of keys with values
-/

namespace Kademlia.Association

variable {κ ν : Type} [BEq κ] [LawfulBEq κ] {key other : κ} {value : ν}

theorem lookup_cons_of_ne (different : other ≠ key) (entries : List (κ × ν)) :
    ((key, value) :: entries).lookup other = entries.lookup other := by
  rw [List.lookup_cons, beq_false_of_ne different]

/-- Without the entries of a key the others are found as before. -/
theorem lookup_filter_ne [DecidableEq κ] (key : κ) (entries : List (κ × ν)) (other : κ) :
    (entries.filter fun (k, _) => k ≠ key).lookup other =
      if other = key then none else entries.lookup other := by
  induction entries with
  | nil => simp
  | cons entry entries ih =>
    obtain ⟨k, v⟩ := entry
    by_cases same : k = key
    · subst same
      rw [List.filter_cons_of_neg (by simp), ih]
      split
      · rfl
      · rename_i elsewhere
        rw [lookup_cons_of_ne elsewhere]
    · rw [List.filter_cons_of_pos (by simpa using same)]
      by_cases there : other = k
      · rw [there, List.lookup_cons_self, List.lookup_cons_self, if_neg same]
      · rw [lookup_cons_of_ne there, lookup_cons_of_ne there, ih]

/-- An entry that was appended under a new key is taken away again with its key. -/
theorem filter_append_ne [DecidableEq κ] {entries : List (κ × ν)}
    (absent : entries.lookup key = none) (value : ν) :
    ((entries ++ [(key, value)]).filter fun (k, _) => k ≠ key) = entries := by
  have others : ∀ entry ∈ entries, entry.1 ≠ key := by
    intro entry mem
    exact (bne_iff_ne.1 (List.lookup_eq_none_iff.1 absent entry mem)).symm
  rw [List.filter_append, List.filter_cons_of_neg (by simp), List.filter_nil, List.append_nil,
    List.filter_eq_self]
  intro entry mem
  exact decide_eq_true (others entry mem)

/-- Values that are changed are found changed under their keys. -/
theorem lookup_map (change : κ → ν → ν) (entries : List (κ × ν)) (key : κ) :
    (entries.map fun (k, v) => (k, change k v)).lookup key =
      (entries.lookup key).map (change key) := by
  induction entries with
  | nil => rfl
  | cons entry entries ih =>
    obtain ⟨k, v⟩ := entry
    rw [List.map_cons]
    by_cases here : key = k
    · rw [here, List.lookup_cons_self, List.lookup_cons_self]
      rfl
    · rw [lookup_cons_of_ne here, lookup_cons_of_ne here, ih]

/-- Entries of distinct keys are found in any order. -/
theorem lookup_perm {entries others : List (κ × ν)} (permuted : entries.Perm others)
    (distinct : (entries.map Prod.fst).Nodup) (key : κ) :
    entries.lookup key = others.lookup key := by
  induction permuted with
  | nil => rfl
  | cons entry _ ih =>
    rw [List.map_cons, List.nodup_cons] at distinct
    rw [List.lookup_cons, List.lookup_cons, ih distinct.2]
  | swap first second rest =>
    obtain ⟨firstKey, firstValue⟩ := first
    obtain ⟨secondKey, secondValue⟩ := second
    rw [List.map_cons, List.map_cons, List.nodup_cons, List.mem_cons, not_or] at distinct
    by_cases here : key = firstKey
    · rw [here, lookup_cons_of_ne (Ne.symm distinct.1.1), List.lookup_cons_self,
        List.lookup_cons_self]
    · rw [lookup_cons_of_ne here]
      by_cases there : key = secondKey
      · rw [there, List.lookup_cons_self, List.lookup_cons_self]
      · rw [lookup_cons_of_ne there, lookup_cons_of_ne there, lookup_cons_of_ne here]
  | trans before _ first second =>
    rw [first distinct, second ((before.map Prod.fst).nodup_iff.1 distinct)]

/-- Where no two have the same key, the others are what is left without one. -/
theorem filter_ne_of_nodup {α γ : Type} [DecidableEq γ] {keyOf : α → γ} {older newer : List α}
    {own : α} (distinct : ((older ++ own :: newer).map keyOf).Nodup) :
    ((older ++ own :: newer).filter fun other => keyOf other ≠ keyOf own) = older ++ newer := by
  rw [List.map_append, List.map_cons, List.perm_middle.nodup_iff, List.nodup_cons,
    ← List.map_append] at distinct
  rw [List.filter_append, List.filter_cons_of_neg (by simp), ← List.filter_append,
    List.filter_eq_self]
  intro other mem
  have different : keyOf other ≠ keyOf own :=
    fun same => distinct.1 (same ▸ List.mem_map_of_mem mem)
  simpa using different

end Kademlia.Association
