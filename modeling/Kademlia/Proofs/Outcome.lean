/-!
# Computations that may fail
-/

namespace Kademlia

variable {α β ε : Type}

@[simp]
theorem ok_bind (a : α) (next : α → Except ε β) : (Except.ok a >>= next) = next a :=
  rfl

@[simp]
theorem error_bind (error : ε) (next : α → Except ε β) :
    (Except.error error >>= next) = Except.error error :=
  rfl

@[simp]
theorem map_ok (f : α → β) (a : α) : (f <$> (Except.ok a : Except ε α)) = Except.ok (f a) :=
  rfl

@[simp]
theorem pure_eq_ok (a : α) : (pure a : Except ε α) = Except.ok a :=
  rfl

@[simp]
theorem throw_eq_error (error : ε) : (throw error : Except ε α) = Except.error error :=
  rfl

/-- A success is known by what it gives. -/
theorem eq_ok_of_toOption {outcome : Except ε α} {a : α} (gives : outcome.toOption = some a) :
    outcome = .ok a := by
  cases outcome with
  | error error => cases gives
  | ok given => rw [Option.some.inj gives]

/-- What comes of two computations in a row comes of the second one. -/
theorem bind_eq_ok_iff {first : Except ε α} {next : α → Except ε β} {b : β} :
    first >>= next = .ok b ↔ ∃ a, first = .ok a ∧ next a = .ok b := by
  cases first with
  | error error => simp
  | ok a => simp

theorem map_eq_ok_iff {f : α → β} {outcome : Except ε α} {b : β} :
    f <$> outcome = .ok b ↔ ∃ a, outcome = .ok a ∧ f a = b := by
  cases outcome with
  | error error => simp [Functor.map, Except.map]
  | ok a => simp

/-- Checking item by item succeeds when every check does. -/
theorem forM_eq_ok_iff {items : List α} {check : α → Except ε Unit} :
    items.forM check = .ok () ↔ ∀ item ∈ items, check item = .ok () := by
  induction items with
  | nil => simp
  | cons item items ih =>
    change (check item >>= fun _ => items.forM check) = .ok () ↔ _
    rw [List.forall_mem_cons, ← ih]
    cases check item with
    | error error => simp
    | ok done => simp

/-- Reading item by item what was written item by item gives what each is read as. -/
theorem mapM_map_eq_ok {write : α → β} {read : β → Except ε α} {kept : α → α} {items : List α}
    (reads : ∀ item ∈ items, read (write item) = .ok (kept item)) :
    (items.map write).mapM read = .ok (items.map kept) := by
  induction items with
  | nil => rfl
  | cons item items ih =>
    have others := ih fun other mem => reads other (List.mem_cons_of_mem item mem)
    rw [List.map_cons, List.mapM_cons, reads item List.mem_cons_self, others]
    rfl

/-- A reader that takes what is written of some items and nothing else does so item by item. -/
theorem mapM_eq_ok_iff {write : α → β} {read : β → Except ε α} {Fit : α → Prop}
    (exact : ∀ {source item}, read source = .ok item ↔ source = write item ∧ Fit item)
    {sources : List β} {items : List α} :
    sources.mapM read = .ok items ↔ sources = items.map write ∧ ∀ item ∈ items, Fit item := by
  constructor
  · intro taken
    induction sources generalizing items with
    | nil =>
      cases taken
      exact ⟨rfl, nofun⟩
    | cons source sources ih =>
      rw [List.mapM_cons] at taken
      rcases bind_eq_ok_iff.1 taken with ⟨item, first, taken⟩
      rcases bind_eq_ok_iff.1 taken with ⟨others, rest, same⟩
      cases same
      obtain ⟨written, fit⟩ := exact.1 first
      obtain ⟨allWritten, allFit⟩ := ih rest
      exact ⟨by rw [List.map_cons, written, allWritten], List.forall_mem_cons.2 ⟨fit, allFit⟩⟩
  · rintro ⟨rfl, fit⟩
    have read := mapM_map_eq_ok fun item mem => exact.2 ⟨rfl, fit item mem⟩
    rwa [List.map_id'] at read

end Kademlia
