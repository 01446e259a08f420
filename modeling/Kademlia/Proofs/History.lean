/-!
# What happens in the course of events
-/

namespace Kademlia

variable {σ ε : Type} {step : σ → ε → σ} {start : σ} {events first second : List ε} {event : ε}
  {holds : σ → ε → Prop}

/-- At one of some events something holds of what came before it and of the event. -/
def Sometime (step : σ → ε → σ) (start : σ) (events : List ε) (holds : σ → ε → Prop) : Prop :=
  ∃ before event after, events = before ++ event :: after ∧ holds (before.foldl step start) event

@[simp]
theorem not_sometime_nil : ¬ Sometime step start [] holds := by
  rintro ⟨before, event, after, parts, -⟩
  simp at parts

theorem sometime_append :
    Sometime step start (first ++ second) holds ↔
      Sometime step start first holds ∨ Sometime step (first.foldl step start) second holds := by
  constructor
  · rintro ⟨before, event, after, parts, happened⟩
    rcases List.append_eq_append_iff.1 parts with ⟨more, rfl, rest⟩ | ⟨more, rfl, rest⟩
    · exact .inr ⟨more, event, after, rest, by simpa using happened⟩
    · cases more with
      | nil => exact .inr ⟨[], event, after, by simpa using rest.symm, by simpa using happened⟩
      | cons own more =>
        obtain ⟨rfl, rfl⟩ := List.cons.inj rest
        exact .inl ⟨before, event, more, rfl, happened⟩
  · rintro (⟨before, event, after, rfl, happened⟩ | ⟨before, event, after, rfl, happened⟩)
    · exact ⟨before, event, after ++ second, by simp, happened⟩
    · exact ⟨first ++ before, event, after, by simp, by simpa using happened⟩

@[simp]
theorem sometime_singleton : Sometime step start [event] holds ↔ holds start event := by
  constructor
  · rintro ⟨before, own, after, parts, happened⟩
    cases before with
    | nil =>
      obtain ⟨rfl, -⟩ := List.cons.inj parts
      exact happened
    | cons first before => simp at parts
  · intro happened
    exact ⟨[], event, [], rfl, happened⟩

theorem sometime_concat :
    Sometime step start (events ++ [event]) holds ↔
      Sometime step start events holds ∨ holds (events.foldl step start) event := by
  rw [sometime_append, sometime_singleton]

/-! ## The last time -/

/-- The number of the last of some events that is marked, by what came before it and by
itself; they count from one, and none is marked where it is 0. -/
def lastTime (step : σ → ε → σ) (marks : σ → ε → Bool) : List ε → σ → Nat
  | [], _ => 0
  | event :: events, start =>
      let later := lastTime step marks events (step start event)
      if later ≠ 0 then later + 1 else if marks start event then 1 else 0

variable {marks others : σ → ε → Bool}

theorem lastTime_concat (events : List ε) (event : ε) (start : σ) :
    lastTime step marks (events ++ [event]) start =
      if marks (events.foldl step start) event then events.length + 1
      else lastTime step marks events start := by
  induction events generalizing start with
  | nil => simp [lastTime]
  | cons first events ih =>
    rw [List.cons_append, lastTime, ih, List.foldl_cons, List.length_cons]
    by_cases marked : marks (events.foldl step (step start first)) event
    · simp [marked]
    · simp only [marked, lastTime]
      rfl

theorem lastTime_le_length (events : List ε) (start : σ) :
    lastTime step marks events start ≤ events.length := by
  induction events generalizing start with
  | nil => exact Nat.le_refl 0
  | cons event events ih =>
    have later := ih (step start event)
    simp only [lastTime, List.length_cons]
    split
    · omega
    · split
      · omega
      · omega

/-- Of two marks the later one is the last. -/
theorem lastTime_or (events : List ε) (start : σ) :
    lastTime step (fun state event => marks state event || others state event) events start =
      max (lastTime step marks events start) (lastTime step others events start) := by
  induction events generalizing start with
  | nil => rfl
  | cons event events ih =>
    simp only [lastTime, ih, Bool.or_eq_true]
    grind

end Kademlia
