/-!
# Blanks and pieces of text

White space in the sense of Unicode's `White_Space` property, trimming, and
cutting a text at a separator.
-/

namespace Kademlia.Text

/-- The characters with the `White_Space` property. -/
def isBlank (c : Char) : Bool :=
  let n := c.toNat
  (9 ≤ n && n ≤ 13) || n == 0x20 || n == 0x85 || n == 0xA0 || n == 0x1680 ||
    (0x2000 ≤ n && n ≤ 0x200A) || n == 0x2028 || n == 0x2029 || n == 0x202F || n == 0x205F ||
    n == 0x3000

/-- A text without the blanks at its ends. -/
def trim (text : List Char) : List Char :=
  ((text.dropWhile isBlank).reverse.dropWhile isBlank).reverse

/-- The pieces between the occurrences of a separator: one more than there are of those. -/
def split (separator : Char) : List Char → List (List Char)
  | [] => [[]]
  | c :: rest =>
      if c = separator then [] :: split separator rest
      else
        match split separator rest with
        | [] => [[c]]
        | piece :: pieces => (c :: piece) :: pieces

/-- The texts around the first occurrence of a separator. -/
def splitFirst? (separator : Char) : List Char → Option (List Char × List Char)
  | [] => none
  | c :: rest =>
      if c = separator then some ([], rest)
      else (splitFirst? separator rest).map fun (before, after) => (c :: before, after)

@[simp]
theorem trim_nil : trim [] = [] :=
  rfl

@[simp]
theorem split_nil (separator : Char) : split separator [] = [[]] :=
  rfl

theorem split_ne_nil (separator : Char) (text : List Char) : split separator text ≠ [] := by
  cases text with
  | nil => simp
  | cons c rest =>
    unfold split
    split
    · simp
    · split <;> simp

/-- The first piece ends at the first separator. -/
theorem split_append_cons {separator : Char} {before : List Char} (absent : separator ∉ before)
    (rest : List Char) :
    split separator (before ++ separator :: rest) = before :: split separator rest := by
  induction before with
  | nil => simp [split]
  | cons c before ih =>
    rw [List.mem_cons, not_or] at absent
    rw [List.cons_append, split, if_neg (Ne.symm absent.1), ih absent.2]

/-- A text splits at its first separator exactly when it is so composed. -/
theorem splitFirst?_eq_some_iff {separator : Char} {text before after : List Char} :
    splitFirst? separator text = some (before, after) ↔
      text = before ++ separator :: after ∧ separator ∉ before := by
  induction text generalizing before with
  | nil => simp [splitFirst?]
  | cons c rest ih =>
    by_cases here : c = separator
    · subst here
      cases before with
      | nil => simp [splitFirst?]
      | cons d before => simp [splitFirst?]; grind
    · cases before with
      | nil => simp [splitFirst?, here]
      | cons d before =>
        simp only [splitFirst?, here, if_false, Option.map_eq_some_iff, Prod.mk.injEq,
          Prod.exists, List.cons.injEq, List.cons_append]
        constructor
        · rintro ⟨before, after, found, ⟨rfl, rfl⟩, rfl⟩
          have := ih.1 found
          grind
        · rintro ⟨⟨rfl, rest_eq⟩, absent⟩
          exact ⟨before, after, ih.2 ⟨rest_eq, by grind⟩, ⟨rfl, rfl⟩, rfl⟩

end Kademlia.Text
