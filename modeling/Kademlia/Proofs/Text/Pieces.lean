import Kademlia.Text.Blank
import Mathlib.Data.List.Basic
import Mathlib.Data.List.TakeWhile

/-!
# Trimming and cutting

Trimming finds the one text without blanks at its ends that a text is, but for blanks around
it.  Cutting at a separator and joining with it are inverse to each other.
-/

namespace Kademlia.Text

variable {text core before after : List Char} {separator : Char}

/-! ## Blanks around a text -/

/-- All characters of a text are blanks. -/
def Blank (text : List Char) : Prop :=
  ∀ c ∈ text, isBlank c = true

/-- A text with blanks around it. -/
def Padded (core text : List Char) : Prop :=
  ∃ before after, text = before ++ core ++ after ∧ Blank before ∧ Blank after

/-- A text with no blank at either end. -/
structure Tight (text : List Char) : Prop where
  head : ∀ c ∈ text.head?, isBlank c = false
  last : ∀ c ∈ text.getLast?, isBlank c = false

theorem tight_of_solid (solid : ∀ c ∈ text, isBlank c = false) : Tight text where
  head c first := solid c (List.mem_of_mem_head? first)
  last c final := solid c (List.mem_of_mem_getLast? final)

/-- The ends of a text in three parts are those of its outer parts. -/
theorem Tight.append {first last : List Char} (left : Tight first) (right : Tight last)
    (nonempty : first ≠ []) (others : last ≠ []) (middle : List Char) : Tight (first ++ middle ++ last) where
  head := by
    rw [List.append_assoc, List.head?_append_of_ne_nil _ nonempty]
    exact left.head
  last := by
    rw [List.getLast?_append_of_ne_nil _ others]
    exact right.last

theorem Padded.append_left (padded : Padded core text) (blank : Blank before) :
    Padded core (before ++ text) := by
  obtain ⟨left, right, rfl, blankLeft, blankRight⟩ := padded
  refine ⟨before ++ left, right, by simp only [List.append_assoc], ?_, blankRight⟩
  exact List.forall_mem_append.2 ⟨blank, blankLeft⟩

theorem Padded.append_right (padded : Padded core text) (blank : Blank after) :
    Padded core (text ++ after) := by
  obtain ⟨left, right, rfl, blankLeft, blankRight⟩ := padded
  refine ⟨left, right ++ after, by simp only [List.append_assoc], blankLeft, ?_⟩
  exact List.forall_mem_append.2 ⟨blankRight, blank⟩

theorem padded_self (text : List Char) : Padded text text :=
  ⟨[], [], (List.append_nil text).symm, nofun, nofun⟩

/-! ## Trimming -/

theorem dropWhile_of_blank (blank : Blank text) : text.dropWhile isBlank = [] :=
  List.dropWhile_eq_nil_iff.2 blank

theorem dropWhile_of_tight (tight : Tight text) : text.dropWhile isBlank = text := by
  cases text with
  | nil => rfl
  | cons c text => exact List.dropWhile_cons_of_neg (Bool.eq_false_iff.1 (tight.head c rfl))

theorem Tight.reverse (tight : Tight text) : Tight text.reverse where
  head := by
    rw [List.head?_reverse]
    exact tight.last
  last := by
    rw [List.getLast?_reverse]
    exact tight.head

theorem Blank.reverse (blank : Blank text) : Blank text.reverse :=
  fun c mem => blank c (List.mem_reverse.1 mem)

/-- Trimming a text takes away the blanks around it. -/
theorem trim_of_padded (padded : Padded core text) (tight : Tight core) : trim text = core := by
  obtain ⟨before, after, rfl, blankBefore, blankAfter⟩ := padded
  have front : (before ++ core ++ after).dropWhile isBlank = (core ++ after).dropWhile isBlank := by
    rw [List.append_assoc, List.dropWhile_append_of_pos blankBefore]
  cases core with
  | nil =>
    rw [trim, front, List.nil_append, dropWhile_of_blank blankAfter]
    rfl
  | cons c core =>
    have stop : (c :: core ++ after).dropWhile isBlank = c :: core ++ after :=
      List.dropWhile_cons_of_neg (Bool.eq_false_iff.1 (tight.head c rfl))
    rw [trim, front, stop, List.reverse_append, List.dropWhile_append_of_pos blankAfter.reverse,
      dropWhile_of_tight tight.reverse, List.reverse_reverse]

/-- What is taken away are blanks. -/
theorem padded_trim (text : List Char) : Padded (trim text) text := by
  let rest := text.dropWhile isBlank
  have blank (text : List Char) : Blank (text.takeWhile isBlank) :=
    fun _ mem => List.mem_takeWhile_imp mem
  refine ⟨text.takeWhile isBlank, (rest.reverse.takeWhile isBlank).reverse, ?_, blank text,
    (blank rest.reverse).reverse⟩
  have kept : trim text ++ (rest.reverse.takeWhile isBlank).reverse = rest := by
    rw [trim, ← List.reverse_append, List.takeWhile_append_dropWhile, List.reverse_reverse]
  rw [List.append_assoc, kept, List.takeWhile_append_dropWhile]

theorem trim_eq_nil_iff : trim text = [] ↔ Blank text := by
  constructor
  · intro empty
    obtain ⟨before, after, parts, blankBefore, blankAfter⟩ := padded_trim text
    rw [empty, List.append_nil] at parts
    rw [parts]
    exact List.forall_mem_append.2 ⟨blankBefore, blankAfter⟩
  · intro blank
    exact trim_of_padded ⟨text, [], by simp, blank, nofun⟩ ⟨nofun, nofun⟩

/-! ## Cutting -/

theorem split_eq_splitOn (separator : Char) (text : List Char) :
    split separator text = text.splitOn separator := by
  induction text with
  | nil => rfl
  | cons c text ih =>
    rw [split, List.splitOn_cons_eq_if_modifyHead, ih]
    by_cases here : c = separator
    · simp [here]
    · simp only [here, if_false, beq_iff_eq]
      cases pieces : text.splitOn separator with
      | nil => exact absurd pieces (List.splitOn_ne_nil separator text)
      | cons piece pieces => rfl

theorem splitFirst?_eq_none_iff : splitFirst? separator text = none ↔ separator ∉ text := by
  induction text with
  | nil => simp [splitFirst?]
  | cons c text ih =>
    by_cases here : c = separator
    · simp [splitFirst?, here]
    · simp [splitFirst?, here, ih, Ne.symm here]

end Kademlia.Text
