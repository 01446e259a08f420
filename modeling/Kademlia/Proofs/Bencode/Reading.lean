import Kademlia.Bencode.Record
import Kademlia.Bencode.Value
import Kademlia.Proofs.Bencode.Token

/-!
# What readers make of values

A reader accepts a value when it takes exactly the tokens of that value off the
front of a sequence, whatever comes after them.  Lists are accepted item by
item, and a record is accepted as a dictionary with its fields in any order and
among entries that mean nothing.
-/

namespace Kademlia.Bencode

namespace Value

/-- A value begins with a token that closes nothing. -/
theorem exists_tokens_eq_cons (value : Value) :
    ∃ first rest, value.tokens = first :: rest ∧ first ≠ .close := by
  cases value with
  | int n => exact ⟨.int n, [], by simp [tokens]⟩
  | bytes octets => exact ⟨.bytes octets, [], by simp [tokens]⟩
  | list items => exact ⟨.list, itemTokens items ++ [.close], by simp [tokens]⟩
  | dict entries => exact ⟨.dict, entryTokens entries ++ [.close], by simp [tokens]⟩

@[simp]
theorem tokens_encode (value : Value) : Token.tokens value.encode = value.tokens :=
  Token.tokens_flatMap_encode value.tokens

end Value

namespace Reader

variable {α β : Type}

/-- A value that a reader takes for `a`, whatever comes after it. -/
def Accepts (read : Reader α) (value : Value) (a : α) : Prop :=
  ∀ rest, read (value.tokens ++ rest) = some (a, rest)

theorem accepts_int (n : Int64) : Accepts int (.int n) n :=
  fun _ => rfl

theorem accepts_natUpTo {bound n : Nat} (within : n ≤ bound) (small : n < 65536) :
    Accepts (natUpTo bound) (.int (Int64.ofNat n)) n := by
  intro rest
  have exact : (Int64.ofNat n).toInt = n := Int64.toInt_ofNat_of_lt (by omega)
  simp only [Value.tokens, List.cons_append, List.nil_append, natUpTo, exact]
  rw [if_pos ⟨by omega, by omega⟩, Int.toNat_natCast]

theorem accepts_bytes (value : Bytes) : Accepts bytes (.bytes value) value :=
  fun _ => rfl

theorem accepts_text {value : Bytes} (valid : Utf8.isValid value = true) :
    Accepts text (.bytes value) value := by
  intro rest
  simp [Value.tokens, text, valid]

theorem accepts_item_int (n : Int64) : Accepts item (.int n) (.int n) :=
  fun _ => rfl

theorem accepts_item_bytes (value : Bytes) : Accepts item (.bytes value) (.bytes value) :=
  fun _ => rfl

theorem Accepts.map {read : Reader α} {value : Value} {a : α} (accepted : Accepts read value a)
    (make : α → β) :
    Accepts (fun tokens => (read tokens).map fun (a, rest) => (make a, rest)) value (make a) := by
  intro rest
  simp [accepted rest]

/-! ## Sequences up to a closing mark -/

theorem untilClose_close (read : Reader α) (rest : List Token) :
    untilClose read (.close :: rest) = some ([], rest) := by
  rw [untilClose, if_pos rfl]

/-- What is read first comes before what is read from there on. -/
theorem untilClose_cons {read : Reader α} {first : Token} {piece left : List Token} {a : α}
    (opens : first ≠ .close) (taken : read (first :: (piece ++ left)) = some (a, left)) :
    untilClose read (first :: (piece ++ left)) =
      (untilClose read left).map fun (values, left) => (a :: values, left) := by
  rw [untilClose, if_neg opens, taken]
  simp

theorem untilClose_itemTokens {read : Reader α} (value : β → Value) (make : β → α)
    (xs : List β) (accepted : ∀ x ∈ xs, Accepts read (value x) (make x)) (rest : List Token) :
    untilClose read (Value.itemTokens (xs.map value) ++ .close :: rest) =
      some (xs.map make, rest) := by
  induction xs with
  | nil => exact untilClose_close read rest
  | cons x xs ih =>
    have taken := accepted x List.mem_cons_self
      (Value.itemTokens (xs.map value) ++ .close :: rest)
    have others := ih fun y mem => accepted y (List.mem_cons_of_mem x mem)
    obtain ⟨first, piece, equal, opens⟩ := (value x).exists_tokens_eq_cons
    rw [equal, List.cons_append] at taken
    rw [List.map_cons, Value.itemTokens, equal, List.append_assoc, List.cons_append,
      untilClose_cons opens taken, others]
    rfl

/-- A list is accepted when all its items are. -/
theorem accepts_list {read : Reader α} (value : β → Value) (make : β → α) (xs : List β)
    (accepted : ∀ x ∈ xs, Accepts read (value x) (make x)) :
    Accepts (list read) (.list (xs.map value)) (xs.map make) := by
  intro rest
  rw [Value.tokens, List.cons_append, List.append_assoc]
  exact untilClose_itemTokens value make xs accepted rest

end Reader

namespace Record

open Reader

variable {α β : Type} {fields : List (Field α)}

/-- The entries of a dictionary with what they mean to a record: each is a field
whose reader accepts the value, or means nothing and can be passed over. -/
inductive Entries (fields : List (Field α)) : List (Bytes × Value) → List (Bytes × α) → Prop
  | nil : Entries fields [] []
  | field {key : Bytes} {value : Value} {a : α} {field : Field α} {entries : List (Bytes × Value)}
      {meanings : List (Bytes × α)} (valid : Utf8.isValid key = true)
      (found : fields.find? (·.key = key) = some field) (accepted : Accepts field.read value a)
      (others : Entries fields entries meanings) :
      Entries fields ((key, value) :: entries) ((key, a) :: meanings)
  | other {key : Bytes} {value : Value} {entries : List (Bytes × Value)}
      {meanings : List (Bytes × α)} (valid : Utf8.isValid key = true)
      (unknown : fields.find? (·.key = key) = none)
      (passed : ∀ rest, skip false (value.tokens ++ rest) = some rest)
      (others : Entries fields entries meanings) :
      Entries fields ((key, value) :: entries) meanings

/-- The entries that mean something are read in order. -/
theorem Entries.untilClose_entryTokens {entries : List (Bytes × Value)}
    {meanings : List (Bytes × α)} (spelled : Entries fields entries meanings)
    (rest : List Token) :
    ∃ read, untilClose (entry fields) (Value.entryTokens entries ++ .close :: rest) =
        some (read, rest) ∧ read.filterMap id = meanings := by
  induction spelled with
  | nil => exact ⟨[], untilClose_close _ rest, rfl⟩
  | @field key value a field entries meanings valid found accepted _ ih =>
    obtain ⟨read, others, rfl⟩ := ih
    have taken : entry fields (.bytes key :: (value.tokens ++
        (Value.entryTokens entries ++ .close :: rest))) =
          some (some (key, a), Value.entryTokens entries ++ .close :: rest) := by
      rw [entry, if_pos valid, found]
      simp only [accepted _, Option.map_some]
    refine ⟨some (key, a) :: read, ?_, rfl⟩
    rw [Value.entryTokens, List.cons_append, List.append_assoc,
      untilClose_cons (by simp) taken, others]
    rfl
  | @other key value entries meanings valid unknown passed _ ih =>
    obtain ⟨read, others, rfl⟩ := ih
    have taken : entry fields (.bytes key :: (value.tokens ++
        (Value.entryTokens entries ++ .close :: rest))) =
          some (none, Value.entryTokens entries ++ .close :: rest) := by
      rw [entry, if_pos valid, unknown]
      simp only [passed _, Option.map_some]
    refine ⟨none :: read, ?_, rfl⟩
    rw [Value.entryTokens, List.cons_append, List.append_assoc,
      untilClose_cons (by simp) taken, others]
    rfl

/-- A record is accepted as a dictionary that has its fields, none of them twice. -/
theorem Entries.accepts_dict {entries : List (Bytes × Value)} {meanings : List (Bytes × α)}
    (spelled : Entries fields entries meanings) (complete : complete fields meanings = true) :
    Accepts (read fields) (.dict entries) meanings := by
  intro rest
  obtain ⟨read, equal, rfl⟩ := spelled.untilClose_entryTokens rest
  rw [Value.tokens, List.cons_append, List.append_assoc]
  change (untilClose (entry fields) (Value.entryTokens entries ++ .close :: rest)).bind _ = _
  rw [equal]
  change (if Record.complete fields (read.filterMap id) then some (read.filterMap id, rest)
    else none) = _
  rw [if_pos complete]

/-- A dictionary whose entries spell what is made of the fields of a record. -/
inductive Spells (fields : List (Field α)) (make : List (Bytes × α) → Option β) :
    Value → β → Prop
  | dict {entries : List (Bytes × Value)} {meanings : List (Bytes × α)} {b : β}
      (spelled : Entries fields entries meanings)
      (complete : complete fields meanings = true) (made : make meanings = some b) :
      Spells fields make (.dict entries) b

theorem Spells.exists_accepts {make : List (Bytes × α) → Option β} {value : Value} {b : β}
    (spells : Spells fields make value b) :
    ∃ meanings, Accepts (read fields) value meanings ∧ make meanings = some b := by
  obtain ⟨spelled, complete, made⟩ := spells
  exact ⟨_, spelled.accepts_dict complete, made⟩

end Record

end Kademlia.Bencode
