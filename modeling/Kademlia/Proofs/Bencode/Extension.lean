import Kademlia.Proofs.Association
import Kademlia.Proofs.Bencode.Reading

/-!
# Records with more in them

Whatever value an unknown key has, a reader passes over exactly its tokens.  So a record
is read from its entries in any order and among any others whose keys it does not know.
-/

namespace Kademlia.Bencode

namespace Reader

/-! ## Passing over values -/

/-- Between two values a closing mark closes what is open. -/
theorem skipWithin_close {frame : Frame} (filled : frame ≠ .value) (frames : List Frame)
    (rest : List Token) :
    skipWithin false (frame :: frames) (.close :: rest) = skipWithin false frames rest := by
  cases frame with
  | value => exact absurd rfl filled
  | item => rfl
  | key => rfl
  | octet => rfl

section Opening

variable {frame : Frame} (plain : frame ≠ .octet) (frames : List Frame) (rest : List Token)

include plain

theorem skipWithin_int (n : Int64) :
    skipWithin false (frame :: frames) (.int n :: rest) =
      skipWithin false (frame.advance :: frames) rest := by
  cases frame with
  | octet => exact absurd rfl plain
  | _ => rfl

theorem skipWithin_bytes (value : Bytes) :
    skipWithin false (frame :: frames) (.bytes value :: rest) =
      skipWithin false (frame.advance :: frames) rest := by
  cases frame with
  | octet => exact absurd rfl plain
  | _ => rfl

theorem skipWithin_list :
    skipWithin false (frame :: frames) (.list :: rest) =
      skipWithin false (.item :: frame.advance :: frames) rest := by
  cases frame with
  | octet => exact absurd rfl plain
  | _ => rfl

theorem skipWithin_dict :
    skipWithin false (frame :: frames) (.dict :: rest) =
      skipWithin false (.key :: frame.advance :: frames) rest := by
  cases frame with
  | octet => exact absurd rfl plain
  | _ => rfl

end Opening

mutual

/-- A value is passed over, and leaves what is open around it one value further. -/
theorem skipWithin_tokens (value : Value) {frame : Frame} (plain : frame ≠ .octet)
    (frames : List Frame) (rest : List Token) :
    skipWithin false (frame :: frames) (value.tokens ++ rest) =
      skipWithin false (frame.advance :: frames) rest := by
  cases value with
  | int n => exact skipWithin_int plain frames rest n
  | bytes value => exact skipWithin_bytes plain frames rest value
  | list items =>
    rw [Value.tokens, List.cons_append, List.append_assoc, List.singleton_append,
      skipWithin_list plain, skipWithin_itemTokens items, skipWithin_close (by decide)]
  | dict entries =>
    rw [Value.tokens, List.cons_append, List.append_assoc, List.singleton_append,
      skipWithin_dict plain, skipWithin_entryTokens entries, skipWithin_close (by decide)]

theorem skipWithin_itemTokens (items : List Value) (frames : List Frame) (rest : List Token) :
    skipWithin false (.item :: frames) (Value.itemTokens items ++ rest) =
      skipWithin false (.item :: frames) rest := by
  cases items with
  | nil => rfl
  | cons item items =>
    rw [Value.itemTokens, List.append_assoc, skipWithin_tokens item (by decide), Frame.advance,
      skipWithin_itemTokens items]

theorem skipWithin_entryTokens (entries : List (Bytes × Value)) (frames : List Frame)
    (rest : List Token) :
    skipWithin false (.key :: frames) (Value.entryTokens entries ++ rest) =
      skipWithin false (.key :: frames) rest := by
  match entries with
  | [] => rfl
  | (key, value) :: entries =>
    rw [Value.entryTokens, List.cons_append, List.append_assoc, skipWithin_bytes (by decide),
      Frame.advance, skipWithin_tokens value (by decide), Frame.advance,
      skipWithin_entryTokens entries]

end

/-- Whatever a value is, exactly its tokens are passed over. -/
theorem skip_tokens (value : Value) (rest : List Token) :
    skip false (value.tokens ++ rest) = some rest := by
  cases value with
  | int n => rfl
  | bytes value => rfl
  | list items =>
    rw [Value.tokens, List.cons_append, List.append_assoc, skip, List.singleton_append,
      skipWithin_itemTokens, skipWithin_close (by decide), skipWithin]
  | dict entries =>
    rw [Value.tokens, List.cons_append, List.append_assoc, skip, List.singleton_append,
      skipWithin_entryTokens, skipWithin_close (by decide), skipWithin]

end Reader

namespace Record

variable {α β : Type} {fields : List (Field α)} {entries extended extra : List (Bytes × Value)}
  {meanings : List (Bytes × α)}

/-! ## Other entries in another order -/

/-- Entries whose keys are texts that no field has mean nothing. -/
theorem Entries.append_unknown (spelled : Entries fields entries meanings)
    (unknown : ∀ entry ∈ extra,
      Utf8.isValid entry.1 = true ∧ fields.find? (·.key = entry.1) = none) :
    Entries fields (entries ++ extra) meanings := by
  induction spelled with
  | nil =>
    induction extra with
    | nil => exact .nil
    | cons entry extra ih =>
      obtain ⟨⟨valid, absent⟩, others⟩ := List.forall_mem_cons.1 unknown
      exact .other valid absent (Reader.skip_tokens entry.2) (ih others)
  | field valid found accepted _ ih => exact .field valid found accepted ih
  | other valid absent passed _ ih => exact .other valid absent passed ih

/-- Entries in another order mean the same in another order. -/
theorem Entries.perm (spelled : Entries fields entries meanings)
    (permuted : entries.Perm extended) :
    ∃ others, meanings.Perm others ∧ Entries fields extended others := by
  induction permuted generalizing meanings with
  | nil => exact ⟨_, .refl _, spelled⟩
  | cons entry _ ih =>
    cases spelled with
    | field valid found accepted rest =>
      rcases ih rest with ⟨others, moved, rest⟩
      exact ⟨_, moved.cons _, .field valid found accepted rest⟩
    | other valid absent passed rest =>
      rcases ih rest with ⟨others, moved, rest⟩
      exact ⟨_, moved, .other valid absent passed rest⟩
  | swap first second rest =>
    cases spelled with
    | field valid found accepted spelled =>
      cases spelled with
      | field valid' found' accepted' spelled =>
        exact ⟨_, .swap _ _ _,
          .field valid' found' accepted' (.field valid found accepted spelled)⟩
      | other valid' absent' passed' spelled =>
        exact ⟨_, .refl _, .other valid' absent' passed' (.field valid found accepted spelled)⟩
    | other valid absent passed spelled =>
      cases spelled with
      | field valid' found' accepted' spelled =>
        exact ⟨_, .refl _, .field valid' found' accepted' (.other valid absent passed spelled)⟩
      | other valid' absent' passed' spelled =>
        exact ⟨_, .refl _, .other valid' absent' passed' (.other valid absent passed spelled)⟩
  | trans _ _ first second =>
    rcases first spelled with ⟨between, moved, spelled⟩
    rcases second spelled with ⟨others, moved', spelled⟩
    exact ⟨others, moved.trans moved', spelled⟩

theorem complete_perm {others : List (Bytes × α)} (permuted : meanings.Perm others) :
    complete fields meanings = complete fields others := by
  have keys := permuted.map Prod.fst
  simp only [complete, keys.nodup_iff, keys.mem_iff]

theorem distinct_of_complete (whole : complete fields meanings = true) :
    (meanings.map Prod.fst).Nodup := by
  rw [complete, decide_eq_true_eq] at whole
  exact whole.1

/-- The entries of a dictionary in any order, with any number of others among them whose
keys are texts, but no field's. -/
def Extends (fields : List (Field α)) (entries extended : List (Bytes × Value)) : Prop :=
  ∃ extra, extended.Perm (entries ++ extra) ∧
    ∀ entry ∈ extra, Utf8.isValid entry.1 = true ∧ ∀ field ∈ fields, field.key ≠ entry.1

/-- What is made of the fields of a record, each looked up by its key, is spelled by its
dictionary with more in it as well. -/
theorem Spells.extend {make : List (Bytes × α) → Option β} {b : β}
    (byKey : ∀ {ours theirs : List (Bytes × α)},
      (∀ key, ours.lookup key = theirs.lookup key) → make ours = make theirs)
    (spells : Spells fields make (.dict entries) b) (more : Extends fields entries extended) :
    Spells fields make (.dict extended) b := by
  cases spells with
  | dict spelled whole made =>
    rcases more with ⟨extra, permuted, unknown⟩
    have absent : ∀ entry ∈ extra,
        Utf8.isValid entry.1 = true ∧ fields.find? (·.key = entry.1) = none := by
      intro entry mem
      rcases unknown entry mem with ⟨valid, noField⟩
      refine ⟨valid, List.find?_eq_none.2 fun field mem same => ?_⟩
      exact noField field mem (of_decide_eq_true same)
    rcases (spelled.append_unknown absent).perm permuted.symm with ⟨others, moved, respelled⟩
    have found := Association.lookup_perm moved (distinct_of_complete whole)
    exact .dict respelled (complete_perm moved ▸ whole) (byKey found ▸ made)

end Record

end Kademlia.Bencode
