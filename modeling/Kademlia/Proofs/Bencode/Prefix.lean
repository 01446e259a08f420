import Kademlia.Proofs.Bencode.Reading

/-!
# Reading from the front

What is read off the front of a byte string, or of a token sequence, is read in the
same way when more comes behind it.  So of a sequence that was cut off no reader makes
what it makes of the whole: it would leave the missing part unread.
-/

namespace Kademlia.Bencode

namespace Token

variable {input rest : Bytes} {token : Token}

/-! ## Tokens -/

/-- An octet that ends a run goes on ending it. -/
theorem span_append {p : UInt8 → Bool} {stop : UInt8} (ended : input.dropWhile p = stop :: rest)
    (more : Bytes) :
    (input ++ more).takeWhile p = input.takeWhile p ∧
      (input ++ more).dropWhile p = stop :: (rest ++ more) := by
  induction input with
  | nil => cases ended
  | cons byte input ih =>
    rw [List.dropWhile_cons] at ended
    rw [List.cons_append, List.takeWhile_cons, List.takeWhile_cons, List.dropWhile_cons]
    split at ended
    · rename_i inside
      obtain ⟨taken, dropped⟩ := ih ended
      rw [if_pos inside, if_pos inside, if_pos inside, taken, dropped]
      exact ⟨rfl, rfl⟩
    · rename_i outside
      rw [if_neg outside, if_neg outside, if_neg outside]
      cases ended
      exact ⟨rfl, rfl⟩

theorem readDigits?_append {sign : Int} (read : readDigits? sign input = some (token, rest))
    (more : Bytes) : readDigits? sign (input ++ more) = some (token, rest ++ more) := by
  unfold readDigits? at read
  split at read
  · rename_i first digits left taken ended
    obtain ⟨taken', ended'⟩ := span_append ended more
    obtain ⟨n, value, same⟩ := Option.map_eq_some_iff.1 read
    cases same
    rw [readDigits?, taken', taken, ended']
    simp only [value, Option.map_some]
  · cases read

theorem readInt?_append (read : readInt? input = some (token, rest)) (more : Bytes) :
    readInt? (input ++ more) = some (token, rest ++ more) := by
  unfold readInt? at read
  split at read
  · exact readDigits?_append read more
  · exact readDigits?_append read more
  · rename_i unplussed unminused
    cases input with
    | nil => cases read
    | cons byte input =>
      have unsigned : readInt? (byte :: input ++ more) = readDigits? 1 (byte :: input ++ more) := by
        unfold readInt?
        split
        · rename_i plus
          cases plus
          exact absurd rfl (unplussed input)
        · rename_i minus
          cases minus
          exact absurd rfl (unminused input)
        · rfl
      rw [unsigned]
      exact readDigits?_append read more

theorem readBytes?_append (read : readBytes? input = some (token, rest)) (more : Bytes) :
    readBytes? (input ++ more) = some (token, rest ++ more) := by
  unfold readBytes? at read
  split at read
  · rename_i first digits left taken ended
    obtain ⟨taken', ended'⟩ := span_append ended more
    unfold take? at read
    split at read
    · rename_i enough
      cases read
      have still : digitsValue (first :: digits) ≤ (left ++ more).length :=
        Nat.le_trans enough (by simp)
      rw [readBytes?, taken', taken, ended']
      simp only [take?, if_pos still, List.take_append_of_le_length enough,
        List.drop_append_of_le_length enough]
    · cases read
  · cases read

/-- A token is read in the same way when more comes behind it. -/
theorem next?_append (read : next? input = some (token, rest)) (more : Bytes) :
    next? (input ++ more) = some (token, rest ++ more) := by
  unfold next? at read
  split at read
  · cases read
  · exact readInt?_append read more
  · cases read
    rfl
  · cases read
    rfl
  · cases read
    rfl
  · rename_i nonempty number list dict close
    have others : next? (input ++ more) = readBytes? (input ++ more) := by
      cases input with
      | nil => exact absurd rfl nonempty
      | cons byte input =>
        unfold next?
        split <;> simp_all
    rw [others]
    exact readBytes?_append read more

/-- Of the bytes of some tokens that were cut off the first tokens are read, and at least
one is missing. -/
theorem exists_tokens_append {sequence : List Token} {start missing : Bytes}
    (cut : start ++ missing = sequence.flatMap encode) (short : missing ≠ []) :
    ∃ unread, unread ≠ [] ∧ tokens start ++ unread = sequence := by
  induction sequence generalizing start with
  | nil => exact absurd (List.append_eq_nil_iff.1 cut).2 short
  | cons token sequence ih =>
    cases read : next? start with
    | none => exact ⟨token :: sequence, by simp, by rw [tokens_of_next?_eq_none read]; rfl⟩
    | some first =>
      obtain ⟨found, left⟩ := first
      have whole := next?_append read missing
      rw [cut, List.flatMap_cons, next?_encode, Option.some.injEq, Prod.mk.injEq] at whole
      obtain ⟨rfl, later⟩ := whole
      obtain ⟨unread, some_missing, parts⟩ := ih later.symm
      exact ⟨unread, some_missing, by rw [tokens_of_next? read, List.cons_append, parts]⟩

end Token

namespace Reader

variable {α β : Type} {read : Reader α}

/-! ## Readers -/

/-- A reader that makes nothing of no tokens, and does not look behind what it takes. -/
structure Steady (read : Reader α) : Prop where
  nil : read [] = none
  append : ∀ {tokens rest : List Token} {a : α}, read tokens = some (a, rest) →
    ∀ more, read (tokens ++ more) = some (a, rest ++ more)

theorem Steady.map (steady : Steady read) (make : α → β) :
    Steady fun tokens => (read tokens).map fun (a, rest) => (make a, rest) where
  nil := by rw [steady.nil]; rfl
  append := by
    intro tokens rest b taken more
    obtain ⟨⟨a, left⟩, first, same⟩ := Option.map_eq_some_iff.1 taken
    cases same
    rw [steady.append first more]
    rfl

theorem steady_natUpTo (bound : Nat) : Steady (natUpTo bound) where
  nil := rfl
  append := by
    intro tokens rest a taken more
    unfold natUpTo at taken
    split at taken
    · split at taken
      · rename_i within
        cases taken
        exact if_pos within
      · cases taken
    · cases taken

theorem steady_octet : Steady octet where
  nil := rfl
  append := by
    intro tokens rest a taken more
    unfold octet at taken
    split at taken
    · obtain ⟨value, found, same⟩ := Option.map_eq_some_iff.1 taken
      cases same
      rw [List.cons_append, octet, found]
      rfl
    · cases taken

theorem steady_text : Steady text where
  nil := rfl
  append := by
    intro tokens rest a taken more
    unfold text at taken
    split at taken
    · split at taken
      · rename_i valid
        cases taken
        exact if_pos valid
      · cases taken
    · cases taken

/-- What is read over and over stops at the same closing mark. -/
theorem Steady.untilClose (steady : Steady read) : Steady (untilClose read) where
  nil := by rw [Reader.untilClose]
  append := by
    intro tokens rest values taken more
    fun_induction Reader.untilClose read tokens generalizing rest values with
    | case1 => cases taken
    | case2 after =>
      cases taken
      exact untilClose_close read _
    | case3 first after opens refused => cases taken
    | case4 first after opens value left item shorter ih =>
      obtain ⟨⟨others, tail⟩, later, same⟩ := Option.map_eq_some_iff.1 taken
      cases same
      have shorter : (left ++ more).length ≤ (after ++ more).length := by
        rw [List.length_append, List.length_append]
        exact Nat.add_le_add_right shorter _
      have item := steady.append item more
      rw [List.cons_append] at item ⊢
      rw [Reader.untilClose, if_neg opens, item]
      dsimp only
      rw [if_pos shorter, ih later]
      rfl
    | case5 first after opens value left item longer => cases taken

theorem steady_bytes : Steady bytes where
  nil := rfl
  append := by
    intro tokens rest value taken more
    unfold bytes at taken
    split at taken
    · cases taken
      rfl
    · exact steady_octet.untilClose.append taken more
    · cases taken

theorem Steady.list (steady : Steady read) : Steady (list read) where
  nil := rfl
  append := by
    intro tokens rest values taken more
    unfold Reader.list at taken
    split at taken
    · exact steady.untilClose.append taken more
    · cases taken

/-! ## Passing over values -/

theorem skipWithin_append {strict : Bool} {frames : List Frame} {tokens rest : List Token}
    (passed : skipWithin strict frames tokens = some rest) (more : List Token) :
    skipWithin strict frames (tokens ++ more) = some (rest ++ more) := by
  fun_induction skipWithin strict frames tokens with
  | case1 tokens =>
    cases passed
    rw [skipWithin]
  | _ => simp_all [skipWithin]

theorem skip_append {strict : Bool} {tokens rest : List Token}
    (passed : skip strict tokens = some rest) (more : List Token) :
    skip strict (tokens ++ more) = some (rest ++ more) := by
  unfold skip at passed
  split at passed
  · cases passed
    rfl
  · cases passed
    rfl
  · exact skipWithin_append passed more
  · exact skipWithin_append passed more
  · cases passed

theorem steady_item : Steady item where
  nil := rfl
  append := by
    intro tokens rest a taken more
    unfold item at taken
    split at taken
    · cases taken
      rfl
    · cases taken
      rfl
    · obtain ⟨left, passed, same⟩ := Option.map_eq_some_iff.1 taken
      cases same
      have still := skip_append passed more
      rename_i number octets
      cases tokens with
      | nil => cases passed
      | cons first tokens =>
        rw [List.cons_append] at still ⊢
        unfold item
        split
        · rename_i same
          cases same
          exact absurd rfl (number _ _)
        · rename_i same
          cases same
          exact absurd rfl (octets _ _)
        · rw [still]
          rfl

end Reader

namespace Record

open Reader

variable {α : Type} {fields : List (Field α)}

/-! ## Records -/

theorem steady_entry (steady : ∀ field ∈ fields, Steady field.read) : Steady (entry fields) where
  nil := rfl
  append := by
    intro tokens rest a taken more
    unfold entry at taken
    split at taken
    · rename_i key left
      split at taken
      · rename_i valid
        rw [List.cons_append, entry, if_pos valid]
        split at taken
        · rename_i field found
          obtain ⟨⟨value, tail⟩, first, same⟩ := Option.map_eq_some_iff.1 taken
          cases same
          rw [(steady field (List.mem_of_find?_eq_some found)).append first more]
          rfl
        · obtain ⟨tail, passed, same⟩ := Option.map_eq_some_iff.1 taken
          cases same
          rw [skip_append passed more]
          rfl
      · cases taken
    · cases taken

/-- A field that is there is read before the ones after it. -/
theorem positional_cons {field : Field α} {first : Token} (opens : first ≠ .close)
    (tokens : List Token) :
    positional (field :: fields) (first :: tokens) =
      (field.read (first :: tokens)).bind fun (value, rest) =>
        (positional fields rest).map fun (entries, rest) =>
          ((field.key, value) :: entries, rest) := by
  rw [positional]
  · cases field.read (first :: tokens) with
    | none => rfl
    | some read =>
      obtain ⟨value, rest⟩ := read
      change (positional fields rest).bind _ = (positional fields rest).map _
      cases positional fields rest with
      | none => rfl
      | some others => rfl
  · rintro rest same
    cases same
    exact opens rfl

theorem positional_append (steady : ∀ field ∈ fields, Steady field.read)
    {tokens rest : List Token} {entries : List (Bytes × α)}
    (taken : positional fields tokens = some (entries, rest)) (more : List Token) :
    positional fields (tokens ++ more) = some (entries, rest ++ more) := by
  induction fields generalizing tokens entries with
  | nil =>
    cases taken
    rfl
  | cons field fields ih =>
    have own := steady field List.mem_cons_self
    have others : ∀ other ∈ fields, Steady other.read := fun other mem =>
      steady other (List.mem_cons_of_mem field mem)
    cases tokens with
    | nil =>
      rw [positional, own.nil] at taken
      · cases taken
      · exact nofun
    | cons first tokens =>
      by_cases closes : first = .close
      · subst closes
        rw [List.cons_append]
        rw [positional] at taken ⊢
        split at taken
        · cases taken
        · rename_i optional
          rw [if_neg optional]
          exact ih others taken
      · rw [positional_cons closes] at taken
        obtain ⟨⟨value, middle⟩, value_read, rest_read⟩ := Option.bind_eq_some_iff.1 taken
        obtain ⟨⟨later, left⟩, later_read, same⟩ := Option.map_eq_some_iff.1 rest_read
        cases same
        have value_read := own.append value_read more
        rw [List.cons_append] at value_read ⊢
        rw [positional_cons closes, value_read, Option.bind_some]
        dsimp only
        rw [ih others later_read]
        rfl

/-- A record is read in the same way when more comes behind it. -/
theorem steady_read (steady : ∀ field ∈ fields, Steady field.read) : Steady (read fields) where
  nil := rfl
  append := by
    intro tokens rest entries taken more
    unfold read at taken
    split at taken
    · exact positional_append steady taken more
    · rename_i after
      obtain ⟨⟨all, left⟩, looped, kept⟩ := Option.bind_eq_some_iff.1 taken
      have looped := (steady_entry steady).untilClose.append looped more
      dsimp only at kept
      split at kept
      · rename_i whole
        cases kept
        change (untilClose (entry fields) (after ++ more)).bind _ = _
        rw [looped]
        exact if_pos whole
      · cases kept
    · cases taken

end Record

end Kademlia.Bencode
