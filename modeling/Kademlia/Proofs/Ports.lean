import Kademlia.Ports
import Kademlia.Proofs.Text.Pieces
import Mathlib.Data.List.Forall2
import Mathlib.Data.List.Sort
import Mathlib.Order.Nat

/-!
# What a listen port option stands for

The grammar of options, which says what ranges an option spells; reading accepts exactly the
options of the grammar, and gives the ports that lie in any of the ranges, in ascending order.
An option that is written from a list of ports stands for that list.
-/

namespace Kademlia.Ports

open Text

variable {text piece core left right : List Char} {port : Nat} {segment : Segment}
  {segments others : List Segment} {ports : List Nat}

/-! ## The grammar -/

/-- A text is a port in decimal: any number of digits, possibly after a plus sign. -/
def Numeral (text : List Char) (port : Nat) : Prop :=
  ∃ sign digits, text = sign ++ digits ∧ (sign = [] ∨ sign = ['+']) ∧ digits ≠ [] ∧
    (∀ c ∈ digits, c.isDigit = true) ∧ port = Nat.ofDigitChars 10 digits 0 ∧ port ≤ 65535

/-- A text is a port, or a range of ports around a dash, with blanks around each numeral. -/
inductive Spelled : List Char → Segment → Prop
  | port {numeral piece : List Char} {port : Nat} (number : Numeral numeral port)
      (padded : Padded numeral piece) : Spelled piece ⟨port, port⟩
  | range {lower upper left right : List Char} {first last : Nat} (low : Numeral lower first)
      (high : Numeral upper last) (paddedLow : Padded lower left) (paddedHigh : Padded upper right)
      (ascending : first ≤ last) : Spelled (left ++ '-' :: right) ⟨first, last⟩

/-- An option is blank, or ports and ranges between commas. -/
inductive Spells : List Char → List Segment → Prop
  | blank {text : List Char} (blank : Blank text) : Spells text []
  | pieces {pieces : List (List Char)} {segments : List Segment} (nonempty : pieces ≠ [])
      (spelled : List.Forall₂ Spelled pieces segments) : Spells ([','].intercalate pieces) segments

/-- A port lies in one of some ranges. -/
def Covered (segments : List Segment) (port : Nat) : Prop :=
  ∃ segment ∈ segments, segment.first ≤ port ∧ port ≤ segment.last

/-! ## Numerals -/

theorem isDigit_iff {c : Char} : c.isDigit = true ↔ '0' ≤ c ∧ c ≤ '9' := by
  rw [Char.isDigit, Bool.and_eq_true, decide_eq_true_eq, decide_eq_true_eq]
  exact Iff.rfl

/-- A digit is no blank and none of the other characters of an option. -/
theorem plain_of_isDigit {c : Char} (digit : c.isDigit = true) :
    isBlank c = false ∧ c ≠ '+' ∧ c ≠ '-' ∧ c ≠ ',' := by
  obtain ⟨low, high⟩ := isDigit_iff.1 digit
  have low : 48 ≤ c.toNat := low
  have high : c.toNat ≤ 57 := high
  refine ⟨?_, ?_, ?_, ?_⟩
  · simp [isBlank]
    omega
  · rintro rfl
    exact absurd low (by decide)
  · rintro rfl
    exact absurd low (by decide)
  · rintro rfl
    exact absurd low (by decide)

theorem digitsValue_eq {digits : List Char} (decimal : ∀ c ∈ digits, c.isDigit = true) :
    Ip.digitsValue 10 digits = Nat.ofDigitChars 10 digits 0 := by
  have go (start : Nat) :
      digits.foldl (fun n c => n * 10 + (Bytes.digit? c).getD 0) start =
        Nat.ofDigitChars 10 digits start := by
    induction digits generalizing start with
    | nil => rfl
    | cons c digits ih =>
      obtain ⟨digit, others⟩ := List.forall_mem_cons.1 decimal
      have value : Bytes.digit? c = some (c.toNat - '0'.toNat) := if_pos (isDigit_iff.1 digit)
      rw [List.foldl_cons, ih others, value, Nat.mul_comm start, Nat.ofDigitChars_cons]
      rfl
  exact go 0

theorem port?_eq_some_iff : port? text = some port ↔ Numeral text port := by
  have exactly (digits : List Char) :
      (if digits ≠ [] ∧ digits.all Char.isDigit ∧ Ip.digitsValue 10 digits ≤ highest then
        some (Ip.digitsValue 10 digits) else none) = some port ↔
      digits ≠ [] ∧ (∀ c ∈ digits, c.isDigit = true) ∧
        port = Nat.ofDigitChars 10 digits 0 ∧ port ≤ 65535 := by
    rw [Option.ite_none_right_eq_some, Option.some.injEq, List.all_eq_true]
    constructor
    · rintro ⟨⟨nonempty, decimal, low⟩, rfl⟩
      exact ⟨nonempty, decimal, digitsValue_eq decimal, low⟩
    · rintro ⟨nonempty, decimal, rfl, low⟩
      rw [digitsValue_eq decimal]
      exact ⟨⟨nonempty, decimal, low⟩, rfl⟩
  unfold port?
  dsimp only
  split
  · rename_i digits
    refine (exactly digits).trans ⟨?_, ?_⟩
    · rintro ⟨nonempty, decimal, value, low⟩
      exact ⟨['+'], digits, rfl, .inr rfl, nonempty, decimal, value, low⟩
    · rintro ⟨sign, others, parts, rfl | rfl, nonempty, decimal, value, low⟩
      · -- a digit is no sign
        rw [List.nil_append] at parts
        exact absurd rfl (plain_of_isDigit (decimal '+' (parts ▸ List.mem_cons_self))).2.1
      · obtain rfl : digits = others := List.cons.inj parts |>.2
        exact ⟨nonempty, decimal, value, low⟩
  · rename_i unsigned
    refine (exactly text).trans ⟨?_, ?_⟩
    · rintro ⟨nonempty, decimal, value, low⟩
      exact ⟨[], text, rfl, .inl rfl, nonempty, decimal, value, low⟩
    · rintro ⟨sign, others, rfl, rfl | rfl, nonempty, decimal, value, low⟩
      · exact ⟨nonempty, decimal, value, low⟩
      · exact absurd rfl (unsigned others)

/-- The characters of a numeral are no blanks, dashes or commas. -/
theorem Numeral.plain (numeral : Numeral text port) :
    ∀ c ∈ text, isBlank c = false ∧ c ≠ '-' ∧ c ≠ ',' := by
  obtain ⟨sign, digits, rfl, signed, -, decimal, -⟩ := numeral
  rw [List.forall_mem_append]
  constructor
  · rcases signed with rfl | rfl
    · exact nofun
    · rw [List.forall_mem_singleton]
      decide
  · intro c mem
    obtain ⟨solid, -, dash, comma⟩ := plain_of_isDigit (decimal c mem)
    exact ⟨solid, dash, comma⟩

theorem Numeral.tight (numeral : Numeral text port) : Tight text :=
  tight_of_solid fun c mem => (numeral.plain c mem).1

theorem Numeral.ne_nil (numeral : Numeral text port) : text ≠ [] := by
  obtain ⟨sign, digits, rfl, -, nonempty, -⟩ := numeral
  exact List.append_ne_nil_of_right_ne_nil sign nonempty

/-- With blanks around it, a numeral still has no dash and no comma. -/
theorem Numeral.not_mem_of_padded (numeral : Numeral core port) (padded : Padded core text) :
    '-' ∉ text ∧ ',' ∉ text := by
  have solid {c : Char} (shown : isBlank c = false) {blanks : List Char} (blank : Blank blanks) :
      c ∉ blanks := by
    intro mem
    rw [blank c mem] at shown
    cases shown
  obtain ⟨before, after, rfl, blankBefore, blankAfter⟩ := padded
  simp only [List.mem_append, not_or]
  exact ⟨⟨⟨solid (by decide) blankBefore, fun mem => (numeral.plain _ mem).2.1 rfl⟩,
      solid (by decide) blankAfter⟩,
    ⟨⟨solid (by decide) blankBefore, fun mem => (numeral.plain _ mem).2.2 rfl⟩,
      solid (by decide) blankAfter⟩⟩

/-! ## Pieces -/

/-- A piece that is trimmed is read exactly as what it spells. -/
theorem segment?_trim_eq_some_iff :
    segment? (trim piece) = some segment ↔ Spelled piece segment := by
  constructor
  · intro read
    unfold segment? at read
    split at read
    · obtain ⟨port, number, rfl⟩ := Option.map_eq_some_iff.1 read
      exact .port (port?_eq_some_iff.1 number) (padded_trim piece)
    · rename_i lower upper cut
      simp only [Option.bind_eq_bind, Option.bind_eq_some_iff, Option.ite_none_right_eq_some,
        Option.pure_def, Option.some.injEq] at read
      obtain ⟨first, low, last, high, ascending, rfl⟩ := read
      obtain ⟨parts, -⟩ := splitFirst?_eq_some_iff.1 cut
      obtain ⟨before, after, whole, blankBefore, blankAfter⟩ := padded_trim piece
      -- the blanks around the piece are blanks around its numerals
      have around : piece = (before ++ lower) ++ '-' :: (upper ++ after) := by
        rw [whole, parts]
        simp only [List.append_assoc, List.cons_append]
      rw [around]
      exact .range (port?_eq_some_iff.1 low) (port?_eq_some_iff.1 high)
        ((padded_trim lower).append_left blankBefore) ((padded_trim upper).append_right blankAfter)
        ascending
  · intro spelled
    cases spelled with
    | @port numeral _ port number padded =>
      have trimmed := trim_of_padded padded number.tight
      have whole : splitFirst? '-' numeral = none :=
        splitFirst?_eq_none_iff.2 (number.not_mem_of_padded (padded_self numeral)).1
      rw [trimmed, segment?, whole]
      dsimp only
      rw [port?_eq_some_iff.2 number, Option.map_some]
    | @range lower upper left right first last low high paddedLow paddedHigh ascending =>
      obtain ⟨before, between, rfl, blankBefore, blankBetween⟩ := paddedLow
      obtain ⟨beyond, after, rfl, blankBeyond, blankAfter⟩ := paddedHigh
      have trimmed : trim (before ++ lower ++ between ++ '-' :: (beyond ++ upper ++ after)) =
          lower ++ between ++ '-' :: (beyond ++ upper) := by
        apply trim_of_padded
        · exact ⟨before, after, by simp only [List.append_assoc, List.cons_append], blankBefore,
            blankAfter⟩
        · have tight := low.tight.append high.tight low.ne_nil high.ne_nil
            (between ++ '-' :: beyond)
          simpa only [List.append_assoc, List.cons_append] using tight
      have paddedLow : Padded lower (lower ++ between) := (padded_self lower).append_right blankBetween
      have paddedHigh : Padded upper (beyond ++ upper) := (padded_self upper).append_left blankBeyond
      have cut : splitFirst? '-' (lower ++ between ++ '-' :: (beyond ++ upper)) =
          some (lower ++ between, beyond ++ upper) :=
        splitFirst?_eq_some_iff.2 ⟨rfl, (low.not_mem_of_padded paddedLow).1⟩
      rw [trimmed, segment?, cut]
      dsimp only
      rw [trim_of_padded paddedLow low.tight, trim_of_padded paddedHigh high.tight,
        port?_eq_some_iff.2 low, port?_eq_some_iff.2 high]
      exact if_pos ascending

/-- What is spelled lies among the ports. -/
theorem Spelled.bounds (spelled : Spelled piece segment) :
    segment.first ≤ segment.last ∧ segment.last ≤ 65535 := by
  cases spelled with
  | port number _ =>
    obtain ⟨-, -, -, -, -, -, -, low⟩ := number
    exact ⟨Nat.le_refl _, low⟩
  | range _ high _ _ ascending =>
    obtain ⟨-, -, -, -, -, -, -, low⟩ := high
    exact ⟨ascending, low⟩

theorem Spelled.comma_not_mem (spelled : Spelled piece segment) : ',' ∉ piece := by
  cases spelled with
  | port number padded => exact (number.not_mem_of_padded padded).2
  | range low high paddedLow paddedHigh _ =>
    simp only [List.mem_append, List.mem_cons, not_or]
    exact ⟨(low.not_mem_of_padded paddedLow).2, by decide, (high.not_mem_of_padded paddedHigh).2⟩

theorem Spelled.not_blank (spelled : Spelled piece segment) : ¬ Blank piece := by
  intro blank
  rw [← segment?_trim_eq_some_iff, trim_eq_nil_iff.2 blank] at spelled
  cases spelled

/-! ## Options -/

theorem mapM_eq_some_iff {α β : Type} {read : α → Option β} {sources : List α} {items : List β} :
    sources.mapM read = some items ↔
      List.Forall₂ (fun source item => read source = some item) sources items := by
  induction sources generalizing items with
  | nil =>
    rw [List.mapM_nil, List.forall₂_nil_left_iff]
    exact Option.some_inj.trans eq_comm
  | cons source sources ih =>
    rw [List.mapM_cons, List.forall₂_cons_left_iff]
    simp only [Option.bind_eq_bind, Option.bind_eq_some_iff, Option.pure_def, Option.some.injEq, ih]
    constructor
    · rintro ⟨item, first, rest, others, rfl⟩
      exact ⟨item, rest, first, others, rfl⟩
    · rintro ⟨item, rest, first, others, rfl⟩
      exact ⟨item, first, rest, others, rfl⟩

theorem exists_of_mem_left {α β : Type} {relates : α → β → Prop} {sources : List α} {items : List β}
    (related : List.Forall₂ relates sources items) {source : α} (mem : source ∈ sources) :
    ∃ item ∈ items, relates source item := by
  induction related with
  | nil => cases mem
  | @cons _ item _ _ own _ ih =>
    rcases List.mem_cons.1 mem with rfl | mem
    · exact ⟨item, List.mem_cons_self, own⟩
    · obtain ⟨other, listed, theirs⟩ := ih mem
      exact ⟨other, List.mem_cons_of_mem item listed, theirs⟩

/-- An option is read exactly as what it spells. -/
theorem segments?_eq_some_iff : segments? text = some segments ↔ Spells text segments := by
  have pieces (pieces : List (List Char)) : (pieces.map trim).mapM segment? = some segments ↔
      List.Forall₂ Spelled pieces segments := by
    rw [mapM_eq_some_iff, List.forall₂_map_left_iff]
    simp only [segment?_trim_eq_some_iff]
  constructor
  · intro read
    unfold segments? at read
    split at read
    · rename_i empty
      cases read
      exact .blank (trim_eq_nil_iff.1 empty)
    · rw [split_eq_splitOn, pieces] at read
      have joined : [','].intercalate (text.splitOn ',') = text := List.intercalate_splitOn ','
      rw [← joined]
      exact .pieces (List.splitOn_ne_nil ',' text) read
  · intro spells
    cases spells with
    | blank blank => exact if_pos (trim_eq_nil_iff.2 blank)
    | @pieces parts _ nonempty spelled =>
      have whole : ∀ part ∈ parts, ',' ∉ part := by
        intro part mem
        obtain ⟨segment, -, own⟩ := exists_of_mem_left spelled mem
        exact own.comma_not_mem
      have cut := List.splitOn_intercalate ',' whole nonempty
      have shown : trim ([','].intercalate parts) ≠ [] := by
        intro empty
        have blank := trim_eq_nil_iff.1 empty
        have alone : ',' ∉ [','].intercalate parts := fun mem => absurd (blank _ mem) (by decide)
        rw [List.splitOn_eq_singleton alone] at cut
        obtain ⟨segment, -, own⟩ := exists_of_mem_left spelled (cut ▸ List.mem_singleton_self _)
        exact own.not_blank blank
      rw [segments?, if_neg shown, split_eq_splitOn, cut, pieces]
      exact spelled

theorem Spells.bounds (spells : Spells text segments) :
    ∀ segment ∈ segments, segment.first ≤ segment.last ∧ segment.last ≤ 65535 := by
  cases spells with
  | blank => exact nofun
  | @pieces parts _ _ spelled =>
    intro segment mem
    obtain ⟨part, -, own⟩ := exists_of_mem_left spelled.flip mem
    exact Spelled.bounds own

/-! ## The ports of some ranges -/

theorem covers_iff : segment.covers port = true ↔ segment.first ≤ port ∧ port ≤ segment.last := by
  rw [Segment.covers, Bool.and_eq_true, decide_eq_true_eq, decide_eq_true_eq]

theorem mem_covered_iff : port ∈ covered segments ↔ port ≤ 65535 ∧ Covered segments port := by
  rw [covered, List.mem_filter, List.mem_range, List.any_eq_true, highest, Nat.lt_succ_iff]
  simp only [covers_iff, Covered]

theorem covered_pairwise (segments : List Segment) : (covered segments).Pairwise (· < ·) :=
  List.pairwise_lt_range.filter _

/-- Ranges that cover the same ports give the same list. -/
theorem covered_congr (same : ∀ port, Covered segments port ↔ Covered others port) :
    covered segments = covered others := by
  apply (covered_pairwise segments).eq_of_mem_iff (covered_pairwise others)
  intro port
  rw [mem_covered_iff, mem_covered_iff, same]

/-- The ports of some ranges as they are given. -/
theorem mem_map_covered_iff {port : UInt16} :
    port ∈ (covered segments).map UInt16.ofNat ↔ Covered segments port.toNat := by
  rw [List.mem_map]
  constructor
  · rintro ⟨n, mem, rfl⟩
    obtain ⟨low, own⟩ := mem_covered_iff.1 mem
    rwa [UInt16.toNat_ofNat_of_lt' (Nat.lt_succ_of_le low)]
  · intro own
    have low := port.toNat_lt
    exact ⟨port.toNat, mem_covered_iff.2 ⟨by omega, own⟩, UInt16.ofNat_toNat⟩

theorem map_covered_pairwise (segments : List Segment) :
    ((covered segments).map UInt16.ofNat).Pairwise (· < ·) := by
  rw [List.pairwise_map]
  refine (covered_pairwise segments).imp_of_mem ?_
  intro first second firstMem secondMem ascending
  have firstLow := (mem_covered_iff.1 firstMem).1
  have secondLow := (mem_covered_iff.1 secondMem).1
  rw [UInt16.lt_iff_toNat_lt, UInt16.toNat_ofNat_of_lt' (Nat.lt_succ_of_le firstLow),
    UInt16.toNat_ofNat_of_lt' (Nat.lt_succ_of_le secondLow)]
  exact ascending

theorem parse_eq (option : String) :
    parse option = match segments? option.toList with
      | some segments => .ok ((covered segments).map UInt16.ofNat)
      | none => .error (.portSegments option) :=
  rfl

theorem parse_of_spells {option : String} (spells : Spells option.toList segments) :
    parse option = .ok ((covered segments).map UInt16.ofNat) := by
  rw [parse_eq, segments?_eq_some_iff.2 spells]

/-! ## Writing ports -/

theorem numeral_repr (low : port ≤ 65535) : Numeral (toString port).toList port := by
  refine ⟨[], Nat.toDigits 10 port, ?_, .inl rfl, Nat.toDigits_ne_nil, ?_, ?_, low⟩
  · rw [Nat.toString_eq_repr, Nat.toList_repr, List.nil_append]
  · exact fun c mem => Nat.isDigit_of_mem_toDigits (by decide) (by decide) mem
  · exact Nat.ofDigitChars_ten_toDigits.symm

/-- A range spells itself as it is written. -/
theorem spelled_text (ascending : segment.first ≤ segment.last) (low : segment.last ≤ 65535) :
    Spelled segment.text.toList segment := by
  obtain ⟨first, last⟩ := segment
  have low : last ≤ 65535 := low
  have ascending : first ≤ last := ascending
  unfold Segment.text
  dsimp only
  split
  · rename_i single
    obtain rfl : first = last := single
    exact .port (numeral_repr low) (padded_self _)
  · rw [String.toList_append, String.toList_append, List.append_assoc]
    exact .range (numeral_repr (Nat.le_trans ascending low)) (numeral_repr low) (padded_self _)
      (padded_self _) ascending

/-- Ranges that are written between commas are spelled by what is written. -/
theorem spells_intercalate (nonempty : segments ≠ [])
    (bounds : ∀ segment ∈ segments, segment.first ≤ segment.last ∧ segment.last ≤ 65535) :
    Spells (",".intercalate (segments.map Segment.text)).toList segments := by
  rw [String.toList_intercalate, List.map_map]
  refine .pieces (by simpa using nonempty) ?_
  rw [List.forall₂_map_left_iff, List.forall₂_same]
  exact fun segment mem => spelled_text (bounds segment mem).1 (bounds segment mem).2

/-! ## Runs -/

theorem joinRuns_ne_nil (port : Nat) (segments : List Segment) : joinRuns port segments ≠ [] := by
  unfold joinRuns
  split
  · split
    · exact List.cons_ne_nil _ _
    · exact List.cons_ne_nil _ _
  · exact List.cons_ne_nil _ _

theorem runs_ne_nil (nonempty : ports ≠ []) : runs ports ≠ [] := by
  cases ports with
  | nil => exact absurd rfl nonempty
  | cons port ports => exact joinRuns_ne_nil port (runs ports)

/-- A port that is joined to some runs lies in one of them, and so do the ports that did
before. -/
theorem covered_joinRuns_iff (ascending : ∀ segment ∈ segments, segment.first ≤ segment.last)
    (first : Nat) :
    Covered (joinRuns first segments) port ↔ port = first ∨ Covered segments port := by
  have single (rest : List Segment) :
      Covered (⟨first, first⟩ :: rest) port ↔ port = first ∨ Covered rest port := by
    rw [Covered, List.exists_mem_cons_iff, Nat.le_antisymm_iff, and_comm]
    rfl
  cases segments with
  | nil => exact single []
  | cons segment segments =>
    obtain ⟨lower, upper⟩ := segment
    have wide : lower ≤ upper := ascending _ List.mem_cons_self
    unfold joinRuns
    dsimp only
    split
    · rename_i next
      rw [Covered, Covered, List.exists_mem_cons_iff, List.exists_mem_cons_iff, ← or_assoc]
      apply or_congr_left
      dsimp only
      omega
    · exact single _

theorem bounds_joinRuns
    (bounds : ∀ segment ∈ segments, segment.first ≤ segment.last ∧ segment.last ≤ 65535)
    (low : port ≤ 65535) :
    ∀ segment ∈ joinRuns port segments, segment.first ≤ segment.last ∧ segment.last ≤ 65535 := by
  have single : port ≤ port ∧ port ≤ 65535 := ⟨Nat.le_refl _, low⟩
  cases segments with
  | nil => exact List.forall_mem_singleton.2 single
  | cons segment segments =>
    obtain ⟨lower, upper⟩ := segment
    obtain ⟨⟨wide, high⟩, others⟩ := List.forall_mem_cons.1 bounds
    unfold joinRuns
    dsimp only
    split
    · rename_i next
      have wide : lower ≤ upper := wide
      refine List.forall_mem_cons.2 ⟨⟨?_, high⟩, others⟩
      dsimp only
      omega
    · exact List.forall_mem_cons.2 ⟨single, bounds⟩

theorem bounds_runs (low : ∀ port ∈ ports, port ≤ 65535) :
    ∀ segment ∈ runs ports, segment.first ≤ segment.last ∧ segment.last ≤ 65535 := by
  induction ports with
  | nil => exact nofun
  | cons port ports ih =>
    obtain ⟨own, others⟩ := List.forall_mem_cons.1 low
    exact bounds_joinRuns (ih others) own

/-- The runs of some ports cover those and no others. -/
theorem covered_runs_iff (low : ∀ port ∈ ports, port ≤ 65535) :
    Covered (runs ports) port ↔ port ∈ ports := by
  induction ports with
  | nil => simp [runs, Covered]
  | cons first ports ih =>
    obtain ⟨-, others⟩ := List.forall_mem_cons.1 low
    have ascending := fun segment mem => (bounds_runs others segment mem).1
    rw [List.mem_cons, ← ih others]
    exact covered_joinRuns_iff ascending first

theorem covered_runs (ascending : ports.Pairwise (· < ·)) (low : ∀ port ∈ ports, port ≤ 65535) :
    covered (runs ports) = ports := by
  apply (covered_pairwise _).eq_of_mem_iff ascending
  intro port
  rw [mem_covered_iff, covered_runs_iff low, and_iff_right_of_imp (low port)]

theorem parse_render {ports : List UInt16} (nonempty : ports ≠ [])
    (ascending : ports.Pairwise (· < ·)) :
    parse (render (ports.map UInt16.toNat)) = .ok ports := by
  have low : ∀ port ∈ ports.map UInt16.toNat, port ≤ 65535 := by
    rw [List.forall_mem_map]
    exact fun port _ => Nat.le_of_lt_succ port.toNat_lt
  have sorted : (ports.map UInt16.toNat).Pairwise (· < ·) := by
    rw [List.pairwise_map]
    exact ascending
  have spells := spells_intercalate (runs_ne_nil (by simpa using nonempty)) (bounds_runs low)
  have back : (ports.map UInt16.toNat).map UInt16.ofNat = ports := by
    rw [List.map_map]
    exact List.map_id'' (fun port => UInt16.ofNat_toNat) ports
  rw [render, parse_of_spells spells, covered_runs sorted low, back]

/-! ## What is accepted, and what it stands for -/

/-- An option is accepted exactly if it spells some ranges, and then gives the ports that lie
in any of them, in ascending order and each once; a blank one gives none.  Any other option is
refused and shown.  So options that spell ranges with the same ports give the same list,
whatever their pieces are; and ports, as well as ranges of them, that are written as an option
are what it gives. -/
theorem parse_denotes (option : String) :
    ((∃ ports, parse option = .ok ports) ↔ ∃ segments, Spells option.toList segments) ∧
      (∀ segments, Spells option.toList segments →
        ∃ ports, parse option = .ok ports ∧ ports.Pairwise (· < ·) ∧
          ∀ port : UInt16, port ∈ ports ↔ Covered segments port.toNat) ∧
      (Blank option.toList → parse option = .ok []) ∧
      ((¬ ∃ segments, Spells option.toList segments) →
        parse option = .error (.portSegments option)) ∧
      (∀ (other : String) segments others, Spells option.toList segments →
        Spells other.toList others →
        (∀ port, Covered segments port ↔ Covered others port) → parse option = parse other) ∧
      (∀ segments : List Segment, segments ≠ [] →
        (∀ segment ∈ segments, segment.first ≤ segment.last ∧ segment.last ≤ 65535) →
        Spells (",".intercalate (segments.map Segment.text)).toList segments) ∧
      ∀ ports : List UInt16, ports ≠ [] → ports.Pairwise (· < ·) →
        parse (render (ports.map UInt16.toNat)) = .ok ports := by
  refine ⟨⟨?_, ?_⟩, ?_, ?_, ?_, ?_, ?_, ?_⟩
  · rintro ⟨ports, accepted⟩
    cases read : segments? option.toList with
    | none =>
      rw [parse_eq, read] at accepted
      cases accepted
    | some segments => exact ⟨segments, segments?_eq_some_iff.1 read⟩
  · rintro ⟨segments, spells⟩
    exact ⟨_, parse_of_spells spells⟩
  · intro segments spells
    exact ⟨_, parse_of_spells spells, map_covered_pairwise segments, fun _ => mem_map_covered_iff⟩
  · intro blank
    have uncovered : covered [] = [] := List.filter_false _
    rw [parse_of_spells (.blank blank), uncovered]
    rfl
  · intro foreign
    cases read : segments? option.toList with
    | none => rw [parse_eq, read]
    | some segments => exact absurd ⟨segments, segments?_eq_some_iff.1 read⟩ foreign
  · intro other segments others spells spellsOther same
    rw [parse_of_spells spells, parse_of_spells spellsOther, covered_congr same]
  · exact fun segments => spells_intercalate
  · exact fun ports => parse_render

/-- Ports and ranges that overlap, in two orders; a port too few; and a list that is written. -/
theorem parse_denotes_overlapping :
    let option := "7000, 6881 - 6883,+06882"
    let segments : List Segment := [⟨7000, 7000⟩, ⟨6881, 6883⟩, ⟨6882, 6882⟩]
    let other := "6881-6883,7000,6883"
    let others : List Segment := [⟨6881, 6883⟩, ⟨7000, 7000⟩, ⟨6883, 6883⟩]
    Spells option.toList segments ∧ Spells other.toList others ∧
      (∃ ports, parse option = .ok ports ∧ ports.Pairwise (· < ·) ∧
        ∀ port : UInt16, port ∈ ports ↔ Covered segments port.toNat) ∧
      parse option = parse other ∧ parse " \t" = .ok [] ∧
      parse "6881,,6882" = .error (.portSegments "6881,,6882") ∧
      Spells (",".intercalate (segments.map Segment.text)).toList segments ∧
      parse (render [6881, 6882, 7000]) = .ok [6881, 6882, 7000] := by
  intro option segments other others
  have spells : Spells option.toList segments := segments?_eq_some_iff.1 (by decide +kernel)
  have spellsOther : Spells other.toList others := segments?_eq_some_iff.1 (by decide +kernel)
  have same (port : Nat) : Covered segments port ↔ Covered others port := by
    simp [Covered, segments, others]
    omega
  have foreign : ¬ ∃ segments, Spells "6881,,6882".toList segments := by
    rintro ⟨segments, spells⟩
    have refused : segments? "6881,,6882".toList = none := by decide +kernel
    rw [segments?_eq_some_iff.2 spells] at refused
    cases refused
  have white : " \t".toList.all Text.isBlank = true := by decide +kernel
  have blank : Blank " \t".toList := List.all_eq_true.1 white
  obtain ⟨-, accepted, -, -, alike, written, back⟩ := parse_denotes option
  exact ⟨spells, spellsOther, accepted segments spells,
    alike other segments others spells spellsOther same, (parse_denotes " \t").2.2.1 blank,
    (parse_denotes "6881,,6882").2.2.2.1 foreign, written segments (by decide) (by decide),
    back [6881, 6882, 7000] (by decide) (by decide)⟩

end Kademlia.Ports
