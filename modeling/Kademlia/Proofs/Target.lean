import Mathlib.SetTheory.Cardinal.Finite
import Kademlia.Proofs.Distance

/-!
# Ids drawn at a distance

What is drawn for a distance differs from an id in the bit that the distance names, and
in the lower ones as the draw has them.  So it is at that distance whatever was drawn,
and each id there is given by as many draws as there are ways to fill the bits that do
not count.
-/

namespace Kademlia

namespace Octets

/-- Byte strings of one length are the numbers that they spell. -/
def equivFin (n : Nat) : Octets n ≃ Fin (2 ^ (8 * n)) where
  toFun octets :=
    ⟨Bytes.toNat octets.toList, by
      have below := Bytes.toNat_lt_two_pow octets.toList
      rwa [octets.length_toList] at below⟩
  invFun number := ⟨Bytes.bigEndian n number, Bytes.length_bigEndian n number⟩
  left_inv octets := by
    have spelled := Bytes.bigEndian_toNat octets.toList
    rw [octets.length_toList] at spelled
    exact Octets.ext spelled
  right_inv number := by
    apply Fin.ext
    change Bytes.toNat (Bytes.bigEndian n number) = number
    rw [Bytes.toNat_bigEndian, Bytes.weight_eq_two_pow, Nat.mod_eq_of_lt number.isLt]

theorem toNat_equivFin_symm {n : Nat} (number : Fin (2 ^ (8 * n))) :
    Bytes.toNat ((equivFin n).symm number).toList = number :=
  congrArg Fin.val ((equivFin n).apply_symm_apply number)

/-- So many byte strings have the same low bits as there are ways to fill the others. -/
def equivOfLow {n width low : Nat} (within : width ≤ 8 * n) (below : low < 2 ^ width) :
    { octets : Octets n // Bytes.toNat octets.toList % 2 ^ width = low } ≃
      Fin (2 ^ (8 * n - width)) where
  toFun octets :=
    ⟨equivFin n octets / 2 ^ width, by
      apply Nat.div_lt_of_lt_mul
      rw [← Nat.pow_add, Nat.add_sub_cancel' within]
      exact (equivFin n octets).isLt⟩
  invFun high :=
    ⟨(equivFin n).symm ⟨2 ^ width * high + low, by
        have room := Nat.mul_le_mul_left (2 ^ width) (Nat.succ_le_of_lt high.isLt)
        rw [← Nat.pow_add, Nat.add_sub_cancel' within, Nat.mul_succ] at room
        omega⟩, by
      rw [toNat_equivFin_symm, Nat.mul_add_mod, Nat.mod_eq_of_lt below]⟩
  left_inv := by
    rintro ⟨octets, rfl⟩
    apply Subtype.ext
    apply (equivFin n).symm_apply_eq.2
    apply Fin.ext
    exact Nat.div_add_mod (Bytes.toNat octets.toList) (2 ^ width)
  right_inv high := by
    apply Fin.ext
    change Fin.val (equivFin n ((equivFin n).symm _)) / 2 ^ width = high
    rw [Equiv.apply_symm_apply, Nat.mul_add_div (Nat.two_pow_pos width),
      Nat.div_eq_of_lt below, Nat.add_zero]

end Octets

namespace Bytes

variable {bytes : Bytes} {bit : Nat}

/-! ## Bits, the first one highest -/

/-- An octet with the bit at a place, counted from the highest one, given a value. -/
def putBit (value : Bool) (place : Nat) (octet : UInt8) : UInt8 :=
  if value then octet ||| 0x80 >>> UInt8.ofNat place
  else octet &&& ~~~(0x80 >>> UInt8.ofNat place)

/-- A byte string with one bit, counted from the first one, given a value; none if it
has no octet with that bit. -/
def putBit? (value : Bool) (bytes : Bytes) (bit : Nat) : Option Bytes :=
  if bit / 8 < bytes.length then some (bytes.modify (bit / 8) (putBit value (bit % 8))) else none

theorem testBit_putBit (value : Bool) {place : Nat} (within : place < 8) (octet : UInt8) (i : Nat) :
    (putBit value place octet).toNat.testBit i =
      if i + place = 7 then value else octet.toNat.testBit i := by
  have mask : ∀ place < 8, ∀ i < 8,
      ((0x80 : UInt8) >>> UInt8.ofNat place).toNat.testBit i = decide (i + place = 7) ∧
        (~~~((0x80 : UInt8) >>> UInt8.ofNat place)).toNat.testBit i = !decide (i + place = 7) := by
    decide
  by_cases low : i < 8
  · obtain ⟨one, others⟩ := mask place within i low
    cases value with
    | true =>
      rw [putBit, if_pos rfl, UInt8.toNat_or, Nat.testBit_or, one]
      split <;> simp [*]
    | false =>
      rw [putBit, if_neg Bool.false_ne_true, UInt8.toNat_and, Nat.testBit_and, others]
      split <;> simp [*]
  · have high (octet : UInt8) : octet.toNat.testBit i = false :=
      Nat.testBit_lt_two_pow
        (Nat.lt_of_lt_of_le octet.toNat_lt (Nat.pow_le_pow_right (by decide) (Nat.le_of_not_lt low)))
    rw [high, high, if_neg (by omega)]

/-- As long as there is an octet with the bit, that bit is given its value, and all
others are as they were. -/
theorem testBit_putBit? (value : Bool) (inside : bit < 8 * bytes.length) :
    ∃ after, putBit? value bytes bit = some after ∧ after.length = bytes.length ∧
      ∀ i, (toNat after).testBit i =
        if i + bit + 1 = 8 * bytes.length then value else (toNat bytes).testBit i := by
  have octet : bit / 8 < bytes.length := Nat.div_lt_of_lt_mul inside
  refine ⟨_, if_pos octet, List.length_modify _ _ _, ?_⟩
  clear octet
  induction bytes generalizing bit with
  | nil => exact absurd inside (Nat.not_lt_zero bit)
  | cons byte rest ih =>
    intro i
    rw [List.length_cons, Nat.mul_succ] at inside ⊢
    by_cases here : bit < 8
    · rw [Nat.div_eq_of_lt here, List.modify_zero_cons, testBit_toNat_cons, testBit_toNat_cons,
        Nat.mod_eq_of_lt here]
      split
      · rw [if_neg (by omega)]
      · rw [testBit_putBit value here]
        split
        · rw [if_pos (by omega)]
        · rw [if_neg (by omega)]
    · obtain ⟨later, rfl⟩ : ∃ later, bit = later + 8 := ⟨bit - 8, by omega⟩
      rw [Nat.add_div_right later (by decide), List.modify_succ_cons, Nat.add_mod_right,
        testBit_toNat_cons, testBit_toNat_cons, List.length_modify]
      split
      · rw [ih (by omega)]
        split
        · rw [if_pos (by omega)]
        · rw [if_neg (by omega)]
      · rw [if_neg (by omega)]

/-- Where all bits before it are clear, the bit that is given its value stands in front of
those below it. -/
theorem toNat_putBit? (value : Bool) {below : Nat} (place : bit + below + 1 = 8 * bytes.length)
    (clear : toNat bytes < 2 ^ (below + 1)) :
    ∃ after, putBit? value bytes bit = some after ∧ after.length = bytes.length ∧
      toNat after = 2 ^ below * value.toNat + toNat bytes % 2 ^ below := by
  have inside : bit < 8 * bytes.length := by omega
  obtain ⟨after, put, same, bits⟩ := testBit_putBit? value inside
  refine ⟨after, put, same, Nat.eq_of_testBit_eq fun i => ?_⟩
  rw [Nat.testBit_two_pow_mul_add _ (Nat.mod_lt _ (Nat.two_pow_pos below)), bits]
  rcases Nat.lt_trichotomy i below with lower | rfl | higher
  · rw [if_neg (by omega), if_pos lower, Nat.testBit_mod_two_pow, decide_eq_true lower,
      Bool.true_and]
  · rw [if_pos (by omega), if_neg (Nat.lt_irrefl i), Nat.sub_self]
    cases value <;> rfl
  · have small : value.toNat < 2 ^ (i - below) :=
      Nat.lt_of_le_of_lt (Bool.toNat_le value) (Nat.one_lt_two_pow (by omega))
    rw [if_neg (by omega), if_neg (Nat.lt_asymm higher), Nat.testBit_lt_two_pow small]
    exact Nat.testBit_lt_two_pow
      (Nat.lt_of_lt_of_le clear (Nat.pow_le_pow_right (by decide) higher))

/-- A byte string with so many of its first bits cleared, one after another. -/
def clearFirst? (count : Nat) (bytes : Bytes) : Option Bytes :=
  (List.range count).foldlM (putBit? false) bytes

/-- What is left when the first bits are cleared is the number that the others spell. -/
theorem toNat_clearFirst? {count below : Nat} (split : count + below = 8 * bytes.length) :
    ∃ after, clearFirst? count bytes = some after ∧ after.length = bytes.length ∧
      toNat after = toNat bytes % 2 ^ below := by
  induction count generalizing below with
  | zero =>
    refine ⟨bytes, rfl, rfl, (Nat.mod_eq_of_lt ?_).symm⟩
    rw [← Nat.zero_add below, split]
    exact toNat_lt_two_pow bytes
  | succ count ih =>
    have before : count + (below + 1) = 8 * bytes.length := by omega
    obtain ⟨between, cleared, same, left⟩ := ih before
    have clear : toNat between < 2 ^ (below + 1) := left ▸ Nat.mod_lt _ (Nat.two_pow_pos _)
    have place : count + below + 1 = 8 * between.length := by omega
    obtain ⟨after, put, still, rest⟩ := toNat_putBit? false place clear
    refine ⟨after, ?_, still.trans same, ?_⟩
    · rw [clearFirst?] at cleared
      rw [clearFirst?, List.range_succ, List.foldlM_append, cleared]
      simpa using put
    · rw [rest, left, Bool.toNat_false, Nat.mul_zero, Nat.zero_add,
        Nat.mod_mod_of_dvd _ (Nat.pow_dvd_pow 2 (Nat.le_succ below))]

end Bytes

namespace Id

variable {id target : Id} {distance : UInt8} {d : Nat}

/-! ## The id that a draw gives -/

theorem toNat_ofNat {n : Nat} (below : n < 2 ^ 160) : (ofNat n).toNat = n := by
  change Bytes.toNat (Bytes.bigEndian 20 n) = n
  rw [Bytes.toNat_bigEndian, Bytes.weight_eq_two_pow, Nat.mod_eq_of_lt below]

/-- What an id and the one that a draw gives differ by. -/
theorem toNat_xor_atDistance (id : Id) (positive : 1 ≤ d) (draw : Octets 20) :
    id.toNat ^^^ (id.atDistance d draw).toNat =
      2 ^ (min d 160 - 1) + Bytes.toNat draw.toList % 2 ^ (min d 160 - 1) := by
  have low := Nat.mod_lt (Bytes.toNat draw.toList) (Nat.two_pow_pos (min d 160 - 1))
  have double : 2 ^ (min d 160 - 1) + 2 ^ (min d 160 - 1) = 2 ^ min d 160 := by
    rw [← Nat.two_mul, ← Nat.pow_succ']
    congr 1
    omega
  have room : 2 ^ min d 160 ≤ 2 ^ 160 :=
    Nat.pow_le_pow_right (by decide) (Nat.min_le_right d 160)
  rw [atDistance, toNat_xor, Nat.one_shiftLeft, toNat_ofNat (by omega), ← Nat.xor_assoc,
    Nat.xor_self, Nat.zero_xor]

/-- Whatever is drawn, the id is at the distance, or as far away as ids can be. -/
theorem distance_atDistance (id : Id) (positive : 1 ≤ d) (draw : Octets 20) :
    id.distance (id.atDistance d draw) = min d 160 := by
  have low := Nat.mod_lt (Bytes.toNat draw.toList) (Nat.two_pow_pos (min d 160 - 1))
  have size := size_mul_two_pow_add Nat.one_ne_zero low
  rw [Nat.one_mul] at size
  rw [distance_eq_size, toNat_xor_atDistance id positive, size]
  change 0 + 1 + (min d 160 - 1) = min d 160
  omega

/-! ## Bit by bit -/

/-- The id that a draw gives for a distance, as it is found on octets and in their
arithmetic: in the draw the bits above the one that the distance names are cleared one by
one and that bit is set, and the id is added without carry.  None if an octet is looked for
that is not there. -/
def bitByBit (id : Id) (distance : UInt8) (draw : Octets 20) : Option Bytes := do
  let capped := if distance ≤ 160 then distance else 160
  let leading := (160 - capped).toNat
  let cleared ← Bytes.clearFirst? leading draw.toList
  let difference ← Bytes.putBit? true cleared leading
  pure (List.zipWith (· ^^^ ·) id.bytes difference)

/-- How many bits stand above the one that a distance names. -/
theorem toNat_leading (distance : UInt8) :
    (160 - if distance ≤ 160 then distance else 160).toNat = 160 - min distance.toNat 160 := by
  split
  · rename_i near
    have near' : distance.toNat ≤ 160 := UInt8.le_iff_toNat_le.1 near
    rw [UInt8.toNat_sub_of_le _ _ near, Nat.min_eq_left near']
    rfl
  · rename_i far
    have far' : 160 ≤ distance.toNat :=
      Nat.le_of_not_le fun near => far (UInt8.le_iff_toNat_le.2 near)
    rw [Nat.min_eq_right far']
    rfl

/-- Bit by bit the octets are found, and they are those of the id at the distance. -/
theorem bitByBit_eq (id : Id) (positive : 1 ≤ distance) (draw : Octets 20) :
    id.bitByBit distance draw = some (id.atDistance distance.toNat draw).bytes := by
  have least : 1 ≤ distance.toNat := UInt8.le_iff_toNat_le.1 positive
  have whole := draw.length_toList
  obtain ⟨below, named⟩ : ∃ below, min distance.toNat 160 = below + 1 :=
    ⟨min distance.toNat 160 - 1, by omega⟩
  have split : 160 - min distance.toNat 160 + (below + 1) = 8 * draw.toList.length := by omega
  obtain ⟨cleared, clears, same, left⟩ := Bytes.toNat_clearFirst? split
  have clear : Bytes.toNat cleared < 2 ^ (below + 1) := left ▸ Nat.mod_lt _ (Nat.two_pow_pos _)
  have place : 160 - min distance.toNat 160 + below + 1 = 8 * cleared.length := by omega
  obtain ⟨difference, sets, still, spelled⟩ := Bytes.toNat_putBit? true place clear
  let apart : Id := ⟨⟨difference, by omega⟩⟩
  have added : apart.toNat = id.toNat ^^^ (id.atDistance distance.toNat draw).toNat := by
    change Bytes.toNat difference = _
    rw [toNat_xor_atDistance id least, spelled, left, named, Nat.add_sub_cancel, Bool.toNat_true,
      Nat.mul_one, Nat.mod_mod_of_dvd _ (Nat.pow_dvd_pow 2 (Nat.le_succ below))]
  have reached : id.xor apart = id.atDistance distance.toNat draw := by
    rw [← toNat_inj, toNat_xor, added, ← Nat.xor_assoc, Nat.xor_self, Nat.zero_xor]
  rw [bitByBit, toNat_leading, ← reached]
  simp only [clears, sets, Option.bind_eq_bind, Option.bind_some, Option.pure_def]
  rfl

/-! ## Counting draws -/

/-- A number is its highest bit and what stands below it. -/
theorem two_pow_add_mod_of_size {n width : Nat} (long : n.size = width + 1) :
    2 ^ width + n % 2 ^ width = n := by
  have least : 2 ^ width ≤ n := Nat.lt_size.1 (by omega)
  have most : n < 2 ^ (width + 1) := long ▸ Nat.lt_size_self n
  rw [Nat.pow_succ] at most
  rw [Nat.mod_eq_sub_mod least, Nat.mod_eq_of_lt (by omega)]
  omega

/-- An id at the distance is what a draw gives exactly if the draw has the low bits in which
the ids differ. -/
theorem atDistance_eq_iff (positive : 1 ≤ d) (there : id.distance target = d) {draw : Octets 20} :
    id.atDistance d draw = target ↔
      Bytes.toNat draw.toList % 2 ^ (d - 1) = (id.toNat ^^^ target.toNat) % 2 ^ (d - 1) := by
  have near : d ≤ 160 := there ▸ Nat.sub_le 160 _
  have apart := toNat_xor_atDistance id positive draw
  rw [Nat.min_eq_left near] at apart
  constructor
  · rintro rfl
    rw [apart, Nat.add_mod_left, Nat.mod_mod]
  · intro low
    have long : (id.toNat ^^^ target.toNat).size = d - 1 + 1 := by
      rw [← distance_eq_size, there]
      omega
    rw [low, two_pow_add_mod_of_size long] at apart
    exact toNat_inj.1 (Nat.xor_right_injective apart)

/-- As many draws give an id at the distance as there are ways to fill the other bits. -/
theorem card_draws (positive : 1 ≤ d) (there : id.distance target = d) :
    Nat.card { draw : Octets 20 // id.atDistance d draw = target } = 2 ^ (161 - d) := by
  have near : d ≤ 160 := there ▸ Nat.sub_le 160 _
  have low := Nat.mod_lt (id.toNat ^^^ target.toNat) (Nat.two_pow_pos (d - 1))
  calc
    Nat.card { draw : Octets 20 // id.atDistance d draw = target }
      = Nat.card { draw : Octets 20 //
          Bytes.toNat draw.toList % 2 ^ (d - 1) = (id.toNat ^^^ target.toNat) % 2 ^ (d - 1) } :=
        Nat.card_congr (Equiv.subtypeEquivRight fun _ => atDistance_eq_iff positive there)
    _ = Nat.card (Fin (2 ^ (8 * 20 - (d - 1)))) :=
        Nat.card_congr (Octets.equivOfLow (by omega) low)
    _ = 2 ^ (8 * 20 - (d - 1)) := Nat.card_fin _
    _ = 2 ^ (161 - d) := by
        congr 1
        omega

/-- For a distance of at least one an id is drawn from twenty octets, which are changed bit
by bit without looking for one that is not there; whatever they are, it is at that distance,
or at the longest one if that is shorter.  Up to the longest distance each id that is there
is what as many of all draws give as any other. -/
theorem randomAtDistance_exact_and_uniform (id : Id) (distance : UInt8)
    (positive : 1 ≤ distance) :
    (∀ entropy, (id.randomAtDistance distance.toNat entropy).1 =
      id.atDistance distance.toNat (entropy.octets 20).1) ∧
      (∀ draw, id.bitByBit distance draw = some (id.atDistance distance.toNat draw).bytes ∧
        id.distance (id.atDistance distance.toNat draw) = min distance.toNat 160) ∧
      Nat.card (Octets 20) = 2 ^ 160 ∧
      (distance ≤ 160 → ∀ target, id.distance target = distance.toNat →
        Nat.card { draw : Octets 20 // id.atDistance distance.toNat draw = target } =
          2 ^ (161 - distance.toNat)) := by
  have least : 1 ≤ distance.toNat := UInt8.le_iff_toNat_le.1 positive
  refine ⟨?_, ?_, ?_, ?_⟩
  · intro entropy
    rw [randomAtDistance, if_neg (by omega)]
  · intro draw
    exact ⟨id.bitByBit_eq positive draw, id.distance_atDistance least draw⟩
  · exact (Nat.card_congr (Octets.equivFin 20)).trans (Nat.card_fin _)
  · intro _ target there
    exact card_draws least there

/-- The distance of nine, at the border of two octets. -/
theorem randomAtDistance_uniform_at_nine :
    (1 : UInt8) ≤ 9 ∧ (9 : UInt8) ≤ 160 ∧ (ofNat 5).distance (ofNat 260) = 9 ∧
      Nat.card { draw : Octets 20 // (ofNat 5).atDistance 9 draw = ofNat 260 } = 2 ^ 152 := by
  have positive : (1 : UInt8) ≤ 9 := by decide
  have near : (9 : UInt8) ≤ 160 := by decide
  have there : (ofNat 5).distance (ofNat 260) = 9 := by decide
  exact ⟨positive, near, there,
    (randomAtDistance_exact_and_uniform (ofNat 5) 9 positive).2.2.2 near (ofNat 260) there⟩

end Id

end Kademlia
