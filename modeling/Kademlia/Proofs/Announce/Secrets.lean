import Kademlia.Announce.Secrets
import Kademlia.Proofs.Checksum

/-!
# How long a token is accepted

A token depends on nothing of a secret but the secret itself, and different secrets
give different tokens.  So a token is accepted as long as its secret is one of the
two that are kept: for one rotation, and longer only if the same secret is drawn
again.
-/

namespace Kademlia.Secrets

variable {secrets : Secrets} {infoHash : InfoHash} {peer : Address} {given : Bytes}

/-! ## Tokens -/

theorem length_token (infoHash : InfoHash) (peer : Address) (secret : Octets 4) :
    (token infoHash peer secret).length = 4 :=
  Bytes.length_bigEndian 4 _

/-- A token is a checksum in another form. -/
theorem token_eq_iff {other : InfoHash} {another : Address} {first second : Octets 4} :
    token infoHash peer first = token other another second ↔
      Checksum.crc32c (infoHash.bytes ++ peer.compact ++ first.toList) =
        Checksum.crc32c (other.bytes ++ another.compact ++ second.toList) := by
  constructor
  · intro equal
    have within (checksum : UInt32) : checksum.toNat % Bytes.weight 4 = checksum.toNat :=
      Nat.mod_eq_of_lt checksum.toNat_lt
    have numbers := congrArg Bytes.toNat equal
    rw [token, token, Bytes.toNat_bigEndian, Bytes.toNat_bigEndian, within, within] at numbers
    exact UInt32.toNat_inj.1 numbers
  · intro equal
    rw [token, equal, token]

/-- For the same info hash and address, different secrets give different tokens. -/
theorem token_inj {first second : Octets 4} :
    token infoHash peer first = token infoHash peer second ↔ first = second := by
  have same : first.toList.length = second.toList.length := by
    rw [first.length_toList, second.length_toList]
  rw [token_eq_iff, Checksum.crc32c_append_inj same (Nat.le_of_eq first.length_toList)]
  exact Octets.ext_iff.symm

theorem accepts_iff :
    secrets.accepts infoHash peer given = true ↔
      given = token infoHash peer secrets.current ∨
        given = token infoHash peer secrets.previous := by
  simp [accepts]

theorem length_of_accepts (accepted : secrets.accepts infoHash peer given = true) :
    given.length = 4 := by
  rcases accepts_iff.1 accepted with rfl | rfl
  · exact length_token infoHash peer _
  · exact length_token infoHash peer _

/-- What was generated under some secrets is accepted under others that keep its
secret. -/
theorem accepts_generate_iff {before after : Secrets} :
    after.accepts infoHash peer (before.generate infoHash peer) = true ↔
      before.current = after.current ∨ before.current = after.previous := by
  rw [accepts_iff, generate, token_inj, token_inj]

/-! ## Rotation -/

/-- Secrets after some rotations, each at its own time and with its own draw. -/
def rotated (secrets : Secrets) (draws : Nat → Nat × Entropy) : Nat → Secrets
  | 0 => secrets
  | k + 1 => ((secrets.rotated draws k).rotate (draws k).1 (draws k).2).1

/-- All secrets in the order in which they come: the previous one at the start, the
current one at the start, and then those that are drawn. -/
def sequence (secrets : Secrets) (draws : Nat → Nat × Entropy) : Nat → Octets 4
  | 0 => secrets.previous
  | 1 => secrets.current
  | k + 2 => ((draws k).2.octets 4).1

/-- A rotation makes the secret that is drawn the current one, and the current one the one
before. -/
theorem rotate_fst (secrets : Secrets) (now : Nat) (entropy : Entropy) :
    (secrets.rotate now entropy).1 = ⟨(entropy.octets 4).1, secrets.current, now⟩ :=
  rfl

theorem current_rotated (secrets : Secrets) (draws : Nat → Nat × Entropy) (k : Nat) :
    (secrets.rotated draws k).current = secrets.sequence draws (k + 1) := by
  cases k with
  | zero => rfl
  | succ k => rw [rotated, rotate_fst, sequence]

theorem previous_rotated (secrets : Secrets) (draws : Nat → Nat × Entropy) (k : Nat) :
    (secrets.rotated draws k).previous = secrets.sequence draws k := by
  cases k with
  | zero => rfl
  | succ k => rw [rotated, rotate_fst, current_rotated]

/-- The first two secrets are those at the start, and each rotation adds the one that it
draws; after some rotations the last two are the ones that are kept.  A token that is given
after `k` rotations is accepted after `n` more exactly if its secret, number `k + 1` of all,
is one of the last two then.  So one rotation does not end it, and two do unless its secret
was drawn again.  Only four octets are ever accepted. -/
theorem accepts_rotated_iff (secrets : Secrets) (draws : Nat → Nat × Entropy)
    (infoHash : InfoHash) (peer : Address) (k n : Nat) :
    let token := (secrets.rotated draws k).generate infoHash peer
    let later := secrets.rotated draws (k + n)
    let secret := secrets.sequence draws
    (secret 0 = secrets.previous ∧ secret 1 = secrets.current ∧
      secret (k + 2) = ((draws k).2.octets 4).1 ∧
      (secrets.rotated draws k).current = secret (k + 1) ∧
      (secrets.rotated draws k).previous = secret k) ∧
    (later.accepts infoHash peer token = true ↔
      secret (k + 1) = secret (k + n + 1) ∨ secret (k + 1) = secret (k + n)) ∧
    (n ≤ 1 → later.accepts infoHash peer token = true) ∧
    (2 ≤ n → later.accepts infoHash peer token = true →
      ∃ i, k ≤ i ∧ i < k + n ∧ ((draws i).2.octets 4).1 = secret (k + 1)) ∧
    ∀ given, given.length ≠ 4 → later.accepts infoHash peer given = false := by
  intro token later secret
  have exactly : later.accepts infoHash peer token = true ↔
      secret (k + 1) = secret (k + n + 1) ∨ secret (k + 1) = secret (k + n) := by
    rw [accepts_generate_iff, current_rotated, current_rotated, previous_rotated]
  refine ⟨⟨rfl, rfl, rfl, current_rotated secrets draws k, previous_rotated secrets draws k⟩,
    exactly, ?_, ?_, ?_⟩
  · intro once
    rw [exactly]
    rcases Nat.le_one_iff_eq_zero_or_eq_one.1 once with rfl | rfl
    · exact .inl rfl
    · exact .inr rfl
  · intro twice accepted
    obtain ⟨more, rfl⟩ := Nat.exists_eq_add_of_le' twice
    rcases exactly.1 accepted with last | before
    · exact ⟨k + more + 1, by omega, by omega, last.symm⟩
    · exact ⟨k + more, by omega, by omega, before.symm⟩
  · intro given length
    rw [Bool.eq_false_iff]
    intro accepted
    exact length (length_of_accepts accepted)

/-- A token that is accepted after one rotation and refused after the next. -/
theorem accepts_rotated_iff_twice :
    let secrets : Secrets := ⟨.zero 4, .zero 4, 0⟩
    let draws (k : Nat) : Nat × Entropy := (1000 * k, ⟨UInt64.ofNat k⟩)
    let peer : Address := ⟨.v4 (.zero 4), 6881⟩
    let token := secrets.generate (.ofNat 9) peer
    secrets.accepts (.ofNat 9) peer token = true ∧
      (secrets.rotated draws 1).accepts (.ofNat 9) peer token = true ∧
      (secrets.rotated draws 2).accepts (.ofNat 9) peer token = false ∧
      (secrets.rotated draws 2).accepts (.ofNat 9) peer [] = false := by
  intro secrets draws peer token
  obtain ⟨-, -, still, -⟩ := accepts_rotated_iff secrets draws (.ofNat 9) peer 0 0
  obtain ⟨-, -, once, -⟩ := accepts_rotated_iff secrets draws (.ofNat 9) peer 0 1
  obtain ⟨-, twice, -, -, short⟩ := accepts_rotated_iff secrets draws (.ofNat 9) peer 0 2
  refine ⟨still (by decide), once (by decide), ?_, short [] (by decide)⟩
  rw [Bool.eq_false_iff]
  exact mt twice.1 (by decide +kernel)

end Kademlia.Secrets
