import Kademlia.Inflight

/-!
# Which query is answered, and which have waited for too long
-/

namespace Kademlia

namespace Query

variable {query : Query} {transactionId : UInt16} {source : Address}

/-- A message with this transaction id, from this address, is what a query waits
for: it comes from where the query went, as far as that says from where. -/
structure Awaits (query : Query) (transactionId : UInt16) (source : Address) : Prop where
  number : query.transactionId = transactionId
  port : query.destination.port = source.port
  ip : query.destination.ip.isUnspecified = true ∨ query.destination.ip = source.ip

theorem isAnsweredBy_iff :
    query.isAnsweredBy transactionId source = true ↔ query.Awaits transactionId source := by
  constructor
  · intro answered
    simp only [isAnsweredBy, Bool.and_eq_true, Bool.or_eq_true, decide_eq_true_eq] at answered
    exact ⟨answered.1.1, answered.1.2, answered.2⟩
  · rintro ⟨number, port, ip⟩
    simp only [isAnsweredBy, Bool.and_eq_true, Bool.or_eq_true, decide_eq_true_eq]
    exact ⟨⟨number, port⟩, ip⟩

theorem isAnsweredBy_eq_false_iff :
    query.isAnsweredBy transactionId source = false ↔ ¬ query.Awaits transactionId source := by
  rw [← Bool.not_eq_true, isAnsweredBy_iff]

theorem isExpired_iff {now : Nat} (past : query.sentAt ≤ now) :
    query.isExpired now = true ↔ query.sentAt + query.timeout ≤ now := by
  rw [isExpired, decide_eq_true_eq]
  omega

end Query

namespace Inflight

variable {inflight rest : Inflight} {query : Query} {transactionId : UInt16} {source : Address}

/-- No query is answered when none of those that wait is. -/
theorem answer_eq_none_iff :
    answer transactionId source inflight = none ↔
      ∀ query ∈ inflight, ¬ query.Awaits transactionId source := by
  simp only [← Query.isAnsweredBy_eq_false_iff]
  induction inflight with
  | nil => simp [answer]
  | cons first others ih =>
    rw [answer, List.forall_mem_cons]
    cases first.isAnsweredBy transactionId source with
    | true => simp
    | false => simpa using ih

/-- The query that is answered is the first one that can be; the others stay in
their order. -/
theorem answer_eq_some_iff :
    answer transactionId source inflight = some (query, rest) ↔
      query.Awaits transactionId source ∧
        ∃ older newer, inflight = older ++ query :: newer ∧ rest = older ++ newer ∧
          ∀ other ∈ older, ¬ other.Awaits transactionId source := by
  simp only [← Query.isAnsweredBy_iff]
  induction inflight generalizing rest with
  | nil => simp [answer]
  | cons first others ih =>
    rw [answer]
    cases answered : first.isAnsweredBy transactionId source with
    | true =>
      rw [if_pos rfl, Option.some.injEq, Prod.mk.injEq]
      constructor
      · rintro ⟨rfl, rfl⟩
        exact ⟨answered, [], others, rfl, rfl, by simp⟩
      · rintro ⟨-, older, newer, parts, rfl, earlier⟩
        cases older with
        | nil =>
          rw [List.nil_append, List.cons.injEq] at parts
          exact ⟨parts.1, parts.2⟩
        | cons head older =>
          rw [List.cons_append, List.cons.injEq] at parts
          have passed := earlier head List.mem_cons_self
          rw [← parts.1] at passed
          exact absurd answered passed
    | false =>
      rw [if_neg Bool.false_ne_true, Option.map_eq_some_iff]
      constructor
      · rintro ⟨⟨found, left⟩, later, same⟩
        rw [Prod.mk.injEq] at same
        obtain ⟨rfl, rfl⟩ := same
        obtain ⟨own, older, newer, rfl, rfl, earlier⟩ := ih.1 later
        exact ⟨own, first :: older, newer, rfl, rfl,
          List.forall_mem_cons.2 ⟨Bool.eq_false_iff.1 answered, earlier⟩⟩
      · rintro ⟨own, older, newer, parts, rfl, earlier⟩
        cases older with
        | nil =>
          rw [List.nil_append, List.cons.injEq] at parts
          rw [← parts.1, answered] at own
          cases own
        | cons head older =>
          rw [List.cons_append, List.cons.injEq] at parts
          obtain ⟨rfl, rfl⟩ := parts
          have later := ih.2 ⟨own, older, newer, rfl, rfl, (List.forall_mem_cons.1 earlier).2⟩
          exact ⟨(query, older ++ newer), later, rfl⟩

/-- What has waited for too long and what has not, each in order. -/
theorem expire_eq_filter (now : Nat) (inflight : Inflight) :
    expire now inflight =
      (inflight.filter (·.isExpired now), inflight.filter (!·.isExpired now)) := by
  rw [expire, List.partition_eq_filter_filter]
  rfl

end Inflight

end Kademlia
