import Kademlia.Proofs.Bencode.Extension
import Kademlia.Proofs.Krpc.RoundTrip
import Mathlib.Data.List.Forall2

/-!
# Messages with more in them

A message is read from its dictionary and from that of its arguments or values when their
entries stand in another order and others are among them, whatever those hold, as long as
it is bencode with numbers of 64 bits.
-/

namespace Kademlia

open Bencode Bencode.Reader Bencode.Record Krpc

namespace Krpc

/-! ## Fields are looked up -/

theorem Arguments.ofEntries_congr {ours theirs : List (Bytes × Argument)}
    (same : ∀ key, ours.lookup key = theirs.lookup key) :
    Arguments.ofEntries ours = Arguments.ofEntries theirs := by
  simp only [Arguments.ofEntries, same]

theorem Envelope.ofEntries_congr {ours theirs : List (Bytes × Part)}
    (same : ∀ key, ours.lookup key = theirs.lookup key) :
    Envelope.ofEntries ours = Envelope.ofEntries theirs := by
  simp only [Envelope.ofEntries, same]

/-! ## Entries of a message -/

/-- An entry of a message as it is, or its arguments or values with more in them. -/
inductive Part.Loosens : Bytes × Value → Bytes × Value → Prop
  | same (entry : Bytes × Value) : Loosens entry entry
  | extended {name : Bytes} {entries extended : List (Bytes × Value)}
      (inside : name = key "a" ∨ name = key "r")
      (more : Extends Argument.fields entries extended) :
      Loosens (name, .dict entries) (name, .dict extended)

/-- Arguments are read from what they are spelled by when it has more in it. -/
theorem Part.Loosens.exists_accepts {name : Bytes} {value : Value} {entry : Bytes × Value}
    {arguments : Arguments} (loosens : Loosens (name, value) entry)
    (spells : Spells Argument.fields Arguments.ofEntries value arguments) :
    ∃ loosened, entry = (name, loosened) ∧ Accepts Arguments.read loosened arguments := by
  cases loosens with
  | same => exact ⟨value, rfl, Arguments.accepts_of_spells spells⟩
  | extended inside more =>
    exact ⟨_, rfl,
      Arguments.accepts_of_spells (spells.extend Arguments.ofEntries_congr more)⟩

/-- Where there is no dictionary, entries are as they are. -/
theorem Part.eq_of_loosens {entries loosened : List (Bytes × Value)}
    (loosens : List.Forall₂ Loosens entries loosened)
    (flat : ∀ entry ∈ entries, ∀ inner, entry.2 ≠ .dict inner) : loosened = entries := by
  induction loosens with
  | nil => rfl
  | cons first _ ih =>
    rw [List.forall_mem_cons] at flat
    rw [ih flat.2]
    cases first with
    | same => rfl
    | extended inside more => exact absurd rfl (flat.1 _)

end Krpc

/-- The dictionary of a message with its entries in any order, any number of others among
them whose keys are texts but no field's, and the same done to its arguments or values. -/
inductive Message.Extends (family : Family) (message : Message) : Value → Prop
  | dict {entries loosened extended : List (Bytes × Value)}
      (written : message.toValue family = .dict entries)
      (inside : List.Forall₂ Part.Loosens entries loosened)
      (outside : Record.Extends Part.fields loosened extended) :
      Extends family message (.dict extended)

variable {family : Family} {message : Message}

/-- A message is spelled by its entries with more in its arguments or values. -/
theorem Message.spells_of_loosens {entries loosened : List (Bytes × Value)}
    (written : message.toValue family = .dict entries)
    (inside : List.Forall₂ Part.Loosens entries loosened) :
    Spells Part.fields Envelope.ofEntries (.dict loosened) (message.toEnvelope family) := by
  obtain ⟨transactionId, body⟩ := message
  cases body with
  | request request =>
    cases written
    rcases List.forall₂_cons_left_iff.1 inside with ⟨entry, others, first, rest, rfl⟩
    rcases first.exists_accepts request.spells_toValue with ⟨arguments, rfl, accepted⟩
    rw [Part.eq_of_loosens rest (by simp)]
    exact Envelope.spells_request family transactionId request accepted
  | response response =>
    cases written
    rcases List.forall₂_cons_left_iff.1 inside with ⟨entry, others, first, rest, rfl⟩
    rcases first.exists_accepts (response.spells_toValue family) with ⟨values, rfl, accepted⟩
    rw [Part.eq_of_loosens rest (by simp)]
    exact Envelope.spells_response family transactionId response accepted
  | error code description =>
    cases written
    rw [Part.eq_of_loosens inside (by simp)]
    exact Message.spells_toValue family ⟨transactionId, .error code description⟩

/-- A message whose nodes are of the stack's family, and whose addresses have neither scope
nor flow info, is read from its dictionary with more in it, whatever octets come behind
that. -/
theorem Message.decode_of_extends {value : Value}
    (confined : ∀ node ∈ message.body.nodes, node.family = family)
    (plain : ∀ address ∈ message.body.addresses, address.Bare)
    (more : message.Extends family value) (trailing : Bytes) :
    Message.decode family (value.encode ++ trailing) = .ok message := by
  cases more with
  | dict written inside outside =>
    have spells := (Message.spells_of_loosens written inside).extend Envelope.ofEntries_congr outside
    rw [decode, Envelope.ofBytes?_encode_append spells]
    exact (toMessage_toEnvelope confined).trans (congrArg Except.ok (bare_eq_self_iff.2 plain))

/-- A ping with its entries in reverse order, and the same unknown entry in front of them
and of its arguments. -/
theorem Message.decode_of_extends_reversed :
    let message : Message := ⟨0x6162, .request (.ping (.ofNat 9))⟩
    let unknown : Bytes × Value :=
      (key "x", .list [.dict [([0xFF], .int (-1)), ([0xFF], .bytes [])], .int Int64.maxValue])
    let arguments := [(key "id", (Id.ofNat 9).toValue), unknown]
    let entries : List (Bytes × Value) :=
      [(key "a", .dict arguments.reverse), (key "q", .bytes (key "ping")),
        (key "t", .bytes (Bytes.bigEndian 2 0x6162)), (key "v", .bytes version),
        (key "y", .bytes (key "q"))]
    let value := Value.dict (entries ++ [unknown]).reverse
    (∀ node ∈ message.body.nodes, node.family = .ipv4) ∧
      (∀ address ∈ message.body.addresses, address.Bare) ∧ message.Extends .ipv4 value ∧
      decode .ipv4 (value.encode ++ [0x21]) = .ok message := by
  intro message unknown arguments entries value
  have confined : ∀ node ∈ message.body.nodes, node.family = .ipv4 := nofun
  have plain : ∀ address ∈ message.body.addresses, address.Bare := nofun
  have unknownArgument : ∀ entry ∈ [unknown],
      Utf8.isValid entry.1 = true ∧ ∀ field ∈ Argument.fields, field.key ≠ entry.1 := by
    rw [List.forall_mem_singleton]
    exact ⟨by decide, by decide +kernel⟩
  have unknownPart : ∀ entry ∈ [unknown],
      Utf8.isValid entry.1 = true ∧ ∀ field ∈ Part.fields, field.key ≠ entry.1 := by
    rw [List.forall_mem_singleton]
    exact ⟨by decide, by decide +kernel⟩
  have inside : Part.Loosens (key "a", (Request.ping (.ofNat 9)).toValue)
      (key "a", .dict arguments.reverse) :=
    .extended (.inl rfl) ⟨[unknown], List.reverse_perm arguments, unknownArgument⟩
  have more : message.Extends .ipv4 value :=
    .dict rfl (.cons inside (List.forall₂_same.2 fun entry _ => .same entry))
      ⟨[unknown], List.reverse_perm (entries ++ [unknown]), unknownPart⟩
  exact ⟨confined, plain, more, decode_of_extends confined plain more [0x21]⟩

/-- A number of more than 64 bits makes a datagram malformed, even in an entry that means
nothing: one less, and the ping is read. -/
theorem Message.decode_of_wide_number :
    let message : Message := ⟨0x6162, .request (.ping (.ofNat 9))⟩
    let front := key "d1:ad2:id20:" ++ (Id.ofNat 9).bytes ++ key "e1:q4:ping1:t2:ab1:v4:" ++ version
    let back := key "1:y1:qe"
    message.encode .ipv4 = front ++ back ∧
      decode .ipv4 (front ++ key "1:xi9223372036854775807e" ++ back) = .ok message ∧
      decode .ipv4 (front ++ key "1:xi9223372036854775808e" ++ back) = .error .malformed := by
  intro message front back
  have refused : Envelope.ofBytes? (front ++ key "1:xi9223372036854775808e" ++ back) = none := by
    decide +kernel
  refine ⟨by decide +kernel, ?_, ?_⟩
  · apply eq_ok_of_toOption
    decide +kernel
  · rw [decode, refused]

end Kademlia
