import Kademlia.Proofs.Krpc.RoundTrip

/-!
# Transaction ids on the wire

A message is read under a transaction id of one octet or of two, and written
under one of two.
-/

namespace Kademlia.Krpc

open Bencode Bencode.Record

/-- The transaction id that a datagram carries, as it is there. -/
def transactionIdOf (datagram : Bytes) : Option Bytes :=
  (Envelope.ofBytes? datagram).map Envelope.transactionId

theorem bigEndian_ofNat_two (high low : UInt8) :
    Bytes.bigEndian 2 (UInt16.ofNat (high.toNat * 256 + low.toNat)).toNat = [high, low] := by
  have highSmall := high.toNat_lt
  have lowSmall := low.toNat_lt
  have value : (UInt16.ofNat (high.toNat * 256 + low.toNat)).toNat = Bytes.toNat [high, low] := by
    simp only [UInt16.toNat_ofNat', Bytes.toNat_cons, Bytes.toNat_nil, List.length_cons,
      List.length_nil, Bytes.weight]
    omega
  rw [value]
  exact Bytes.bigEndian_toNat [high, low]

/-- A transaction id is read from one or two octets, and written as two. -/
theorem bigEndian_of_readTransactionId {given : Bytes} {transactionId : UInt16}
    (read : readTransactionId given = .ok transactionId) :
    (given.length = 1 ∨ given.length = 2) ∧
      Bytes.bigEndian 2 transactionId.toNat = List.replicate (2 - given.length) 0 ++ given := by
  unfold readTransactionId at read
  split at read
  · rename_i low
    cases read
    refine ⟨.inl rfl, ?_⟩
    have padded := bigEndian_ofNat_two 0 low
    rwa [UInt8.toNat_zero, Nat.zero_mul, Nat.zero_add] at padded
  · rename_i high low
    cases read
    exact ⟨.inr rfl, bigEndian_ofNat_two high low⟩
  · cases read

theorem transactionIdOf_encode (family : Family) (message : Message) :
    transactionIdOf (message.encode family) =
      some (Bytes.bigEndian 2 message.transactionId.toNat) := by
  rw [transactionIdOf, Envelope.ofBytes?_encode]
  obtain ⟨transactionId, body⟩ := message
  cases body <;> rfl

/-- A message that is decoded carries a transaction id that can be read. -/
theorem exists_transactionIdOf {family : Family} {datagram : Bytes} {message : Message}
    (decoded : Message.decode family datagram = .ok message) :
    ∃ given, transactionIdOf datagram = some given ∧
      readTransactionId given = .ok message.transactionId := by
  unfold Message.decode at decoded
  split at decoded
  · rename_i envelope found
    refine ⟨envelope.transactionId, by rw [transactionIdOf, found]; rfl, ?_⟩
    cases Envelope.says_of_toMessage decoded with
    | request read made => exact read
    | response read made => exact read
    | error read => exact read
  · cases decoded

/-! ## Queries under any transaction id -/

/-- The datagram of a query by another node, which chooses the transaction id. -/
def queryUnder (given : Bytes) (asked : Request) : Bytes :=
  (Value.dict
    [(key "a", asked.toValue), (key "q", .bytes (key asked.method)), (key "t", .bytes given),
      (key "y", .bytes (key "q"))]).encode

theorem ofBytes?_queryUnder (given : Bytes) (asked : Request) :
    Envelope.ofBytes? (queryUnder given asked) =
      some ⟨given, key "q", some (key asked.method), some asked.toArguments, none, none⟩ :=
  Envelope.ofBytes?_encode_of_spells
    (.dict
      (.field rfl rfl
        ((Arguments.accepts_of_spells asked.spells_toValue).map Part.arguments)
        (.field rfl rfl (Part.accepts_text asked.method)
          (.field rfl rfl (Part.accepts_bytes given)
            (.field rfl rfl (Part.accepts_text "q") .nil)))) rfl rfl)

theorem decode_queryUnder {given : Bytes} {transactionId : UInt16}
    (read : readTransactionId given = .ok transactionId) (family : Family) (asked : Request) :
    Message.decode family (queryUnder given asked) = .ok ⟨transactionId, .request asked⟩ := by
  rw [Message.decode, ofBytes?_queryUnder]
  simp [Envelope.toMessage, read, demand_some, Request.ofArguments_toArguments]

end Kademlia.Krpc
