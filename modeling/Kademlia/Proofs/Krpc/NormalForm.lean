import Kademlia.Proofs.Krpc.RoundTrip

/-!
# What is read can be written

Much more is read than is ever written: records as lists, fields in any order and among
unknown ones, numbers for octets, texts that are no UTF-8, datagrams that go on.  Whatever
a message is read from, it is one that its own datagram gives back, so that datagram is
the form that all of these come to.
-/

namespace Kademlia.Message

open Bencode Krpc

variable {family : Family} {datagram : Bytes} {message : Message}

/-- The nodes of a message that is read are of the stack's family, and its addresses are
bare. -/
theorem confined_of_decode (decoded : decode family datagram = .ok message) :
    (∀ node ∈ message.body.nodes, node.family = family) ∧
      ∀ address ∈ message.body.addresses, address.Bare := by
  unfold decode at decoded
  split at decoded
  · cases Envelope.says_of_toMessage decoded with
    | request read made => exact ⟨nofun, nofun⟩
    | response read made => exact Response.confined_of_ofArguments made
    | error read => exact ⟨nofun, nofun⟩
  · cases decoded

/-- A message that is read is read again from the datagram it is written as. -/
theorem decode_encode_of_decode (decoded : decode family datagram = .ok message) :
    decode family (message.encode family) = .ok message := by
  obtain ⟨confined, plain⟩ := confined_of_decode decoded
  rw [decode_encode confined, bare_eq_self_iff.2 plain]

/-- The datagram that the message in a datagram is written as. -/
def reencode (family : Family) (datagram : Bytes) : Except Error Bytes :=
  (decode family datagram).map (encode family)

theorem reencode_of_decode (decoded : decode family datagram = .ok message) :
    reencode family datagram = .ok (message.encode family) := by
  rw [reencode, decoded]
  rfl

/-- Messages that are read are told apart by what they are written as. -/
theorem encode_inj_of_decode {other : Bytes} {another : Message}
    (decoded : decode family datagram = .ok message)
    (otherwise : decode family other = .ok another) :
    another.encode family = message.encode family ↔ another = message := by
  constructor
  · intro same
    have first := decode_encode_of_decode decoded
    have second := decode_encode_of_decode otherwise
    rw [same, first] at second
    exact (Except.ok.inj second).symm
  · rintro rfl
    rfl

/-- Whatever datagram a message is read from, its nodes are of the stack's family, its
addresses have neither scope nor flow info, and the datagram it is written as gives the same
message and is written as itself.  All datagrams of a message, and no others, come to that
one. -/
theorem encode_normal_form (decoded : decode family datagram = .ok message) :
    (∀ node ∈ message.body.nodes, node.family = family) ∧
      (∀ address ∈ message.body.addresses, address.Bare) ∧
      decode family (message.encode family) = .ok message ∧
      reencode family datagram = .ok (message.encode family) ∧
      reencode family (message.encode family) = .ok (message.encode family) ∧
      ∀ other, reencode family other = .ok (message.encode family) ↔
        decode family other = .ok message := by
  have again := decode_encode_of_decode decoded
  obtain ⟨confined, plain⟩ := confined_of_decode decoded
  refine ⟨confined, plain, again, reencode_of_decode decoded,
    reencode_of_decode again, fun other => ⟨fun same => ?_, reencode_of_decode⟩⟩
  cases otherwise : decode family other with
  | error fault =>
    rw [reencode, otherwise] at same
    cases same
  | ok another =>
    rw [reencode_of_decode otherwise, Except.ok.injEq] at same
    rw [(encode_inj_of_decode decoded otherwise).1 same]

/-- A list in place of each dictionary, a transaction id of one octet and an info hash's
token written as numbers, no port, another implied port than 1, and octets behind the end. -/
def announceList : Bytes :=
  key "lli97ee1:q13:announce_peerl20:" ++ (Id.ofNat 24).bytes ++ key "e20:" ++ (Id.ofNat 9).bytes ++
    key "li1ei255eeei7eeeeeee, and more"

/-- Keys out of order and unknown ones, a text where the code should be, and a description
that is no UTF-8. -/
def errorUnsorted : Bytes :=
  key "d1:y1:e1:xd0:li-1eee1:t2:ab1:el4:code3:" ++ [0xFF, 0xC3, 0x28] ++ key "ee"

theorem encode_normal_form_unusual :
    let announce : Message :=
      ⟨97, .request (.announcePeer (.ofNat 24) (.ofNat 9) 0 true [1, 255])⟩
    let fault : Message := ⟨0x6162, .error 0 "\uFFFD\uFFFD("⟩
    decode .ipv6 announceList = .ok announce ∧ decode .ipv6 errorUnsorted = .ok fault ∧
      reencode .ipv6 (announce.encode .ipv6) = .ok (announce.encode .ipv6) ∧
      reencode .ipv6 (fault.encode .ipv6) = .ok (fault.encode .ipv6) := by
  intro announce fault
  have announced : decode .ipv6 announceList = .ok announce := by
    apply eq_ok_of_toOption
    decide +kernel
  have failed : decode .ipv6 errorUnsorted = .ok fault := by
    apply eq_ok_of_toOption
    decide +kernel
  exact ⟨announced, failed, (encode_normal_form announced).2.2.2.2.1,
    (encode_normal_form failed).2.2.2.2.1⟩

end Kademlia.Message
