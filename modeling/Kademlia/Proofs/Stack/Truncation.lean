import Kademlia.Proofs.Bencode.Prefix
import Kademlia.Proofs.Krpc.Size
import Kademlia.Proofs.Stack.Reply

/-!
# Datagrams that were cut off

A message that was cut off anywhere is no message: the mark that closes it is missing,
and no reader looks past what it takes.  So a stack ignores what does not fit its
buffer, and stays as it is.
-/

namespace Kademlia

open Bencode Bencode.Reader Bencode.Record Krpc

/-! ## What the readers of messages take -/

namespace Krpc

theorem Argument.steady_fields : ∀ field ∈ Argument.fields, Steady field.read := by
  have octets : Steady (Argument.reader Reader.bytes .bytes) := steady_bytes.map Argument.bytes
  have number (bound : Nat) : Steady (Argument.reader (Reader.natUpTo bound) .number) :=
    (steady_natUpTo bound).map Argument.number
  have strings : Steady (Argument.reader (Reader.list Reader.bytes) .strings) :=
    steady_bytes.list.map Argument.strings
  simp only [Argument.fields, List.forall_mem_cons]
  exact ⟨octets, octets, octets, octets, number _, number _, octets, octets, strings, nofun⟩

theorem Arguments.steady_read : Steady Arguments.read where
  nil := rfl
  append := by
    intro tokens rest arguments taken more
    rcases Option.bind_eq_some_iff.1 taken with ⟨⟨entries, left⟩, fields, made⟩
    rcases Option.bind_eq_some_iff.1 made with ⟨spelled, spells, same⟩
    cases same
    have fields := (Record.steady_read Argument.steady_fields).append fields more
    change (Record.read Argument.fields (tokens ++ more)).bind _ = _
    rw [fields]
    change (Arguments.ofEntries entries).bind _ = _
    rw [spells]
    rfl

theorem Part.steady_fields : ∀ field ∈ Part.fields, Steady field.read := by
  have octets : Steady (Part.reader Reader.bytes .bytes) := steady_bytes.map Part.bytes
  have text : Steady (Part.reader Reader.text .bytes) := steady_text.map Part.bytes
  have arguments : Steady (Part.reader Arguments.read .arguments) :=
    Arguments.steady_read.map Part.arguments
  have items : Steady (Part.reader (Reader.list Reader.item) .items) :=
    steady_item.list.map Part.items
  simp only [Part.fields, List.forall_mem_cons]
  exact ⟨octets, text, text, arguments, arguments, items, octets, nofun⟩

end Krpc

/-! ## What was cut off -/

variable {family : Family} {message : Message} {start missing : Bytes}

/-- The reader of messages takes all that a message is written in, and so makes nothing
of less. -/
theorem Krpc.Envelope.ofBytes?_of_cut (cut : start ++ missing = message.encode family)
    (short : missing ≠ []) : Envelope.ofBytes? start = none := by
  rcases (message.spells_toValue family).exists_accepts with ⟨meanings, accepted, -⟩
  rcases Token.exists_tokens_append cut short with ⟨unread, some_unread, parts⟩
  have whole := accepted []
  rw [List.append_nil, ← parts] at whole
  have refused : Record.read Part.fields (Token.tokens start) = none := by
    cases taken : Record.read Part.fields (Token.tokens start) with
    | none => rfl
    | some result =>
      obtain ⟨entries, left⟩ := result
      have longer := (Record.steady_read Part.steady_fields).append taken unread
      rw [whole, Option.some.injEq, Prod.mk.injEq] at longer
      exact absurd (List.append_eq_nil_iff.1 longer.2.symm).2 some_unread
  change (Record.read Part.fields (Token.tokens start)).bind _ = none
  rw [refused]
  rfl

theorem Message.decode_of_cut (cut : start ++ missing = message.encode family)
    (short : missing ≠ []) (reading : Family) : Message.decode reading start = .error .malformed := by
  rw [decode, Envelope.ofBytes?_of_cut cut short]

namespace Stack

/-- What is no message leaves a stack as it is. -/
theorem handle_of_malformed {stack : Stack} {datagram : Datagram}
    (linked : stack.require .receiver .factory = .ok ()) (now : Nat)
    (head : datagram.bytes.head? = some 0x64)
    (refused : Message.decode stack.family datagram.bytes = .error .malformed) :
    stack.handle now datagram = (.ok .ignored, stack) := by
  unfold handle
  split
  · rfl
  · rw [if_neg fun other => other head, linked]
    dsimp only
    rw [refused]

/-- Whatever a message is, each part of its datagram that this begins with, and that is
not all of it, is malformed, whatever family it is read under.  A stack whose receiver
finds its socket and its factory ignores the datagram of a message that is longer than
the buffer: it takes that off its socket and stays as it is. -/
theorem truncated_ignored (family : Family) (message : Message) :
    (∀ start, start <+: message.encode family → start ≠ message.encode family →
      ∀ reading, Message.decode reading start = .error .malformed) ∧
    ∀ (stack : Stack) (now handles : Nat) (network : Network) (source : Address)
      (waiting : List Datagram),
      stack.require .receiver .connection = .ok () → stack.require .receiver .factory = .ok () →
      2048 < (message.encode family).length →
      network.channel? stack.connection.localAddress =
        some ⟨handles, ⟨message.encode family, source⟩ :: waiting⟩ →
      stack.receive now network =
        (.ok .ignored,
          network.modify stack.connection.localAddress fun channel => { channel with waiting },
          stack) := by
  constructor
  · rintro start ⟨missing, cut⟩ different
    apply Message.decode_of_cut cut
    rintro rfl
    rw [List.append_nil] at cut
    exact different cut
  · intro stack now handles network source waiting connection factory long bound
    have cut : (message.encode family).take mtu ++ (message.encode family).drop mtu =
        message.encode family := List.take_append_drop _ _
    have short : (message.encode family).drop mtu ≠ [] := by
      rw [ne_eq, List.drop_eq_nil_iff]
      exact Nat.not_le.2 long
    have head : ((message.encode family).take mtu).head? = some 0x64 := by
      rw [List.head?_take, if_neg (by decide), Message.head?_encode]
    have ignored : stack.handle now (Datagram.cut mtu ⟨message.encode family, source⟩) =
        (.ok .ignored, stack) :=
      handle_of_malformed factory now head (Message.decode_of_cut cut short stack.family)
    rw [receive_of_read connection now (Connection.receive_cut bound), ignored]

/-- A response with a token of 2048 octets, read by a stack into its buffer. -/
theorem truncated_ignored_long_token :
    let home : Address := ⟨.v4 (.zero 4), 6881⟩
    let peer : Address := ⟨.v4 (.zero 4), 7000⟩
    let stack := assembled ⟨⟨.zero 20⟩, 6881⟩ ⟨.ipv4, home⟩ 1000 0 ⟨1⟩
    let message : Message := ⟨7, .response (.getPeers (.ofNat 9) (List.replicate 2048 0) [] [])⟩
    let network : Network := ⟨[(home, ⟨1, [⟨message.encode .ipv4, peer⟩]⟩)], [], false, 0⟩
    stack.require .receiver .connection = .ok () ∧ stack.require .receiver .factory = .ok () ∧
      2048 < (message.encode .ipv4).length ∧
      (message.encode .ipv4).take 100 <+: message.encode .ipv4 ∧
      Message.decode .ipv4 ((message.encode .ipv4).take 100) = .error .malformed ∧
      (stack.receive 0 network).1 = .ok .ignored ∧ (stack.receive 0 network).2.2 = stack := by
  intro home peer stack message network
  have connection : stack.require .receiver .connection = .ok () := rfl
  have factory : stack.require .receiver .factory = .ok () := rfl
  have long : 2048 < (message.encode .ipv4).length := by decide +kernel
  have begins : (message.encode .ipv4).take 100 <+: message.encode .ipv4 := List.take_prefix _ _
  have different : (message.encode .ipv4).take 100 ≠ message.encode .ipv4 := by
    intro same
    have lengths := congrArg List.length same
    rw [List.length_take] at lengths
    omega
  have bound : network.channel? stack.connection.localAddress =
      some ⟨1, ⟨message.encode .ipv4, peer⟩ :: []⟩ := rfl
  rcases truncated_ignored .ipv4 message with ⟨malformed, ignored⟩
  have received := ignored stack 0 1 network peer [] connection factory long bound
  exact ⟨connection, factory, long, begins, malformed _ begins different .ipv4,
    congrArg Prod.fst received, congrArg (fun outcome => outcome.2.2) received⟩

end Stack

end Kademlia
