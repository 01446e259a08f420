import Kademlia.Krpc.Codec
import Kademlia.Proofs.Bencode.Reading
import Kademlia.Proofs.Text.Utf8

/-!
# The records that messages are written as

A query, a response and a message each have a record that they are written as.
That record is what the readers of arguments and of messages make of the bytes,
for every message whatsoever.
-/

namespace Kademlia

open Bencode Bencode.Reader Bencode.Record Krpc

/-! ## Arguments -/

/-- A byte string in an argument or a value that is one. -/
theorem Krpc.Argument.accepts_bytes (value : Bytes) :
    Accepts (Argument.reader Reader.bytes .bytes) (.bytes value) (.bytes value) :=
  (Reader.accepts_bytes value).map Argument.bytes

theorem Krpc.Argument.accepts_number {bound n : Nat} (within : n ≤ bound) (small : n < 65536) :
    Accepts (Argument.reader (Reader.natUpTo bound) .number) (.int (Int64.ofNat n)) (.number n) :=
  (accepts_natUpTo within small).map Argument.number

theorem Krpc.Argument.accepts_strings (peers : List Address) :
    Accepts (Argument.reader (Reader.list Reader.bytes) .strings)
      (.list (peers.map fun peer => .bytes peer.compact)) (.strings (peers.map Address.compact)) :=
  (accepts_list (fun peer : Address => Value.bytes peer.compact) Address.compact peers
    fun peer _ => Reader.accepts_bytes peer.compact).map Argument.strings

/-- Arguments are read from a dictionary that spells them. -/
theorem Krpc.Arguments.accepts_of_spells {value : Value} {arguments : Arguments}
    (spells : Spells Argument.fields Arguments.ofEntries value arguments) :
    Accepts Arguments.read value arguments := by
  intro rest
  obtain ⟨meanings, accepted, made⟩ := spells.exists_accepts
  change (Record.read Argument.fields (value.tokens ++ rest)).bind _ = _
  rw [accepted rest]
  simp [made]

/-- Arguments with an id only. -/
def Krpc.Arguments.ofId (id : Id) : Arguments :=
  ⟨id.bytes, none, none, none, none, none, none, none, none⟩

/-- Arguments with the compact nodes of a family. -/
def Krpc.Arguments.withNodes (arguments : Arguments) (nodes : List Node) : Family → Arguments
  | .ipv4 => { arguments with nodes := some (Node.compactList nodes) }
  | .ipv6 => { arguments with nodes6 := some (Node.compactList nodes) }

/-- The arguments that a query is written as. -/
def Request.toArguments : Request → Arguments
  | .ping requester => .ofId requester
  | .findNode requester target => { Arguments.ofId requester with target := some target.bytes }
  | .getPeers requester infoHash =>
      { Arguments.ofId requester with infoHash := some infoHash.bytes }
  | .announcePeer requester infoHash port impliedPort token =>
      { Arguments.ofId requester with
        infoHash := some infoHash.bytes
        token := some token
        port := some port.toNat
        impliedPort := if impliedPort then some 1 else none }

/-- The values that a response is written as. -/
def Response.toArguments (family : Family) : Response → Arguments
  | .ping responder => .ofId responder
  | .findNode responder nodes => (Arguments.ofId responder).withNodes nodes family
  | .getPeers responder token nodes values =>
      { (Arguments.ofId responder).withNodes nodes family with
        token := some token
        values := if values = [] then none else some (values.map Address.compact) }

/-- A query is written as a dictionary that spells its arguments. -/
theorem Request.spells_toValue (request : Request) :
    Spells Argument.fields Arguments.ofEntries request.toValue request.toArguments := by
  cases request with
  | ping requester =>
    exact .dict (.field rfl rfl (Argument.accepts_bytes requester.bytes) .nil) rfl rfl
  | findNode requester target =>
    exact .dict
      (.field rfl rfl (Argument.accepts_bytes requester.bytes)
        (.field rfl rfl (Argument.accepts_bytes target.bytes) .nil)) rfl rfl
  | getPeers requester infoHash =>
    exact .dict
      (.field rfl rfl (Argument.accepts_bytes requester.bytes)
        (.field rfl rfl (Argument.accepts_bytes infoHash.bytes) .nil)) rfl rfl
  | announcePeer requester infoHash port impliedPort token =>
    have portNumber : Accepts (Argument.reader (Reader.natUpTo 65535) .number)
        (.int (Int64.ofNat port.toNat)) (.number port.toNat) :=
      Argument.accepts_number (Nat.le_of_lt_succ port.toNat_lt) port.toNat_lt
    have fromInfoHash : Entries Argument.fields
        [(key "info_hash", .bytes infoHash.bytes), (key "port", .int (Int64.ofNat port.toNat)),
          (key "token", .bytes token)]
        [(key "info_hash", .bytes infoHash.bytes), (key "port", .number port.toNat),
          (key "token", .bytes token)] :=
      .field rfl rfl (Argument.accepts_bytes infoHash.bytes)
        (.field rfl rfl portNumber (.field rfl rfl (Argument.accepts_bytes token) .nil))
    cases impliedPort with
    | false =>
      exact .dict
        (.field rfl rfl (Argument.accepts_bytes requester.bytes) fromInfoHash) rfl rfl
    | true =>
      exact .dict
        (.field rfl rfl (Argument.accepts_bytes requester.bytes)
          (.field rfl rfl (Argument.accepts_number (n := 1) (by decide) (by decide))
            fromInfoHash)) rfl rfl

/-- A response is written as a dictionary that spells its values. -/
theorem Response.spells_toValue (family : Family) (response : Response) :
    Spells Argument.fields Arguments.ofEntries (response.toValue family)
      (response.toArguments family) := by
  cases response with
  | ping responder =>
    exact .dict (.field rfl rfl (Argument.accepts_bytes responder.bytes) .nil) rfl rfl
  | findNode responder nodes =>
    cases family <;>
      exact .dict
        (.field rfl rfl (Argument.accepts_bytes responder.bytes)
          (.field rfl rfl (Argument.accepts_bytes (Node.compactList nodes)) .nil)) rfl rfl
  | getPeers responder token nodes values =>
    have tokenField := Argument.accepts_bytes token
    have nodesField := Argument.accepts_bytes (Node.compactList nodes)
    cases values with
    | nil =>
      cases family <;>
        exact .dict
          (.field rfl rfl (Argument.accepts_bytes responder.bytes)
            (.field rfl rfl nodesField (.field rfl rfl tokenField .nil))) rfl rfl
    | cons peer peers =>
      cases family <;>
        exact .dict
          (.field rfl rfl (Argument.accepts_bytes responder.bytes)
            (.field rfl rfl nodesField
              (.field rfl rfl tokenField
                (.field rfl rfl (Argument.accepts_strings (peer :: peers)) .nil)))) rfl rfl

/-! ## Messages -/

/-- The record that a message is written as. -/
def Message.toEnvelope (family : Family) (message : Message) : Envelope :=
  let transactionId := Bytes.bigEndian 2 message.transactionId.toNat
  match message.body with
  | .request request =>
      ⟨transactionId, key "q", some (key request.method), some request.toArguments, none, none⟩
  | .response response =>
      ⟨transactionId, key "r", none, none, some (response.toArguments family), none⟩
  | .error code description =>
      ⟨transactionId, key "e", none, none, none,
        some [.int code, .bytes (Utf8.encode description)]⟩

/-- A message is read from a dictionary that spells it, whatever comes behind that. -/
theorem Krpc.Envelope.ofBytes?_encode_append {value : Value} {envelope : Envelope}
    (spells : Spells Part.fields Envelope.ofEntries value envelope) (trailing : Bytes) :
    Envelope.ofBytes? (value.encode ++ trailing) = some envelope := by
  obtain ⟨meanings, accepted, made⟩ := spells.exists_accepts
  change (Record.read Part.fields (Token.tokens (value.encode ++ trailing))).bind _ = _
  rw [Value.encode, Token.tokens_flatMap_encode_append, accepted]
  exact made

theorem Krpc.Envelope.ofBytes?_encode_of_spells {value : Value} {envelope : Envelope}
    (spells : Spells Part.fields Envelope.ofEntries value envelope) :
    Envelope.ofBytes? value.encode = some envelope := by
  have read := ofBytes?_encode_append spells []
  rwa [List.append_nil] at read

theorem Krpc.Part.accepts_bytes (value : Bytes) :
    Accepts (Part.reader Reader.bytes .bytes) (.bytes value) (.bytes value) :=
  (Reader.accepts_bytes value).map Part.bytes

theorem Krpc.Part.accepts_text (name : String) :
    Accepts (Part.reader Reader.text .bytes) (.bytes (key name)) (.bytes (key name)) :=
  (Reader.accepts_text (Utf8.isValid_encode name)).map Part.bytes

/-- A list of a number and a byte string is read as these. -/
theorem Krpc.Part.accepts_items (code : Int64) (description : Bytes) :
    Accepts (Part.reader (Reader.list Reader.item) .items) (.list [.int code, .bytes description])
      (.items [.int code, .bytes description]) := by
  let pairs : List (Value × Item) :=
    [(.int code, .int code), (.bytes description, .bytes description)]
  have accepted : ∀ pair ∈ pairs, Accepts Reader.item pair.1 pair.2 := by
    simp only [pairs, List.forall_mem_cons]
    exact ⟨accepts_item_int code, accepts_item_bytes description, by simp⟩
  exact (accepts_list Prod.fst Prod.snd pairs accepted).map Part.items

/-- The entries of every message besides what it says. -/
theorem Krpc.Part.entries_common (transactionId : UInt16) (type : String) :
    Entries Part.fields
      [(key "t", .bytes (Bytes.bigEndian 2 transactionId.toNat)),
        (key "v", .bytes Message.version), (key "y", .bytes (key type))]
      [(key "t", .bytes (Bytes.bigEndian 2 transactionId.toNat)),
        (key "v", .bytes Message.version), (key "y", .bytes (key type))] :=
  .field rfl rfl (Part.accepts_bytes _)
    (.field rfl rfl (Part.accepts_bytes _) (.field rfl rfl (Part.accepts_text type) .nil))

/-- A query is spelled with whatever its arguments are read from. -/
theorem Krpc.Envelope.spells_request (family : Family) (transactionId : UInt16)
    (request : Request) {value : Value} (accepted : Accepts Arguments.read value request.toArguments) :
    Spells Part.fields Envelope.ofEntries
      (.dict
        [(key "a", value), (key "q", .bytes (key request.method)),
          (key "t", .bytes (Bytes.bigEndian 2 transactionId.toNat)),
          (key "v", .bytes Message.version), (key "y", .bytes (key "q"))])
      (Message.toEnvelope family ⟨transactionId, .request request⟩) :=
  .dict
    (.field rfl rfl (accepted.map Part.arguments)
      (.field rfl rfl (Part.accepts_text request.method) (Part.entries_common transactionId "q")))
    rfl rfl

/-- A response is spelled with whatever its values are read from. -/
theorem Krpc.Envelope.spells_response (family : Family) (transactionId : UInt16)
    (response : Response) {value : Value}
    (accepted : Accepts Arguments.read value (response.toArguments family)) :
    Spells Part.fields Envelope.ofEntries
      (.dict
        [(key "r", value), (key "t", .bytes (Bytes.bigEndian 2 transactionId.toNat)),
          (key "v", .bytes Message.version), (key "y", .bytes (key "r"))])
      (Message.toEnvelope family ⟨transactionId, .response response⟩) :=
  .dict
    (.field rfl rfl (accepted.map Part.arguments) (Part.entries_common transactionId "r"))
    rfl rfl

/-- Whatever a message is, it is written as a dictionary that spells its record. -/
theorem Message.spells_toValue (family : Family) (message : Message) :
    Spells Part.fields Envelope.ofEntries (message.toValue family) (message.toEnvelope family) := by
  obtain ⟨transactionId, body⟩ := message
  cases body with
  | request request =>
    exact Envelope.spells_request family transactionId request
      (Arguments.accepts_of_spells request.spells_toValue)
  | response response =>
    exact Envelope.spells_response family transactionId response
      (Arguments.accepts_of_spells (response.spells_toValue family))
  | error code description =>
    exact .dict
      (.field rfl rfl (Part.accepts_items code (Utf8.encode description))
        (Part.entries_common transactionId "e")) rfl rfl

/-- Whatever a message is, its record is recovered from its bytes. -/
theorem Krpc.Envelope.ofBytes?_encode (family : Family) (message : Message) :
    Envelope.ofBytes? (message.encode family) = some (message.toEnvelope family) :=
  ofBytes?_encode_of_spells (message.spells_toValue family)

end Kademlia
