import Kademlia.Proofs.Krpc.TransactionId
import Kademlia.Proofs.Stack.Nodes
import Kademlia.Proofs.Stack.Send
import Kademlia.Proofs.Stack.Wiring
import Kademlia.Stack.Receive

/-!
# Queries are replied to

A stack that is fully wired replies to every query that it receives: one message
goes to where the query came from.  Its transaction id is always written as two
octets, so a query whose own has only one does not get it back as it was.
-/

namespace Kademlia

open Bencode Krpc

/-- A datagram as it is read into a buffer, which cuts it off. -/
def Datagram.cut (size : Nat) (datagram : Datagram) : Datagram :=
  { datagram with bytes := datagram.bytes.take size }

theorem Datagram.cut_eq_self {size : Nat} {datagram : Datagram}
    (fits : datagram.bytes.length ≤ size) : datagram.cut size = datagram := by
  rw [cut, List.take_of_length_le fits]

namespace Connection

variable {connection : Connection} {network : Network} {size handles : Nat} {datagram : Datagram}
  {waiting : List Datagram}

/-- What waits at a socket is read in its order. -/
theorem receive_cut
    (found : network.channel? connection.localAddress = some ⟨handles, datagram :: waiting⟩) :
    connection.receive network size =
      (.ok (some (datagram.cut size)),
        network.modify connection.localAddress fun channel => { channel with waiting }) := by
  rw [receive, Network.receive, found]
  rfl

/-- What waits at a socket is read whole if it fits. -/
theorem receive_of_waiting
    (found : network.channel? connection.localAddress = some ⟨handles, datagram :: waiting⟩)
    (fits : datagram.bytes.length ≤ size) :
    connection.receive network size =
      (.ok (some datagram),
        network.modify connection.localAddress fun channel => { channel with waiting }) := by
  rw [receive_cut found, Datagram.cut_eq_self fits]

theorem receive_of_nothing
    (found : network.channel? connection.localAddress = some ⟨handles, []⟩) :
    connection.receive network size = (.ok none, network) := by
  rw [receive, Network.receive, found]

end Connection

namespace Stack

variable {stack : Stack} {now : Nat} {network rest : Network} {datagram : Datagram}
  {transactionId : UInt16} {asked : Request}

/-! ## Answering -/

/-- What a stack that finds all its parts answers to a query, and the announces
that it has then. -/
def reply (stack : Stack) (now : Nat) (source : Address) : Request → Body × AnnounceStore
  | .ping _ => (.response (.ping stack.localNode.id), stack.announces)
  | .findNode _ target =>
      (.response (.findNode stack.localNode.id (stack.table.closest target)), stack.announces)
  | .getPeers _ infoHash =>
      (.response
        (.getPeers stack.localNode.id (stack.secrets.generate infoHash source)
          (stack.table.closest infoHash) (stack.announces.get infoHash).1),
        (stack.announces.get infoHash).2)
  | .announcePeer _ infoHash port impliedPort token =>
      if stack.secrets.accepts infoHash source token then
        (.response (.ping stack.localNode.id),
          stack.announces.add now infoHash (announcedPeer source port impliedPort))
      else (.error 203 "Bad token", stack.announces)

/-- A reply is no query. -/
theorem reply_ne_request (stack : Stack) (now : Nat) (source : Address) (asked other : Request) :
    (stack.reply now source asked).1 ≠ .request other := by
  cases asked with
  | ping requester => exact nofun
  | findNode requester target => exact nofun
  | getPeers requester infoHash => exact nofun
  | announcePeer requester infoHash port impliedPort token =>
    dsimp only [reply]
    split
    · exact nofun
    · exact nofun

/-- Every query has an answer, and finding it changes nothing but the announces. -/
theorem FullyWired.answer_eq (wired : stack.FullyWired) (now : Nat) (asked : Request)
    (source : Address) :
    stack.answer now asked source =
      .ok ((stack.reply now source asked).1,
        { stack with announces := (stack.reply now source asked).2 }) := by
  have localNode : stack.require .factory .localNode = .ok () := wired.require (by decide)
  have table : stack.require .factory .table = .ok () := wired.require (by decide)
  have tokens : stack.require .factory .tokens = .ok () := wired.require (by decide)
  have announces : stack.require .factory .announces = .ok () := wired.require (by decide)
  cases asked with
  | ping requester => simp [answer, reply, localNode]
  | findNode requester target => simp [answer, reply, localNode, table]
  | getPeers requester infoHash => simp [answer, reply, localNode, table, tokens, announces]
  | announcePeer requester infoHash port impliedPort token =>
    by_cases accepted : stack.secrets.accepts infoHash source token = true
    · simp [answer, reply, localNode, tokens, announces, accepted]
    · simp [answer, reply, localNode, tokens, accepted]

/-- A stack with the reply to a query queued. -/
def replied (stack : Stack) (now : Nat) (transactionId : UInt16) (asked : Request)
    (source : Address) : Stack :=
  { stack with
    announces := (stack.reply now source asked).2
    outbox := stack.outbox.add ⟨transactionId, (stack.reply now source asked).1⟩ source none }

/-- A query is replied to under its own number, at the address it came from. -/
theorem FullyWired.handleRequest_eq (wired : stack.FullyWired) (now : Nat) (asked : Request)
    (transactionId : UInt16) (source : Address) :
    stack.handleRequest now asked transactionId source =
      (.ok (), stack.replied now transactionId asked source) := by
  have dispatcher :
      { stack with announces := (stack.reply now source asked).2 }.require .factory .dispatcher =
        .ok () := wired.require (by decide)
  rw [handleRequest, wired.answer_eq]
  dsimp only
  rw [dispatcher]
  rfl

/-! ## Receiving -/

/-- A datagram that holds a query, from where it can be replied to. -/
structure HoldsQuery (family : Family) (datagram : Datagram) (transactionId : UInt16)
    (asked : Request) : Prop where
  origin : datagram.source.port ≠ 0
  head : datagram.bytes.head? = some 0x64
  decoded : Message.decode family datagram.bytes = .ok ⟨transactionId, .request asked⟩

/-- A query that is accepted is replied to, and its author goes into the table. -/
theorem FullyWired.accept_request (wired : stack.FullyWired) (now : Nat) (transactionId : UInt16)
    (asked : Request) (source : Address) :
    stack.accept now ⟨transactionId, .request asked⟩ source =
      (.ok (.message ⟨transactionId, .request asked⟩ source),
        ((stack.replied now transactionId asked source).addNode now
          ⟨asked.requester, source⟩).2) := by
  have table : (stack.replied now transactionId asked source).require .receiver .table = .ok () :=
    wired.require (by decide)
  dsimp only [accept]
  rw [wired.handleRequest_eq]
  dsimp only [noteAuthor, Body.author]
  rw [table]

/-- A datagram that a message is decoded from is handled by accepting that. -/
theorem FullyWired.handle_of_decoded {message : Message} (wired : stack.FullyWired) (now : Nat)
    (port : datagram.source.port ≠ 0) (head : datagram.bytes.head? = some 0x64)
    (decoded : Message.decode stack.family datagram.bytes = .ok message) :
    stack.handle now datagram = stack.accept now message datagram.source := by
  have factory : stack.require .receiver .factory = .ok () := wired.require (by decide)
  rw [handle, if_neg port, if_neg fun other => other head, factory]
  dsimp only
  rw [decoded]

/-- A datagram that holds a query is accepted as one. -/
theorem FullyWired.handle_request (wired : stack.FullyWired)
    (holds : HoldsQuery stack.family datagram transactionId asked) :
    stack.handle now datagram =
      (.ok (.message ⟨transactionId, .request asked⟩ datagram.source),
        ((stack.replied now transactionId asked datagram.source).addNode now
          ⟨asked.requester, datagram.source⟩).2) := by
  rw [wired.handle_of_decoded now holds.origin holds.head holds.decoded]
  exact wired.accept_request now transactionId asked datagram.source

/-- What is read from the socket is handled. -/
theorem receive_of_read (linked : stack.require .receiver .connection = .ok ()) (now : Nat)
    (read : stack.connection.receive network mtu = (.ok (some datagram), rest)) :
    stack.receive now network =
      ((stack.handle now datagram).1, rest, (stack.handle now datagram).2) := by
  rw [receive, linked]
  dsimp only
  rw [read]

theorem FullyWired.receive_eq (wired : stack.FullyWired) (now : Nat)
    (read : stack.connection.receive network mtu = (.ok (some datagram), rest)) :
    stack.receive now network =
      ((stack.handle now datagram).1, rest, (stack.handle now datagram).2) :=
  receive_of_read (wired.require (by decide)) now read

/-- Once a query was received, its reply is sent after all that was to be sent before. -/
theorem sendAll_network_of_replied {after : Stack} {destination : Address} {body : Body}
    (connection : after.connection = stack.connection)
    (queued : after.outbox = stack.outbox.add ⟨transactionId, body⟩ destination none)
    (ofFamily : destination.family = stack.family) (later : Nat) (network : Network) :
    (after.sendAll later network).2.1 =
      (stack.sendAll later network).2.1.deliver stack.connection.localAddress destination
        (Message.encode stack.family ⟨transactionId, body⟩) := by
  have sameFamily : after.family = stack.family := congrArg Connection.family connection
  rw [sendAll_network, sendAll_network, connection, queued, sameFamily, Outbox.add,
    Outbox.addWithTimeout, datagrams_append, datagrams_cons_of_family ofFamily,
    Network.deliverAll, List.foldl_append]
  rfl

/-- A query that is received is replied to under its number. -/
theorem FullyWired.exists_reply (wired : stack.FullyWired) (now : Nat)
    (read : stack.connection.receive network mtu = (.ok (some datagram), rest))
    (ofFamily : datagram.source.family = stack.family)
    (holds : HoldsQuery stack.family datagram transactionId asked) :
    ∃ body after,
      stack.receive now network =
        (.ok (.message ⟨transactionId, .request asked⟩ datagram.source), rest, after) ∧
      ∀ later network, (after.sendAll later network).2.1 =
        (stack.sendAll later network).2.1.deliver stack.connection.localAddress datagram.source
          (Message.encode stack.family ⟨transactionId, body⟩) := by
  obtain ⟨tasks, added⟩ := (stack.replied now transactionId asked datagram.source).addNode_frame
    now ⟨asked.requester, datagram.source⟩
  have received := wired.receive_eq now read
  rw [wired.handle_request holds] at received
  refine ⟨(stack.reply now datagram.source asked).1, _, received, ?_⟩
  intro later network
  exact sendAll_network_of_replied (by rw [added]; rfl) (by rw [added]; rfl) ofFamily later network

/-! ## Transaction ids -/

/-- Every query that is received is replied to, and the reply carries the
transaction id of the query as two octets: the one that the query carries if that
has two octets, and another one if it has only one. -/
theorem reply_transactionId_eq_iff (wired : stack.FullyWired) (now : Nat)
    (read : stack.connection.receive network mtu = (.ok (some datagram), rest))
    (ofFamily : datagram.source.family = stack.family)
    (holds : HoldsQuery stack.family datagram transactionId asked) :
    ∃ given reply after,
      transactionIdOf datagram.bytes = some given ∧ (given.length = 1 ∨ given.length = 2) ∧
      stack.receive now network =
        (.ok (.message ⟨transactionId, .request asked⟩ datagram.source), rest, after) ∧
      (∀ later network, (after.sendAll later network).2.1 =
        (stack.sendAll later network).2.1.deliver stack.connection.localAddress datagram.source
          reply) ∧
      transactionIdOf reply = some (List.replicate (2 - given.length) 0 ++ given) ∧
      (transactionIdOf reply = transactionIdOf datagram.bytes ↔ given.length = 2) := by
  obtain ⟨given, carried, number⟩ := exists_transactionIdOf holds.decoded
  obtain ⟨length, written⟩ := bigEndian_of_readTransactionId number
  obtain ⟨body, after, received, sent⟩ := wired.exists_reply now read ofFamily holds
  have replyId := transactionIdOf_encode stack.family ⟨transactionId, body⟩
  rw [written] at replyId
  refine ⟨given, _, after, carried, length, received, sent, replyId, ?_⟩
  rw [replyId, carried, Option.some.injEq]
  rcases length with one | two
  · rw [one]
    constructor
    · intro same
      have longer := congrArg List.length same
      simp [one] at longer
    · intro two
      cases two
  · rw [two]
    constructor
    · intro _
      rfl
    · intro _
      rfl

/-- A ping under a transaction id of two octets. -/
theorem reply_transactionId_two_octets :
    let home : Address := ⟨.v4 (.zero 4), 6881⟩
    let peer : Address := ⟨.v4 (.zero 4), 7000⟩
    let stack := assembled ⟨⟨.zero 20⟩, 6881⟩ ⟨.ipv4, home⟩ 1000 0 ⟨1⟩
    let datagram : Datagram := ⟨queryUnder [0x61, 0x62] (.ping ⟨.zero 20⟩), peer⟩
    let network : Network := ⟨[(home, ⟨1, [datagram]⟩), (peer, ⟨1, []⟩)], [], false, 0⟩
    stack.FullyWired ∧ HoldsQuery stack.family datagram 0x6162 (.ping ⟨.zero 20⟩) ∧
      ∃ reply,
        (((stack.receive 0 network).2.2.sendAll 0 network).2.1.take peer).1 = [⟨reply, home⟩] ∧
        transactionIdOf reply = transactionIdOf datagram.bytes := by
  intro home peer stack datagram network
  have wired : stack.FullyWired := fullyWired_assembled _ _ _ _ _
  have fits : datagram.bytes.length ≤ mtu := by decide +kernel
  have waits : network.channel? stack.connection.localAddress = some ⟨1, [datagram]⟩ := rfl
  have read := Connection.receive_of_waiting waits fits
  have holds : HoldsQuery stack.family datagram 0x6162 (.ping ⟨.zero 20⟩) :=
    ⟨by decide, rfl, decode_queryUnder rfl stack.family _⟩
  obtain ⟨given, reply, after, carried, length, received, sent, -, echoed⟩ :=
    reply_transactionId_eq_iff wired 0 read rfl holds
  have two : given = [0x61, 0x62] := by
    rw [transactionIdOf, ofBytes?_queryUnder] at carried
    exact (Option.some.inj carried).symm
  refine ⟨wired, holds, reply, ?_, echoed.2 (by rw [two]; rfl)⟩
  rw [received, sent 0 network]
  rfl

/-- A ping under a transaction id of one octet is replied to under another one. -/
theorem reply_transactionId_ne_one_octet :
    let home : Address := ⟨.v4 (.zero 4), 6881⟩
    let peer : Address := ⟨.v4 (.zero 4), 7000⟩
    let stack := assembled ⟨⟨.zero 20⟩, 6881⟩ ⟨.ipv4, home⟩ 1000 0 ⟨1⟩
    let datagram : Datagram := ⟨queryUnder [0x61] (.ping ⟨.zero 20⟩), peer⟩
    let network : Network := ⟨[(home, ⟨1, [datagram]⟩), (peer, ⟨1, []⟩)], [], false, 0⟩
    stack.FullyWired ∧ HoldsQuery stack.family datagram 0x61 (.ping ⟨.zero 20⟩) ∧
      transactionIdOf datagram.bytes = some [0x61] ∧
      ∃ reply,
        (((stack.receive 0 network).2.2.sendAll 0 network).2.1.take peer).1 = [⟨reply, home⟩] ∧
        transactionIdOf reply = some [0x00, 0x61] := by
  intro home peer stack datagram network
  have wired : stack.FullyWired := fullyWired_assembled _ _ _ _ _
  have fits : datagram.bytes.length ≤ mtu := by decide +kernel
  have waits : network.channel? stack.connection.localAddress = some ⟨1, [datagram]⟩ := rfl
  have read := Connection.receive_of_waiting waits fits
  have holds : HoldsQuery stack.family datagram 0x61 (.ping ⟨.zero 20⟩) :=
    ⟨by decide, rfl, decode_queryUnder rfl stack.family _⟩
  have carried : transactionIdOf datagram.bytes = some [0x61] := by
    rw [transactionIdOf, ofBytes?_queryUnder]
    rfl
  obtain ⟨body, after, received, sent⟩ := wired.exists_reply 0 read rfl holds
  refine ⟨wired, holds, carried, Message.encode stack.family ⟨0x61, body⟩, ?_, ?_⟩
  · rw [received, sent 0 network]
    rfl
  · have number : readTransactionId [0x61] = .ok 0x61 := rfl
    rw [transactionIdOf_encode, (bigEndian_of_readTransactionId number).2]
    rfl

end Stack

end Kademlia
