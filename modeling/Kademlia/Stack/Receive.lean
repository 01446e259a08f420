import Kademlia.Stack.Answer

/-!
# Receiving datagrams

A datagram that begins like a dictionary is taken for a message.  A query is
answered; a response or an error counts only if it answers a query that waits.
The author of what is accepted goes into the routing table.
-/

namespace Kademlia

/-- What became of an attempt to receive a datagram. -/
inductive Received
  | nothing
  | message (message : Message) (source : Address)
  | foreign (bytes : Bytes) (source : Address)
  | ignored
deriving DecidableEq

namespace Stack

/-- Adds the author of a message that was accepted to the table. -/
def noteAuthor (stack : Stack) (now : Nat) (message : Message) (source : Address) :
    Except Error Received × Stack :=
  match message.body.author with
  | none => (.ok (.message message source), stack)
  | some id =>
      match stack.require .receiver .table with
      | .error error => (.error error, stack)
      | .ok _ => (.ok (.message message source), (stack.addNode now ⟨id, source⟩).2)

/-- Answers a query, or matches a message with the query that it answers. -/
def accept (stack : Stack) (now : Nat) (message : Message) (source : Address) :
    Except Error Received × Stack :=
  match message.body with
  | .request asked =>
      (stack.handleRequest now asked message.transactionId source).2.noteAuthor now message source
  | _ =>
      match stack.require .receiver .tracker with
      | .error error => (.error error, stack)
      | .ok _ =>
          match Inflight.answer message.transactionId source stack.inflight with
          | none => (.ok .ignored, stack)
          | some (_, inflight) => { stack with inflight }.noteAuthor now message source

/-- Handles a datagram that was read. -/
def handle (stack : Stack) (now : Nat) (datagram : Datagram) : Except Error Received × Stack :=
  if datagram.source.port = 0 then (.ok .ignored, stack)
  else if datagram.bytes.head? ≠ some 0x64 then
    (.ok (.foreign datagram.bytes datagram.source), stack)
  else
    match stack.require .receiver .factory with
    | .error error => (.error error, stack)
    | .ok _ =>
        match Message.decode stack.family datagram.bytes with
        | .error _ => (.ok .ignored, stack)
        | .ok message => stack.accept now message datagram.source

/-- Reads the next datagram from the socket and handles it. -/
def receive (stack : Stack) (now : Nat) (network : Network) :
    Except Error Received × Network × Stack :=
  match stack.require .receiver .connection with
  | .error error => (.error error, network, stack)
  | .ok _ =>
      match stack.connection.receive network mtu with
      | (.error error, network) => (.error error, network, stack)
      | (.ok none, network) => (.ok .nothing, network, stack)
      | (.ok (some datagram), network) =>
          let (outcome, stack) := stack.handle now datagram
          (outcome, network, stack)

end Stack

end Kademlia
