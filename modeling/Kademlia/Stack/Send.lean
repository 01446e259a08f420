import Kademlia.Krpc.Codec
import Kademlia.Stack.Basic

/-!
# Sending what is queued

Every queued message leaves the queue.  Those to addresses of the stack's family
go out, and of them the queries are remembered until they are answered.
-/

namespace Kademlia.Stack

/-- The query that a message makes once it is sent, if it is one. -/
def queryOf (now : Nat) (outgoing : Outgoing) : Option Query :=
  match outgoing.message.body with
  | .request asked =>
      some
        { transactionId := outgoing.message.transactionId
          destination := outgoing.destination
          remote := outgoing.remote
          method := asked.method
          sentAt := now
          timeout := outgoing.timeout }
  | _ => none

/-- Sends messages in order; says how many went out. -/
def sendEach (now : Nat) : List Outgoing → Network → Stack → Nat × Network × Stack
  | [], network, stack => (0, network, stack)
  | outgoing :: rest, network, stack =>
      let datagram := outgoing.message.encode stack.family
      match stack.connection.send network outgoing.destination datagram with
      | (.error _, network) => sendEach now rest network stack
      | (.ok _, network) =>
          let stack :=
            match queryOf now outgoing with
            | some query =>
                if stack.resolves .dispatcher .tracker then
                  { stack with inflight := Inflight.add stack.inflight query }
                else stack
            | none => stack
          let (count, network, stack) := sendEach now rest network stack
          (count + 1, network, stack)

/-- Sends what is queued; says how many messages went out. -/
def sendAll (stack : Stack) (now : Nat) (network : Network) : Nat × Network × Stack :=
  sendEach now stack.outbox.queue network
    { stack with outbox := { stack.outbox with queue := [] } }

end Kademlia.Stack
