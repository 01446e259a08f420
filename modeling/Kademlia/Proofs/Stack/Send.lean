import Kademlia.Stack.Send

/-!
# What a stack sends

Sending empties the queue onto the network: the messages to addresses of the
stack's family go out in order, and whether queries are remembered makes no
difference to what goes out.
-/

namespace Kademlia

/-- A network to which datagrams were delivered, one after another, each to its
destination. -/
def Network.deliverAll (network : Network) (source : Address) (datagrams : List (Address × Bytes)) :
    Network :=
  datagrams.foldl (fun network (destination, bytes) => network.deliver source destination bytes)
    network

namespace Stack

variable {stack : Stack} {now : Nat} {network : Network}

/-- The datagrams that messages make, with where they go. -/
def datagrams (family : Family) (messages : List Outgoing) : List (Address × Bytes) :=
  (messages.filter (·.destination.family = family)).map fun outgoing =>
    (outgoing.destination, outgoing.message.encode family)

theorem datagrams_cons_of_family {family : Family} {outgoing : Outgoing}
    (ofFamily : outgoing.destination.family = family) (rest : List Outgoing) :
    datagrams family (outgoing :: rest) =
      (outgoing.destination, outgoing.message.encode family) :: datagrams family rest := by
  rw [datagrams, List.filter_cons_of_pos (by simpa using ofFamily)]
  rfl

theorem datagrams_cons_of_ne {family : Family} {outgoing : Outgoing}
    (foreign : outgoing.destination.family ≠ family) (rest : List Outgoing) :
    datagrams family (outgoing :: rest) = datagrams family rest := by
  rw [datagrams, List.filter_cons_of_neg (by simpa using foreign)]
  rfl

theorem datagrams_append (family : Family) (first second : List Outgoing) :
    datagrams family (first ++ second) = datagrams family first ++ datagrams family second := by
  simp [datagrams]

/-- What sending messages does to the network depends on the socket alone. -/
theorem sendEach_network (messages : List Outgoing) :
    (sendEach now messages network stack).2.1 =
      network.deliverAll stack.connection.localAddress (datagrams stack.family messages) := by
  induction messages generalizing network stack with
  | nil => rfl
  | cons outgoing messages ih =>
    by_cases ofFamily : outgoing.destination.family = stack.family
    · have sent : stack.connection.send network outgoing.destination
            (outgoing.message.encode stack.family) =
          (.ok (outgoing.message.encode stack.family).length,
            network.deliver stack.connection.localAddress outgoing.destination
              (outgoing.message.encode stack.family)) := if_pos ofFamily
      rw [datagrams_cons_of_family ofFamily, sendEach, sent]
      -- remembering a query leaves the socket as it is
      cases asked : queryOf now outgoing with
      | none => exact ih
      | some query =>
        dsimp only
        split
        · exact ih
        · exact ih
    · have refused : stack.connection.send network outgoing.destination
            (outgoing.message.encode stack.family) =
          (.error (.unsupportedAddress outgoing.destination), network) := if_neg ofFamily
      rw [datagrams_cons_of_ne ofFamily, sendEach, refused]
      exact ih

/-- What is no query is not remembered as one. -/
theorem queryOf_eq_none {outgoing : Outgoing} (now : Nat)
    (answers : ∀ asked, outgoing.message.body ≠ .request asked) : queryOf now outgoing = .none := by
  unfold queryOf
  split
  · rename_i asked body
    exact absurd body (answers asked)
  · rfl

/-- The queries among the messages that go out. -/
def requests (now : Nat) (family : Family) (messages : List Outgoing) : List Query :=
  (messages.filter (·.destination.family = family)).filterMap (queryOf now)

/-- Of the stack, sending messages changes what waits for an answer: if the tracker
can be reached, the queries that go out come last. -/
theorem sendEach_stack (messages : List Outgoing) (network : Network) (stack : Stack) :
    (sendEach now messages network stack).2.2 =
      { stack with
        inflight :=
          if stack.resolves .dispatcher .tracker then
            stack.inflight ++ requests now stack.family messages
          else stack.inflight } := by
  induction messages generalizing network stack with
  | nil => simp [sendEach, requests]
  | cons outgoing messages ih =>
    rw [sendEach, requests]
    by_cases ofFamily : outgoing.destination.family = stack.family
    · have sent : stack.connection.send network outgoing.destination
            (outgoing.message.encode stack.family) =
          (.ok (outgoing.message.encode stack.family).length,
            network.deliver stack.connection.localAddress outgoing.destination
              (outgoing.message.encode stack.family)) := if_pos ofFamily
      rw [sent, List.filter_cons_of_pos (by simpa using ofFamily)]
      cases asked : queryOf now outgoing with
      | none =>
        rw [List.filterMap_cons_none asked]
        exact ih _ _
      | some query =>
        rw [List.filterMap_cons_some asked]
        by_cases linked : stack.resolves .dispatcher .tracker = true
        · have others := ih
            (network.deliver stack.connection.localAddress outgoing.destination
              (outgoing.message.encode stack.family))
            { stack with inflight := Inflight.add stack.inflight query }
          have still : { stack with inflight := Inflight.add stack.inflight query }.resolves
              .dispatcher .tracker = true := linked
          rw [if_pos still, Inflight.add, List.append_assoc] at others
          dsimp only
          rw [if_pos linked, if_pos linked]
          exact others
        · have others := ih
            (network.deliver stack.connection.localAddress outgoing.destination
              (outgoing.message.encode stack.family)) stack
          rw [if_neg linked] at others
          dsimp only
          rw [if_neg linked, if_neg linked]
          exact others
    · have refused : stack.connection.send network outgoing.destination
            (outgoing.message.encode stack.family) =
          (.error (.unsupportedAddress outgoing.destination), network) := if_neg ofFamily
      rw [refused, List.filter_cons_of_neg (by simpa using ofFamily)]
      exact ih _ _

/-- What is queued goes out in order, as far as it is of the stack's family. -/
theorem sendAll_network (stack : Stack) (now : Nat) (network : Network) :
    (stack.sendAll now network).2.1 =
      network.deliverAll stack.connection.localAddress
        (datagrams stack.family stack.outbox.queue) :=
  sendEach_network stack.outbox.queue

/-- Sending empties the queue, and the queries in it wait for an answer. -/
theorem sendAll_stack (linked : stack.resolves .dispatcher .tracker = true) (now : Nat)
    (network : Network) :
    (stack.sendAll now network).2.2 =
      { stack with
        outbox := { stack.outbox with queue := [] }
        inflight := stack.inflight ++ requests now stack.family stack.outbox.queue } := by
  have still : { stack with outbox := { stack.outbox with queue := [] } }.resolves
      .dispatcher .tracker = true := linked
  rw [sendAll, sendEach_stack, if_pos still]
  rfl

end Stack

end Kademlia
