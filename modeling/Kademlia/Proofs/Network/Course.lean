import Kademlia.Proofs.Network.Candidates
import Kademlia.Proofs.Network.Handles
import Kademlia.Proofs.Stack.Reply
import Mathlib.Data.List.Forall2
import Mathlib.Data.List.Infix
import Mathlib.Tactic.FinCases

/-!
# All that happens on a network

Sockets are bound, cloned and closed, addresses are occupied, and datagrams are delivered, sent
and read, in any order.  An address has a handle for each socket that is open on it and for
each time that it was occupied, and is bound as long as that is any.  While it is, what is
delivered there is read in order, each datagram once.
-/

namespace Kademlia

/-- What happens on a network.  Nothing tells apart two sockets that are open on one address,
so a socket is named by its own. -/
inductive NetworkEvent
  | bind (address : Address)
  | occupy (address : Address)
  | refuse (refuses : Bool)
  | clone (address : Address)
  | close (address : Address)
  | deliver (source destination : Address) (bytes : Bytes)
  | send (address destination : Address) (bytes : Bytes)
  | receive (address : Address) (size : Nat)
  | take (address : Address)

/-- Whether an event is about datagrams, and not about who holds which address. -/
def NetworkEvent.carries : NetworkEvent → Bool
  | .deliver _ _ _ | .send _ _ _ | .receive _ _ | .take _ => true
  | _ => false

/-- A network with the addresses of the sockets that are open on it, clones among them, and
those that were occupied, each as often as there is one. -/
structure NetworkCourse where
  network : Network
  sockets : List Address
  occupied : List Address

/-- What a reader is given, and how many octets its buffer has room for, if it has one. -/
structure Reading where
  room : Option Nat
  given : Datagram

/-- A reader is given a datagram as it is, but for what its buffer cuts off. -/
def Reading.Of (reading : Reading) (datagram : Datagram) : Prop :=
  reading.given = match reading.room with
    | some size => datagram.cut size
    | none => datagram

namespace Network

variable {network : Network} {address other : Address}

/-! ## What waits at an address -/

/-- What waits at an address, if that is bound. -/
def waiting (network : Network) (address : Address) : List Datagram :=
  ((network.channel? address).map Channel.waiting).getD []

theorem waiting_of_unbound (unbound : network.isBound address = false) :
    network.waiting address = [] := by
  rw [isBound, Option.isSome_eq_false_iff, Option.isNone_iff_eq_none] at unbound
  rw [waiting, unbound]
  rfl

theorem waiting_congr {before after : Network} (same : after.channels = before.channels)
    (address : Address) : after.waiting address = before.waiting address := by
  rw [waiting, waiting, channel?, channel?, same]

/-- A further handle changes nothing about what waits, and a socket that was just bound finds
nothing. -/
theorem waiting_acquire (network : Network) (address other : Address) :
    (network.acquire address).waiting other = network.waiting other := by
  rw [waiting, channel?_acquire, waiting]
  split
  · cases network.channel? other with
    | none => rfl
    | some channel => rfl
  · rfl

/-- A handle that is closed changes nothing about what waits, unless it is the last one. -/
theorem waiting_release (bound : (network.release address).isBound other = true) :
    (network.release address).waiting other = network.waiting other := by
  rw [isBound, channel?_release] at bound
  rw [waiting, channel?_release, waiting]
  split
  · rename_i here
    rw [if_pos here] at bound
    cases found : network.channel? other with
    | none => rfl
    | some channel =>
      rw [found, Option.map_some, Option.filter_some] at bound
      rw [Option.map_some, Option.filter_some]
      split
      · rfl
      · rename_i last
        rw [if_neg last] at bound
        cases bound
  · rfl

theorem waiting_modify (bound : network.isBound other = true) (change : Channel → Channel)
    (becomes : List Datagram → List Datagram)
    (changes : ∀ channel, (change channel).waiting = becomes channel.waiting) :
    (network.modify address change).waiting other =
      if other = address then becomes (network.waiting other) else network.waiting other := by
  obtain ⟨channel, found⟩ := Option.isSome_iff_exists.1 bound
  rw [waiting, channel?_modify, waiting]
  split
  · rw [found]
    exact changes channel
  · rfl

theorem waiting_deliver (bound : network.isBound other = true) (source destination : Address)
    (bytes : Bytes) :
    (network.deliver source destination bytes).waiting other =
      network.waiting other ++ if destination = other then [⟨bytes, source⟩] else [] := by
  rw [deliver, waiting_modify bound _ (· ++ [⟨bytes, source⟩]) fun _ => rfl]
  by_cases here : other = destination
  · rw [if_pos here, if_pos here.symm]
  · rw [if_neg here, if_neg (Ne.symm here), List.append_nil]

/-- Nothing is bound by a change to an address that is not. -/
theorem modify_of_unbound (unbound : network.isBound address = false)
    (change : Channel → Channel) : network.modify address change = network := by
  have absent : ∀ entry ∈ network.channels, entry.1 ≠ address := by
    rintro ⟨bound, channel⟩ mem rfl
    rw [isBound_iff.2 ⟨channel, mem⟩] at unbound
    cases unbound
  refine congrArg (fun channels => { network with channels }) ?_
  refine (List.map_congr_left fun entry mem => ?_).trans (List.map_id _)
  dsimp only
  rw [if_neg (absent entry mem)]
  rfl

theorem traffic_take (network : Network) (address : Address) :
    Traffic network (network.take address).2 := by
  change Traffic network (network.modify address fun channel => { channel with waiting := [] })
  exact network.traffic_modify address fun _ => rfl

/-- Datagrams alone bind no address, and nothing waits at one that is not bound. -/
theorem waiting_of_traffic {after : Network} (unbound : network.isBound address = false)
    (traffic : Traffic network after) : after.waiting address = [] := by
  apply waiting_of_unbound
  rw [isBound, ← Option.isSome_map, ← lookup_sockets] at unbound ⊢
  rw [traffic.sockets]
  exact unbound

/-- What is read is the first that waits, as far as there is room for it. -/
theorem receive_of_bound (bound : network.isBound address = true) (size : Nat) :
    network.receive address size =
      match network.waiting address with
      | [] => (.error (.system .wouldBlock), network)
      | datagram :: rest =>
          (.ok (datagram.cut size),
            network.modify address fun channel => { channel with waiting := rest }) := by
  obtain ⟨⟨handles, waiting⟩, found⟩ := Option.isSome_iff_exists.1 bound
  rw [receive, Network.waiting, found]
  cases waiting with
  | nil => rfl
  | cons datagram rest => rfl

theorem waiting_clone {after : Network} (cloned : network.clone address = .ok after)
    (other : Address) : after.waiting other = network.waiting other := by
  unfold clone at cloned
  split at cloned
  · cases cloned
  · split at cloned
    · cases cloned
      exact network.waiting_acquire address other
    · cases cloned
      rfl

theorem waiting_receive_of_ne (different : other ≠ address) (size : Nat) :
    (network.receive address size).2.waiting other = network.waiting other := by
  unfold receive
  split
  · rfl
  · split
    · rfl
    · rw [waiting, channel?_modify, if_neg different, waiting]

/-- A socket that asks for no port gets the next ephemeral one. -/
theorem port_resolve_of_zero (small : network.ephemeral < ephemeralPorts)
    (portless : address.port = 0) :
    (network.resolve address).1.port.toNat = firstEphemeral + network.ephemeral := by
  rw [ephemeralPorts] at small
  rw [resolve, if_pos portless, firstEphemeral]
  dsimp only
  rw [UInt16.toNat_ofNat', Nat.mod_eq_of_lt (by omega)]

/-- A socket that is bound is on a port that was free in its family. -/
theorem of_bind_eq_ok {bound : Address} {after : Network}
    (binds : network.bind address = (.ok bound, after)) :
    network.inUse bound = false ∧ bound = (network.resolve address).1 ∧
      ∃ tried, Tried network tried ∧ after = tried.acquire bound := by
  cases used : network.inUse (network.resolve address).1 with
  | true =>
    obtain ⟨failed, fails, -⟩ := bind_of_inUse used
    rw [binds] at fails
    cases fails
  | false =>
    obtain ⟨tried, succeeds, failed⟩ := bind_of_not_inUse used
    rw [binds] at succeeds
    cases succeeds
    exact ⟨used, rfl, tried, failed, rfl⟩

theorem tried_of_bind_eq_error {error : Error} {after : Network}
    (fails : network.bind address = (.error error, after)) : Tried network after := by
  cases used : network.inUse (network.resolve address).1 with
  | true =>
    obtain ⟨failed, same, tried, -⟩ := bind_of_inUse used
    rw [fails] at same
    cases same
    exact tried
  | false =>
    obtain ⟨tried, succeeds, -⟩ := bind_of_not_inUse used
    rw [fails] at succeeds
    cases succeeds

end Network

namespace NetworkCourse

open Network

variable {course : NetworkCourse} {event : NetworkEvent} {home : Address}

/-- Nothing has happened yet. -/
def start : NetworkCourse :=
  ⟨.empty, [], []⟩

/-- What comes of an event.  Only a socket that is open is cloned, closed, sent from or read
from. -/
def step (course : NetworkCourse) : NetworkEvent → NetworkCourse
  | .bind address =>
      match course.network.bind address with
      | (.ok bound, network) => { course with network, sockets := bound :: course.sockets }
      | (.error _, network) => { course with network }
  | .occupy address =>
      { course with
        network := course.network.acquire address
        occupied := address :: course.occupied }
  | .refuse refuses => { course with network := { course.network with refusesClones := refuses } }
  | .clone address =>
      if address ∈ course.sockets then
        match course.network.clone address with
        | .ok network => { course with network, sockets := address :: course.sockets }
        | .error _ => course
      else course
  | .close address =>
      if address ∈ course.sockets then
        { course with
          network := course.network.release address
          sockets := course.sockets.erase address }
      else course
  | .deliver source destination bytes =>
      { course with network := course.network.deliver source destination bytes }
  | .send address destination bytes =>
      if address ∈ course.sockets then
        { course with network := course.network.deliver address destination bytes }
      else course
  | .receive address size =>
      if address ∈ course.sockets then
        { course with network := (course.network.receive address size).2 }
      else course
  | .take address => { course with network := (course.network.take address).2 }

/-- What comes of some events in order. -/
def run (course : NetworkCourse) (events : List NetworkEvent) : NetworkCourse :=
  events.foldl step course

/-- An event that is about datagrams opens no socket and closes none. -/
theorem exists_step_of_carries (course : NetworkCourse) (carries : event.carries = true) :
    ∃ network, Traffic course.network network ∧ course.step event = { course with network } := by
  cases event with
  | deliver source destination bytes =>
    exact ⟨_, course.network.traffic_deliver source destination bytes, rfl⟩
  | send address destination bytes =>
    unfold step
    dsimp only
    split
    · exact ⟨_, course.network.traffic_deliver address destination bytes, rfl⟩
    · exact ⟨_, .refl course.network, rfl⟩
  | receive address size =>
    unfold step
    dsimp only
    split
    · exact ⟨_, course.network.traffic_receive address size, rfl⟩
    · exact ⟨_, .refl course.network, rfl⟩
  | take address => exact ⟨_, course.network.traffic_take address, rfl⟩
  | _ => cases carries

/-- Any other event leaves what waits at an address, as long as that is bound. -/
theorem waiting_step (carries : event.carries = false)
    (still : (course.step event).network.isBound home = true) :
    (course.step event).network.waiting home = course.network.waiting home := by
  cases event with
  | bind address =>
    unfold step
    dsimp only
    split
    · rename_i chosen after binds
      obtain ⟨-, -, tried, failed, rfl⟩ := of_bind_eq_ok binds
      exact (waiting_acquire tried chosen home).trans (waiting_congr failed.channels home)
    · rename_i fails
      exact waiting_congr (tried_of_bind_eq_error fails).channels home
  | occupy address => exact course.network.waiting_acquire address home
  | refuse refuses => rfl
  | clone address =>
    unfold step
    dsimp only
    split
    · split
      · rename_i cloned
        exact waiting_clone cloned home
      · rfl
    · rfl
  | close address =>
    unfold step at still ⊢
    dsimp only at still ⊢
    split at still
    · rename_i mem
      rw [if_pos mem]
      exact waiting_release still
    · rename_i absent
      rw [if_neg absent]
  | _ => cases carries

/-! ## Keeping count -/

/-- How many sockets are open on an address, and how often it was occupied. -/
def holders (course : NetworkCourse) (address : Address) : Nat :=
  course.sockets.count address + course.occupied.count address

/-- A network on which every handle belongs to a socket or to whoever occupied the address. -/
structure Accounted (course : NetworkCourse) : Prop where
  held : course.network.Held
  handles : ∀ address, course.network.handles address = course.holders address
  ephemeral : course.network.ephemeral < ephemeralPorts

theorem accounted_start : start.Accounted :=
  ⟨held_empty, fun _ => rfl, by decide⟩

namespace Accounted

variable (accounted : course.Accounted)

include accounted

theorem isBound_iff (address : Address) :
    course.network.isBound address = true ↔ 0 < course.holders address := by
  rw [accounted.held.isBound_iff, accounted.handles]

theorem isBound_of_mem {address : Address} (mem : address ∈ course.sockets) :
    course.network.isBound address = true :=
  (accounted.isBound_iff address).2 (Nat.add_pos_left (List.count_pos_iff.2 mem) _)

/-- Datagrams that come and go change no handles. -/
theorem carry (carries : event.carries = true) : (course.step event).Accounted := by
  obtain ⟨network, traffic, came⟩ := course.exists_step_of_carries carries
  rw [came]
  exact ⟨held_congr traffic.sockets accounted.held,
    fun address => (handles_congr traffic.sockets address).trans (accounted.handles address),
    traffic.ephemeral ▸ accounted.ephemeral⟩

/-- Attempts to bind that fail change no handles. -/
theorem of_tried {network : Network} (tried : Tried course.network network) :
    Accounted { course with network } :=
  ⟨held_congr tried.sockets accounted.held,
    fun address => (handles_congr tried.sockets address).trans (accounted.handles address),
    tried.ephemeral accounted.ephemeral⟩

/-- A further handle is accounted for by one more holder. -/
theorem acquire {after : NetworkCourse} {address : Address}
    (network : after.network = course.network.acquire address)
    (holders : ∀ other, after.holders other = course.holders other + [address].count other) :
    after.Accounted := by
  refine ⟨network ▸ accounted.held.acquire address, fun other => ?_, ?_⟩
  · rw [network, handles_acquire_eq_add, accounted.handles, holders]
  · rw [network, ephemeral_acquire]
    exact accounted.ephemeral

theorem open_socket (address : Address) :
    Accounted
      { course with
        network := course.network.acquire address
        sockets := address :: course.sockets } := by
  refine accounted.acquire rfl fun other => ?_
  rw [holders, holders, List.count_cons, List.count_singleton]
  exact Nat.add_right_comm _ _ _

theorem occupy (address : Address) : (course.step (.occupy address)).Accounted := by
  refine accounted.acquire rfl fun other => ?_
  rw [holders, holders, NetworkCourse.step, List.count_cons, List.count_singleton]
  exact (Nat.add_assoc _ _ _).symm

theorem close {address : Address} (mem : address ∈ course.sockets) :
    Accounted
      { course with
        network := course.network.release address
        sockets := course.sockets.erase address } := by
  refine ⟨accounted.held.release address, fun other => ?_, ?_⟩
  · have before := accounted.handles other
    have counted := List.count_pos_iff.2 mem
    rw [holders] at before ⊢
    dsimp only
    rw [handles_release, before]
    by_cases here : other = address
    · rw [here, if_pos rfl, List.count_erase_self]
      omega
    · rw [if_neg here, List.count_erase_of_ne here]
  · rw [ephemeral_release]
    exact accounted.ephemeral

/-- The next ephemeral port is a port. -/
theorem ephemeral_lt : firstEphemeral + course.network.ephemeral < UInt16.size := by
  have small := accounted.ephemeral
  rw [ephemeralPorts] at small
  rw [firstEphemeral, UInt16.size]
  omega

theorem handles_close {address : Address} (mem : address ∈ course.sockets) :
    (course.step (.close address)).network.handles address + 1 =
      course.network.handles address := by
  have counted := List.count_pos_iff.2 mem
  have before := accounted.handles address
  rw [holders] at before
  unfold NetworkCourse.step
  dsimp only
  rw [if_pos mem]
  dsimp only
  rw [handles_release, if_pos rfl]
  omega

theorem step (event : NetworkEvent) : (course.step event).Accounted := by
  cases event with
  | bind address =>
    unfold NetworkCourse.step
    dsimp only
    split
    · rename_i bound after binds
      obtain ⟨-, -, tried, failed, rfl⟩ := of_bind_eq_ok binds
      exact (accounted.of_tried failed).open_socket bound
    · rename_i error after fails
      exact accounted.of_tried (tried_of_bind_eq_error fails)
  | occupy address => exact accounted.occupy address
  | refuse refuses => exact ⟨accounted.held, accounted.handles, accounted.ephemeral⟩
  | clone address =>
    unfold NetworkCourse.step
    dsimp only
    split
    · rename_i mem
      split
      · rename_i after cloned
        obtain rfl := eq_acquire_of_clone (accounted.isBound_of_mem mem) cloned
        exact accounted.open_socket address
      · exact accounted
    · exact accounted
  | close address =>
    unfold NetworkCourse.step
    dsimp only
    split
    · rename_i mem
      exact accounted.close mem
    · exact accounted
  | deliver source destination bytes => exact accounted.carry rfl
  | send address destination bytes => exact accounted.carry rfl
  | receive address size => exact accounted.carry rfl
  | take address => exact accounted.carry rfl

theorem run (events : List NetworkEvent) : (course.run events).Accounted := by
  induction events generalizing course with
  | nil => exact accounted
  | cons event events ih => exact ih (accounted.step event)

end Accounted

/-! ## What is delivered and what is read -/

/-- The datagrams that an event brings to an address. -/
def brings (course : NetworkCourse) (home : Address) : NetworkEvent → List Datagram
  | .deliver source destination bytes => if destination = home then [⟨bytes, source⟩] else []
  | .send address destination bytes =>
      if address ∈ course.sockets ∧ destination = home then [⟨bytes, address⟩] else []
  | _ => []

/-- What is read at an address in an event. -/
def gives (course : NetworkCourse) (home : Address) : NetworkEvent → List Reading
  | .receive address size =>
      if address ∈ course.sockets ∧ address = home then
        match (course.network.receive address size).1 with
        | .ok datagram => [⟨some size, datagram⟩]
        | .error _ => []
      else []
  | .take address =>
      if address = home then (course.network.take address).1.map (⟨none, ·⟩) else []
  | _ => []

/-- The datagrams that some events bring to an address, in order. -/
def delivered (home : Address) : NetworkCourse → List NetworkEvent → List Datagram
  | _, [] => []
  | course, event :: events => course.brings home event ++ delivered home (course.step event) events

/-- What is read at an address in some events, in order. -/
def readings (home : Address) : NetworkCourse → List NetworkEvent → List Reading
  | _, [] => []
  | course, event :: events => course.gives home event ++ readings home (course.step event) events

/-- What is taken away is given whole. -/
theorem forall₂_of_whole (datagrams : List Datagram) :
    List.Forall₂ (fun datagram reading => Reading.Of reading datagram) datagrams
      (datagrams.map (⟨none, ·⟩)) := by
  induction datagrams with
  | nil => exact .nil
  | cons datagram datagrams ih => exact .cons rfl ih

/-- What waits at an address that stays bound, and what an event brings there, is what is read
in the event and what waits after it. -/
theorem exists_read_step (bound : course.network.isBound home = true)
    (still : (course.step event).network.isBound home = true) :
    ∃ read, course.network.waiting home ++ course.brings home event =
        read ++ (course.step event).network.waiting home ∧
      List.Forall₂ (fun datagram reading => reading.Of datagram) read
        (course.gives home event) := by
  have quiet (carries : event.carries = false) : course.network.waiting home ++ [] =
      [] ++ (course.step event).network.waiting home :=
    (List.append_nil _).trans (waiting_step carries still).symm
  cases event with
  | bind address => exact ⟨[], quiet rfl, .nil⟩
  | occupy address => exact ⟨[], quiet rfl, .nil⟩
  | refuse refuses => exact ⟨[], quiet rfl, .nil⟩
  | clone address => exact ⟨[], quiet rfl, .nil⟩
  | close address => exact ⟨[], quiet rfl, .nil⟩
  | deliver source destination bytes =>
    exact ⟨[], (waiting_deliver bound source destination bytes).symm, .nil⟩
  | send address destination bytes =>
    refine ⟨[], ?_, .nil⟩
    unfold step brings
    dsimp only
    by_cases mem : address ∈ course.sockets
    · rw [if_pos mem, List.nil_append, waiting_deliver bound]
      simp only [mem, true_and]
    · rw [if_neg mem, if_neg fun both => mem both.1]
      exact List.append_nil _
  | receive address size =>
    unfold step brings gives
    dsimp only
    by_cases mem : address ∈ course.sockets
    · rw [if_pos mem]
      by_cases here : address = home
      · subst here
        rw [if_pos ⟨mem, rfl⟩, receive_of_bound bound]
        dsimp only
        cases waits : course.network.waiting address with
        | nil => exact ⟨[], by simpa using waits.symm, .nil⟩
        | cons datagram rest =>
          refine ⟨[datagram], ?_, .cons rfl .nil⟩
          dsimp only
          rw [waiting_modify bound _ (fun _ => rest) fun _ => rfl, if_pos rfl]
          exact List.append_nil _
      · rw [if_neg fun both => here both.2]
        refine ⟨[], (List.append_nil _).trans ?_, .nil⟩
        exact (waiting_receive_of_ne (Ne.symm here) size).symm
    · rw [if_neg mem, if_neg fun both => mem both.1]
      exact ⟨[], List.append_nil _, .nil⟩
  | take address =>
    unfold step brings gives
    dsimp only
    have left : (course.network.take address).2.waiting home =
        if home = address then [] else course.network.waiting home :=
      waiting_modify bound _ (fun _ => []) fun _ => rfl
    by_cases here : address = home
    · subst here
      rw [if_pos rfl] at left ⊢
      exact ⟨course.network.waiting address, congrArg _ left.symm, forall₂_of_whole _⟩
    · rw [if_neg (Ne.symm here)] at left
      rw [if_neg here]
      exact ⟨[], (List.append_nil _).trans left.symm, .nil⟩

/-- While an address stays bound, what waits there and what is delivered there is read in its
order, each datagram once, and the rest of it waits. -/
theorem exists_read_run (events : List NetworkEvent)
    (stays : ∀ earlier, earlier <+: events → (course.run earlier).network.isBound home = true) :
    ∃ read, course.network.waiting home ++ delivered home course events =
        read ++ (course.run events).network.waiting home ∧
      List.Forall₂ (fun datagram reading => reading.Of datagram) read
        (readings home course events) := by
  induction events generalizing course with
  | nil => exact ⟨[], List.append_nil _, .nil⟩
  | cons event events ih =>
    have bound : course.network.isBound home = true := stays [] List.nil_prefix
    have still : (course.step event).network.isBound home = true :=
      stays [event] (List.cons_prefix_cons.2 ⟨rfl, List.nil_prefix⟩)
    have after (earlier : List NetworkEvent) (front : earlier <+: events) :
        ((course.step event).run earlier).network.isBound home = true :=
      stays (event :: earlier) (List.cons_prefix_cons.2 ⟨rfl, front⟩)
    obtain ⟨first, firstParts, firstGiven⟩ := exists_read_step bound still
    obtain ⟨others, otherParts, othersGiven⟩ := ih after
    refine ⟨first ++ others, ?_, List.rel_append firstGiven othersGiven⟩
    rw [delivered, ← List.append_assoc, firstParts, List.append_assoc, otherParts,
      ← List.append_assoc]
    rfl

/-! ## Addresses that are not bound -/

theorem deliver_of_unbound (unbound : course.network.isBound home = false) (source : Address)
    (bytes : Bytes) : course.network.deliver source home bytes = course.network :=
  modify_of_unbound unbound _

/-- Nothing waits at an address that is not bound, nor when it was just bound. -/
theorem waiting_step_of_unbound (unbound : course.network.isBound home = false)
    (event : NetworkEvent) : (course.step event).network.waiting home = [] := by
  cases carries : event.carries with
  | true =>
    obtain ⟨network, traffic, came⟩ := course.exists_step_of_carries carries
    rw [came]
    exact waiting_of_traffic unbound traffic
  | false =>
    cases still : (course.step event).network.isBound home with
    | true => exact (waiting_step carries still).trans (waiting_of_unbound unbound)
    | false => exact waiting_of_unbound still

/-- With the last socket on an address goes what waits there. -/
theorem channel?_close (accounted : course.Accounted) (mem : home ∈ course.sockets)
    (last : course.holders home = 1) :
    (course.step (.close home)).network.channel? home = none := by
  have closed := accounted.step (.close home)
  have unheld : ¬ 0 < (course.step (.close home)).holders home := by
    unfold step
    dsimp only
    rw [if_pos mem]
    rw [holders] at last ⊢
    dsimp only
    have counted := List.count_pos_iff.2 mem
    rw [List.count_erase_self]
    omega
  rw [← closed.isBound_iff, isBound, Option.not_isSome_iff_eq_none] at unheld
  exact unheld

/-- After anything that can happen, the handles to an address are the sockets that are open on
it and the times that it was occupied, and it is bound as long as that is any; each socket that
closes gives its handle back, and with the last one goes what waits.  An ephemeral port is a
port, and a socket is bound only on a port that is free in its family.  A socket reads the first
datagram that waits.  While an address stays bound, all that waits there and is delivered there
is read in order, each datagram once and with its sender, up to those that wait in the end; what
is sent to an address that is not bound is lost. -/
theorem sockets_accounted_for (events : List NetworkEvent) :
    let course := start.run events
    (∀ address, course.network.handles address = course.holders address ∧
        (course.network.isBound address = true ↔ 0 < course.holders address)) ∧
      (∀ address ∈ course.sockets,
        (course.step (.close address)).network.handles address + 1 =
            course.network.handles address ∧
          (course.holders address = 1 →
            (course.step (.close address)).network.channel? address = none)) ∧
      firstEphemeral + course.network.ephemeral < UInt16.size ∧
      (∀ address bound after, course.network.bind address = (.ok bound, after) →
        bound.locator = address.locator ∧ (address.port ≠ 0 → bound = address) ∧
          (address.port = 0 → bound.port.toNat = firstEphemeral + course.network.ephemeral) ∧
          ∀ other, course.network.isBound other = true → other.family = bound.family →
            other.port ≠ bound.port) ∧
      (∀ address ∈ course.sockets, ∀ size,
        (course.network.receive address size).1 =
          match course.network.waiting address with
          | [] => .error (.system .wouldBlock)
          | datagram :: _ => .ok (datagram.cut size)) ∧
      (∀ home more,
        (∀ earlier, earlier <+: more → (course.run earlier).network.isBound home = true) →
          ∃ read, course.network.waiting home ++ delivered home course more =
              read ++ (course.run more).network.waiting home ∧
            List.Forall₂ (fun datagram reading => reading.Of datagram) read
              (readings home course more)) ∧
      ∀ home, course.network.isBound home = false →
        (∀ source bytes, course.network.deliver source home bytes = course.network) ∧
          ∀ event, (course.step event).network.waiting home = [] := by
  intro course
  have accounted : course.Accounted := accounted_start.run events
  refine ⟨fun address => ⟨accounted.handles address, accounted.isBound_iff address⟩,
    fun address mem => ⟨accounted.handles_close mem, channel?_close accounted mem⟩,
    accounted.ephemeral_lt, fun address bound after binds => ?_, fun address mem size => ?_,
    fun home more stays => exists_read_run more stays,
    fun home unbound => ⟨deliver_of_unbound unbound, waiting_step_of_unbound unbound⟩⟩
  · obtain ⟨free, rfl, -⟩ := of_bind_eq_ok binds
    refine ⟨course.network.locator_resolve address, fun given => ?_,
      port_resolve_of_zero accounted.ephemeral, fun other there sameFamily samePort => ?_⟩
    · rw [resolve_of_ne_zero given]
    · exact Bool.false_ne_true (free.symm.trans (inUse_iff.2 ⟨other, there, sameFamily, samePort⟩))
  · rw [receive_of_bound (accounted.isBound_of_mem mem)]
    cases course.network.waiting address with
    | nil => rfl
    | cons datagram rest => rfl

/-- A socket on an ephemeral port whose clone has outlived it: it has one handle.  Of two
datagrams that are delivered there the first is read into a buffer that is too small for it,
and the other one is taken away.  When the clone is closed as well the address is free. -/
theorem sockets_accounted_for_clone :
    let socket : Address := ⟨.v4 (.zero 4), 49152⟩
    let peer : Address := ⟨.v4 (.zero 4), 6881⟩
    let course := start.run [.bind ⟨.v4 (.zero 4), 0⟩, .clone socket, .close socket]
    let more : List NetworkEvent :=
      [.deliver peer socket [1, 2, 3], .deliver peer socket [4], .receive socket 2, .take socket]
    course.network.handles socket = 1 ∧
      readings socket course more = [⟨some 2, ⟨[1, 2], peer⟩⟩, ⟨none, ⟨[4], peer⟩⟩] ∧
      (∃ read, course.network.waiting socket ++ delivered socket course more =
          read ++ (course.run more).network.waiting socket ∧
        List.Forall₂ (fun datagram reading => reading.Of datagram) read
          (readings socket course more)) ∧
      (course.step (.close socket)).network.channel? socket = none := by
  intro socket peer course more
  obtain ⟨counted, closes, -, -, -, reads, -⟩ := sockets_accounted_for
    [.bind ⟨.v4 (.zero 4), 0⟩, .clone socket, .close socket]
  have mem : socket ∈ course.sockets := List.mem_singleton.2 rfl
  have stays (earlier : List NetworkEvent) (front : earlier <+: more) :
      (course.run earlier).network.isBound socket = true := by
    rw [← List.mem_inits] at front
    fin_cases front <;> rfl
  exact ⟨(counted socket).1, rfl, reads socket more stays, (closes socket mem).2 rfl⟩

end NetworkCourse

end Kademlia
