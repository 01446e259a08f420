import Kademlia.Proofs.Announce.Secrets
import Kademlia.Proofs.Announce.Store
import Kademlia.Proofs.Stack.Receiving

/-!
# What a stack does for others

Messages arrive from anyone, announces are purged, the secret of the tokens changes,
and time passes.  A token that was given is accepted for as long as its secret is
kept, whatever else arrives meanwhile.
-/

namespace Kademlia

/-- What happens to a stack that serves others. -/
inductive ServiceEvent
  | message (message : Message) (source : Address)
  | purge
  | rotate (entropy : Entropy)
  | advance (milliseconds : Nat)
deriving DecidableEq

namespace ServiceEvent

/-- Whether the secret of the tokens changes. -/
def isRotation : ServiceEvent → Bool
  | rotate _ => true
  | _ => false

end ServiceEvent

/-- A stack at a time. -/
structure ServiceCourse where
  now : Nat
  stack : Stack

namespace ServiceCourse

/-- What comes of an event. -/
def step (course : ServiceCourse) : ServiceEvent → ServiceCourse
  | .message message source =>
      { course with stack := (course.stack.accept course.now message source).2 }
  | .purge =>
      let announces := course.stack.announces.purge course.now
      { course with stack := { course.stack with announces } }
  | .rotate entropy =>
      let (secrets, _) := course.stack.secrets.rotate course.now entropy
      { course with stack := { course.stack with secrets } }
  | .advance milliseconds => { course with now := course.now + milliseconds }

/-- What comes of some events in order. -/
def run (course : ServiceCourse) (events : List ServiceEvent) : ServiceCourse :=
  events.foldl step course

end ServiceCourse

/-- An announce from an address entitles a peer to be listed: the peer is the address that
the announce comes from if that says so, and else is at the IP that it comes from, in no
scope, and at the port that it names; and the token is that of the info hash and the address
under one of the two secrets. -/
inductive Secrets.Authorises (secrets : Secrets) (infoHash : InfoHash) (peer : Address) :
    Message → Address → Prop
  | announce {transactionId : UInt16} {requester : Id} {port : UInt16} {impliedPort : Bool}
      {token : Bytes} {source : Address}
      (sameLocator : peer.locator = if impliedPort then source.locator else source.ip)
      (samePort : peer.port = if impliedPort then source.port else port)
      (given : token = Secrets.token infoHash source secrets.current ∨
        token = Secrets.token infoHash source secrets.previous) :
      Authorises secrets infoHash peer
        ⟨transactionId, .request (.announcePeer requester infoHash port impliedPort token)⟩ source

/-- Whoever is entitled to be listed is at the IP that the announce comes from. -/
theorem Secrets.Authorises.ip_eq {secrets : Secrets} {infoHash : InfoHash} {peer : Address}
    {message : Message} {source : Address}
    (authorised : secrets.Authorises infoHash peer message source) : peer.ip = source.ip := by
  cases authorised with
  | @announce _ _ _ impliedPort _ _ sameLocator =>
    rw [Address.ip, sameLocator]
    cases impliedPort with
    | true => rfl
    | false => exact Locator.ip_ofIp source.ip

namespace Stack

variable {stack : Stack} {now : Nat} {transactionId : UInt16} {asked : Request} {source : Address}
  {message : Message} {body : Body}

/-! ## Accepting a message -/

theorem announcedPeer_locator (source : Address) (port : UInt16) (impliedPort : Bool) :
    (announcedPeer source port impliedPort).locator =
      if impliedPort then source.locator else source.ip := by
  cases impliedPort with
  | true => rfl
  | false => rfl

theorem announcedPeer_port (source : Address) (port : UInt16) (impliedPort : Bool) :
    (announcedPeer source port impliedPort).port = if impliedPort then source.port else port := by
  cases impliedPort with
  | true => rfl
  | false => rfl

/-- A query does something to the announces, and what it adds it authorises. -/
theorem exists_reply_authorised (stack : Stack) (now : Nat) (source : Address)
    (transactionId : UInt16) (asked : Request) :
    ∃ operations, (stack.reply now source asked).2 = stack.announces.run operations ∧
      ∀ time infoHash peer, .add time infoHash peer ∈ operations →
        time = now ∧
          stack.secrets.Authorises infoHash peer ⟨transactionId, .request asked⟩ source := by
  cases asked with
  | ping requester => exact ⟨[], rfl, nofun⟩
  | findNode requester target => exact ⟨[], rfl, nofun⟩
  | getPeers requester infoHash => exact ⟨[.get infoHash], rfl, by simp⟩
  | announcePeer requester infoHash port impliedPort token =>
    by_cases accepted : stack.secrets.accepts infoHash source token = true
    · rw [reply, if_pos accepted]
      refine ⟨[.add now infoHash (announcedPeer source port impliedPort)], rfl, ?_⟩
      intro time other peer added
      cases List.mem_singleton.1 added
      exact ⟨rfl, .announce (announcedPeer_locator source port impliedPort)
        (announcedPeer_port source port impliedPort) (Secrets.accepts_iff.1 accepted)⟩
    · rw [reply, if_neg accepted]
      exact ⟨[], rfl, nofun⟩

/-- A message that is accepted leaves the secrets as they are and does something to the
announces, and what it adds it authorises. -/
theorem FullyWired.accept_authorised (wired : stack.FullyWired) (now : Nat) (message : Message)
    (source : Address) :
    (stack.accept now message source).2.secrets = stack.secrets ∧
      ∃ operations,
        (stack.accept now message source).2.announces = stack.announces.run operations ∧
        ∀ time infoHash peer, .add time infoHash peer ∈ operations →
          time = now ∧ stack.secrets.Authorises infoHash peer message source := by
  obtain ⟨transactionId, body⟩ := message
  by_cases query : ∃ asked, body = .request asked
  · obtain ⟨asked, rfl⟩ := query
    obtain ⟨table, tasks, became⟩ := wired.exists_accept_request now transactionId asked source
    rw [became]
    exact ⟨rfl, stack.exists_reply_authorised now source transactionId asked⟩
  · rw [wired.accept_reply now source fun asked same => query ⟨asked, same⟩]
    split
    · exact ⟨rfl, [], rfl, nofun⟩
    · rename_i inflight _
      obtain ⟨table, tasks, became⟩ :=
        exists_noted { stack with inflight } now ⟨transactionId, body⟩ source
      dsimp only
      rw [became]
      exact ⟨rfl, [], rfl, nofun⟩

/-- Whatever message is accepted, the secrets stay, and the announces become what
operations on them make. -/
theorem FullyWired.accept_serves (wired : stack.FullyWired) (now : Nat) (message : Message)
    (source : Address) :
    (stack.accept now message source).2.secrets = stack.secrets ∧
      ∃ operations, (stack.accept now message source).2.announces =
        stack.announces.run operations := by
  obtain ⟨secrets, operations, ran, -⟩ := wired.accept_authorised now message source
  exact ⟨secrets, operations, ran⟩

/-! ## Answering -/

/-- A query that is accepted is answered: one message goes to where it came from. -/
def Answers (stack : Stack) (now : Nat) (transactionId : UInt16) (asked : Request)
    (source : Address) (body : Body) : Prop :=
  (stack.accept now ⟨transactionId, .request asked⟩ source).2.outbox.queue =
    stack.outbox.queue ++ [⟨⟨transactionId, body⟩, source, none, stack.outbox.timeout⟩]

theorem FullyWired.answers_iff (wired : stack.FullyWired) :
    stack.Answers now transactionId asked source body ↔
      body = (stack.reply now source asked).1 := by
  obtain ⟨table, tasks, became⟩ := wired.exists_accept_request now transactionId asked source
  rw [Answers, became]
  change stack.outbox.queue ++ [_] = _ ↔ _
  rw [List.append_cancel_left_eq, List.singleton_inj]
  simp [eq_comm]

/-- An announce under a token that is accepted is answered like a ping, and then the
announced peer is given first, among peers that differ and are not too many. -/
theorem FullyWired.answers_announce (wired : stack.FullyWired)
    (reached : stack.announces.Reachable) {infoHash : InfoHash} {token : Bytes}
    (accepted : stack.secrets.accepts infoHash source token = true) (now : Nat)
    (transactionId : UInt16) (announcer : Id) (port : UInt16) (impliedPort : Bool) :
    let announce : Request := .announcePeer announcer infoHash port impliedPort token
    let after := (stack.accept now ⟨transactionId, .request announce⟩ source).2
    let peer := announcedPeer source port impliedPort
    stack.Answers now transactionId announce source (.response (.ping stack.localNode.id)) ∧
      ∀ number asker origin, ∃ token nodes others,
        after.Answers now number (.getPeers asker infoHash) origin
          (.response (.getPeers stack.localNode.id token nodes (peer :: others))) ∧
        (peer :: others).Nodup ∧ (peer :: others).length ≤ 50 := by
  intro announce after peer
  have reply : stack.reply now source announce =
      (.response (.ping stack.localNode.id), stack.announces.add now infoHash peer) := by
    rw [Stack.reply, if_pos accepted]
  constructor
  · rw [wired.answers_iff, reply]
  · intro number asker origin
    have persists := stack.persists_accept now ⟨transactionId, .request announce⟩ source
    have announced : after.announces = stack.announces.add now infoHash peer := by
      obtain ⟨table, tasks, became⟩ :=
        wired.exists_accept_request now transactionId announce source
      exact (congrArg Stack.announces became).trans (congrArg Prod.snd reply)
    obtain ⟨others, listed, distinct, few⟩ :=
      reached.wellFormed.exists_get_add now infoHash peer
    refine ⟨after.secrets.generate infoHash origin, after.table.closest infoHash, others, ?_,
      distinct, few⟩
    rw [(persists.fullyWired wired).answers_iff, Stack.reply, announced, listed,
      persists.localNode]

end Stack

namespace ServiceCourse

variable {course : ServiceCourse}

/-! ## Whatever happens -/

theorem persists_step (course : ServiceCourse) (event : ServiceEvent) :
    course.stack.Persists (course.step event).stack := by
  cases event with
  | message message source => exact course.stack.persists_accept course.now message source
  | purge => exact ⟨rfl, rfl, rfl, rfl⟩
  | rotate entropy => exact ⟨rfl, rfl, rfl, rfl⟩
  | advance milliseconds => exact .refl course.stack

theorem persists_run (course : ServiceCourse) (events : List ServiceEvent) :
    course.stack.Persists (course.run events).stack := by
  induction events generalizing course with
  | nil => exact .refl course.stack
  | cons event events ih => exact (course.persists_step event).trans (ih (course.step event))

theorem reachable_step (wired : course.stack.FullyWired)
    (reached : course.stack.announces.Reachable) (event : ServiceEvent) :
    (course.step event).stack.announces.Reachable := by
  cases event with
  | message message source =>
    obtain ⟨-, operations, became⟩ := wired.accept_serves course.now message source
    rw [step, became]
    exact reached.run operations
  | purge => exact reached.run [.purge course.now]
  | rotate entropy => exact reached
  | advance milliseconds => exact reached

theorem reachable_run (wired : course.stack.FullyWired)
    (reached : course.stack.announces.Reachable) (events : List ServiceEvent) :
    (course.run events).stack.announces.Reachable := by
  induction events generalizing course with
  | nil => exact reached
  | cons event events ih =>
    exact ih ((course.persists_step event).fullyWired wired) (reachable_step wired reached event)

/-! ## Secrets -/

/-- Only a rotation changes the secrets. -/
theorem secrets_step (wired : course.stack.FullyWired) {event : ServiceEvent}
    (other : event.isRotation = false) :
    (course.step event).stack.secrets = course.stack.secrets := by
  cases event with
  | message message source => exact (wired.accept_serves course.now message source).1
  | purge => rfl
  | rotate entropy => cases other
  | advance milliseconds => rfl

theorem secrets_run (wired : course.stack.FullyWired) {events : List ServiceEvent}
    (unrotated : events.countP ServiceEvent.isRotation = 0) :
    (course.run events).stack.secrets = course.stack.secrets := by
  induction events generalizing course with
  | nil => rfl
  | cons event events ih =>
    rw [List.countP_eq_zero, List.forall_mem_cons, ← List.countP_eq_zero] at unrotated
    have first := secrets_step wired (Bool.not_eq_true _ ▸ unrotated.1)
    exact (ih ((course.persists_step event).fullyWired wired) unrotated.2).trans first

/-- A secret outlasts one rotation. -/
theorem current_run (wired : course.stack.FullyWired) {events : List ServiceEvent}
    (once : events.countP ServiceEvent.isRotation ≤ 1) :
    course.stack.secrets.current = (course.run events).stack.secrets.current ∨
      course.stack.secrets.current = (course.run events).stack.secrets.previous := by
  induction events generalizing course with
  | nil => exact .inl rfl
  | cons event events ih =>
    have still := (course.persists_step event).fullyWired wired
    change _ = ((course.step event).run events).stack.secrets.current ∨
      _ = ((course.step event).run events).stack.secrets.previous
    cases rotates : event.isRotation with
    | true =>
      rw [List.countP_cons_of_pos rotates] at once
      have unrotated : events.countP ServiceEvent.isRotation = 0 := by omega
      cases event with
      | rotate entropy =>
        rw [secrets_run still unrotated]
        exact .inr rfl
      | message message source => cases rotates
      | purge => cases rotates
      | advance milliseconds => cases rotates
    | false =>
      rw [List.countP_cons_of_neg (by simp [rotates])] at once
      rw [← secrets_step wired rotates]
      exact ih still once

/-! ## Announcing -/

/-- Whoever asks for the peers of an info hash is given a token.  Whatever happens
then, with one rotation at most, an announce under it from the same address is
answered like a ping, and from then on the announced peer is given first, among
peers that differ and are not too many. -/
theorem announce_answered {stack : Stack} (wired : stack.FullyWired)
    (reached : stack.announces.Reachable) {now : Nat} {transactionId : UInt16}
    {requester responder : Id} {infoHash : InfoHash} {source : Address} {token : Bytes}
    {nodes : List Node} {values : List Address}
    (given : stack.Answers now transactionId (.getPeers requester infoHash) source
      (.response (.getPeers responder token nodes values)))
    {events : List ServiceEvent} (once : events.countP ServiceEvent.isRotation ≤ 1)
    (announcer : Id) (number : UInt16) (port : UInt16) (impliedPort : Bool) :
    let asked : Message := ⟨transactionId, .request (.getPeers requester infoHash)⟩
    let later := run ⟨now, (stack.accept now asked source).2⟩ events
    let announce : Request := .announcePeer announcer infoHash port impliedPort token
    let after := (later.stack.accept later.now ⟨number, .request announce⟩ source).2
    let peer := Stack.announcedPeer source port impliedPort
    later.stack.Answers later.now number announce source
        (.response (.ping stack.localNode.id)) ∧
      ∀ number asker origin, ∃ token nodes others,
        after.Answers later.now number (.getPeers asker infoHash) origin
          (.response (.getPeers stack.localNode.id token nodes (peer :: others))) ∧
        (peer :: others).Nodup ∧ (peer :: others).length ≤ 50 := by
  intro asked later announce after peer
  have issued : token = stack.secrets.generate infoHash source := by
    have replied := wired.answers_iff.1 given
    simp only [Stack.reply, Body.response.injEq, Response.getPeers.injEq] at replied
    exact replied.2.1
  let accepting : ServiceCourse := ⟨now, (stack.accept now asked source).2⟩
  have first : stack.Persists accepting.stack := stack.persists_accept now asked source
  have wiredFirst : accepting.stack.FullyWired := first.fullyWired wired
  obtain ⟨kept, operations, became⟩ := wired.accept_serves now asked source
  have persists : stack.Persists later.stack := first.trans (accepting.persists_run events)
  have wiredLater := persists.fullyWired wired
  have reachedFirst : accepting.stack.announces.Reachable := by
    rw [became]
    exact reached.run operations
  have reachedLater : later.stack.announces.Reachable :=
    reachable_run wiredFirst reachedFirst events
  have accepted : later.stack.secrets.accepts infoHash source token = true := by
    rw [issued, Secrets.accepts_generate_iff, ← kept]
    exact current_run wiredFirst once
  have answered := wiredLater.answers_announce reachedLater accepted later.now number announcer
    port impliedPort
  rw [persists.localNode] at answered
  exact answered

/-- An announce after a purge, a rotation, and a message from someone else. -/
theorem announce_answered_after_rotation :
    let home : Address := ⟨.v4 (.zero 4), 6881⟩
    let peer : Address := ⟨.v4 (.zero 4), 7000⟩
    let other : Address := ⟨.v4 (.zero 4), 7001⟩
    let stack := Stack.assembled ⟨⟨.zero 20⟩, 6881⟩ ⟨.ipv4, home⟩ 1000 0 ⟨1⟩
    let infoHash : InfoHash := .ofNat 9
    let asked : Request := .getPeers (.ofNat 7) infoHash
    let token := stack.secrets.generate infoHash peer
    let announce : Request := .announcePeer (.ofNat 7) infoHash 80 false token
    let events : List ServiceEvent :=
      [.purge, .rotate ⟨5⟩, .message ⟨2, .request (.ping (.ofNat 8))⟩ other, .advance 1000]
    let later := run ⟨0, (stack.accept 0 ⟨1, .request asked⟩ peer).2⟩ events
    stack.FullyWired ∧ stack.announces.Reachable ∧
      stack.Answers 0 1 asked peer
        (.response (.getPeers ⟨.zero 20⟩ token (stack.table.closest infoHash) [])) ∧
      events.countP ServiceEvent.isRotation ≤ 1 ∧
      later.stack.Answers later.now 3 announce peer (.response (.ping ⟨.zero 20⟩)) := by
  intro home peer other stack infoHash asked token announce events later
  have wired : stack.FullyWired := Stack.fullyWired_assembled _ _ _ _ _
  have reached : stack.announces.Reachable := AnnounceStore.reachable_empty
  have given : stack.Answers 0 1 asked peer
      (.response (.getPeers ⟨.zero 20⟩ token (stack.table.closest infoHash) [])) :=
    wired.answers_iff.2 rfl
  have once : events.countP ServiceEvent.isRotation ≤ 1 := by decide
  exact ⟨wired, reached, given, once,
    (announce_answered wired reached given once (.ofNat 7) 3 80 false).1⟩

end ServiceCourse

end Kademlia
