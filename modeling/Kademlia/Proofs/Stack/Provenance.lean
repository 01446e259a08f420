import Kademlia.Proofs.Stack.Service

/-!
# Where announced peers come from

Whatever happens to a stack, a peer is listed only where someone at its own IP
announced it, under a token that the stack gave to that very address.
-/

namespace Kademlia

variable {infoHash : InfoHash} {peer : Address} {announcedAt : Nat}

namespace Stack

variable {stack : Stack} {now : Nat} {source : Address} {message : Message}

/-! ## One message -/

theorem FullyWired.announces_accept_request (wired : stack.FullyWired) (now : Nat)
    (transactionId : UInt16) (asked : Request) (source : Address) :
    (stack.accept now ⟨transactionId, .request asked⟩ source).2.announces =
      (stack.reply now source asked).2 := by
  obtain ⟨table, tasks, became⟩ := wired.exists_accept_request now transactionId asked source
  rw [became]
  rfl

/-- Who is listed after a message that was accepted was, or is authorised by it. -/
theorem FullyWired.lists_accept (wired : stack.FullyWired)
    (listed : (stack.accept now message source).2.announces.Lists infoHash peer announcedAt) :
    stack.announces.Lists infoHash peer announcedAt ∨
      (announcedAt = now ∧ stack.secrets.Authorises infoHash peer message source) := by
  obtain ⟨-, operations, ran, authorised⟩ := wired.accept_authorised now message source
  rw [ran] at listed
  exact listed.of_run.imp_right (authorised announcedAt infoHash peer)

/-- An announce under a token that is not accepted is told so, and leaves the announces
as they are. -/
theorem FullyWired.refuses_announce (wired : stack.FullyWired) {token : Bytes}
    (current : token ≠ Secrets.token infoHash source stack.secrets.current)
    (previous : token ≠ Secrets.token infoHash source stack.secrets.previous) (now : Nat)
    (transactionId : UInt16) (announcer : Id) (port : UInt16) (impliedPort : Bool) :
    let announce : Request := .announcePeer announcer infoHash port impliedPort token
    stack.Answers now transactionId announce source (.error 203 "Bad token") ∧
      (stack.accept now ⟨transactionId, .request announce⟩ source).2.announces =
        stack.announces := by
  intro announce
  have refused : ¬ stack.secrets.accepts infoHash source token = true := by
    rw [Secrets.accepts_iff, not_or]
    exact ⟨current, previous⟩
  have reply : stack.reply now source announce = (.error 203 "Bad token", stack.announces) := by
    rw [Stack.reply, if_neg refused]
  rw [wired.answers_iff, wired.announces_accept_request, reply]
  exact ⟨rfl, rfl⟩

end Stack

namespace ServiceCourse

variable {course : ServiceCourse}

/-! ## Whatever happens -/

/-- Who is listed after an event was before, or the event is a message that authorises
it. -/
theorem lists_step (wired : course.stack.FullyWired) {event : ServiceEvent}
    (listed : (course.step event).stack.announces.Lists infoHash peer announcedAt) :
    course.stack.announces.Lists infoHash peer announcedAt ∨
      ∃ message source, event = .message message source ∧ announcedAt = course.now ∧
        course.stack.secrets.Authorises infoHash peer message source := by
  cases event with
  | message message source =>
    rcases wired.lists_accept listed with before | ⟨now, authorised⟩
    · exact .inl before
    · exact .inr ⟨message, source, rfl, now, authorised⟩
  | purge => exact .inl listed.of_purge
  | rotate entropy => exact .inl listed
  | advance milliseconds => exact .inl listed

/-- Who is listed after some events was before, or one of them is a message that
authorises it under the secrets of that moment. -/
theorem lists_run (wired : course.stack.FullyWired) {events : List ServiceEvent}
    (listed : (course.run events).stack.announces.Lists infoHash peer announcedAt) :
    course.stack.announces.Lists infoHash peer announcedAt ∨
      ∃ before message source after,
        events = before ++ .message message source :: after ∧
        announcedAt = (course.run before).now ∧
        (course.run before).stack.secrets.Authorises infoHash peer message source := by
  induction events generalizing course with
  | nil => exact .inl listed
  | cons event events ih =>
    rcases ih ((course.persists_step event).fullyWired wired) listed with
      first | ⟨before, message, source, after, rfl, now, authorised⟩
    · rcases lists_step wired first with already | ⟨message, source, rfl, now, authorised⟩
      · exact .inl already
      · exact .inr ⟨[], message, source, events, rfl, now, authorised⟩
    · exact .inr ⟨event :: before, message, source, after, rfl, now, authorised⟩

/-- A stack starts without announces, and anything happens.  Whoever is listed then was
announced at the time that is noted, by a message that authorises it under the secrets
of that moment.  No other query adds a peer, and an announce under any other token is
told so and leaves the announces as they are. -/
theorem announces_authorised (wired : course.stack.FullyWired)
    (empty : course.stack.announces.announces = []) (events : List ServiceEvent) :
    let now := (course.run events).now
    let stack := (course.run events).stack
    (∀ infoHash peer announcedAt, stack.announces.Lists infoHash peer announcedAt →
      ∃ before message source after,
        events = before ++ .message message source :: after ∧
        announcedAt = (course.run before).now ∧
        (course.run before).stack.secrets.Authorises infoHash peer message source) ∧
    (∀ transactionId asked source,
      (∀ announcer infoHash port impliedPort token,
        asked ≠ .announcePeer announcer infoHash port impliedPort token) →
      ∀ infoHash peer announcedAt,
        (stack.accept now ⟨transactionId, .request asked⟩ source).2.announces.Lists infoHash peer
          announcedAt →
        stack.announces.Lists infoHash peer announcedAt) ∧
    ∀ transactionId announcer infoHash port impliedPort token source,
      token ≠ Secrets.token infoHash source stack.secrets.current →
      token ≠ Secrets.token infoHash source stack.secrets.previous →
      let announce : Request := .announcePeer announcer infoHash port impliedPort token
      stack.Answers now transactionId announce source (.error 203 "Bad token") ∧
        (stack.accept now ⟨transactionId, .request announce⟩ source).2.announces =
          stack.announces := by
  intro now stack
  have stillWired : stack.FullyWired := (course.persists_run events).fullyWired wired
  refine ⟨?authorised, ?others, ?refused⟩
  case authorised =>
    intro infoHash peer announcedAt listed
    rcases lists_run wired listed with ⟨peers, entry, -⟩ | authorised
    · rw [empty] at entry
      exact absurd entry List.not_mem_nil
    · exact authorised
  case others =>
    intro transactionId asked source other infoHash peer announcedAt listed
    rcases stillWired.lists_accept listed with already | ⟨-, authorised⟩
    · exact already
    · cases authorised
      exact absurd rfl (other _ _ _ _ _)
  case refused =>
    intro transactionId announcer infoHash port impliedPort token source current previous
    exact stillWired.refuses_announce current previous now transactionId announcer port impliedPort

/-- A peer that was announced before the secret changed. -/
theorem announces_authorised_before_rotation :
    let home : Address := ⟨.v4 (.zero 4), 6881⟩
    let source : Address := ⟨.v4 (.zero 4), 7000⟩
    let stack := Stack.assembled ⟨⟨.zero 20⟩, 6881⟩ ⟨.ipv4, home⟩ 1000 0 ⟨1⟩
    let infoHash : InfoHash := .ofNat 9
    let token := stack.secrets.generate infoHash source
    let announce : Message := ⟨1, .request (.announcePeer (.ofNat 7) infoHash 80 false token)⟩
    let course : ServiceCourse := ⟨5, stack⟩
    let events : List ServiceEvent := [.message announce source, .rotate ⟨5⟩, .advance 1000]
    course.stack.FullyWired ∧ course.stack.announces.announces = [] ∧
      (course.run events).stack.announces.Lists infoHash ⟨source.ip, 80⟩ 5 ∧
      ∃ before message origin after,
        events = before ++ .message message origin :: after ∧
        5 = (course.run before).now ∧
        (course.run before).stack.secrets.Authorises infoHash ⟨source.ip, 80⟩ message origin := by
  intro home source stack infoHash token announce course events
  have wired : course.stack.FullyWired := Stack.fullyWired_assembled _ _ _ _ _
  have empty : course.stack.announces.announces = [] := rfl
  have accepted : stack.secrets.accepts infoHash source token = true :=
    Secrets.accepts_generate_iff.2 (.inl rfl)
  have listed : (course.run events).stack.announces.Lists infoHash ⟨source.ip, 80⟩ 5 := by
    change (stack.accept 5 announce source).2.announces.Lists infoHash ⟨source.ip, 80⟩ 5
    rw [wired.announces_accept_request, Stack.reply, if_pos accepted]
    exact ⟨[(⟨source.ip, 80⟩, 5)], List.mem_cons_self, List.mem_cons_self⟩
  exact ⟨wired, empty, listed, (announces_authorised wired empty events).1 _ _ _ listed⟩

end ServiceCourse

end Kademlia
