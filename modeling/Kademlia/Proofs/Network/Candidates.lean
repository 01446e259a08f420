import Kademlia.Proofs.Network.Binding

/-!
# Trying candidates for a port

Candidates are tried in their order, up to the first one that is free when its turn comes.
What was tried is logged and may have used up ephemeral ports; what is bound stays as it is,
but for the socket that is bound in the end.
-/

namespace Kademlia

namespace Network

variable {network : Network} {family : Family} {ip : Ip} {port : UInt16} {ports : List UInt16}

/-! ## What is taken -/

/-- A port is taken in a family when an address with it is bound, on whatever IP. -/
def Taken (network : Network) (family : Family) (port : UInt16) : Prop :=
  ∃ bound, network.isBound bound = true ∧ bound.family = family ∧ bound.port = port

theorem isBound_iff {address : Address} :
    network.isBound address = true ↔ ∃ channel, (address, channel) ∈ network.channels := by
  rw [isBound, channel?]
  constructor
  · intro bound
    obtain ⟨channel, found⟩ := Option.isSome_iff_exists.1 bound
    obtain ⟨before, after, parts, -⟩ := List.lookup_eq_some_iff.1 found
    exact ⟨channel, parts ▸ List.mem_append_right before List.mem_cons_self⟩
  · rintro ⟨channel, mem⟩
    rw [← Bool.not_eq_false, Option.isSome_eq_false_iff, Option.isNone_iff_eq_none]
    intro unbound
    exact bne_iff_ne.1 (List.lookup_eq_none_iff.1 unbound _ mem) rfl

theorem inUse_iff {address : Address} :
    network.inUse address = true ↔ network.Taken address.family address.port := by
  rw [inUse, List.any_eq_true]
  constructor
  · rintro ⟨⟨bound, channel⟩, mem, same⟩
    rw [Bool.and_eq_true, decide_eq_true_eq, decide_eq_true_eq] at same
    exact ⟨bound, isBound_iff.2 ⟨channel, mem⟩, same.2, same.1⟩
  · rintro ⟨bound, there, ofFamily, samePort⟩
    obtain ⟨channel, mem⟩ := isBound_iff.1 there
    refine ⟨(bound, channel), mem, ?_⟩
    rw [Bool.and_eq_true, decide_eq_true_eq, decide_eq_true_eq]
    exact ⟨samePort, ofFamily⟩

theorem taken_congr {before after : Network} (same : after.channels = before.channels) :
    after.Taken family port ↔ before.Taken family port := by
  simp only [Taken, isBound_iff, same]

/-! ## What is offered -/

/-- The number of the next ephemeral port once some more were asked for. -/
def nextEphemeral (network : Network) (asked : Nat) : Nat :=
  if asked = 0 then network.ephemeral else (network.ephemeral + asked) % ephemeralPorts

/-- The port that a candidate stands for when some candidates were tried before it: itself, or
the next ephemeral port. -/
def offer (network : Network) (earlier : List UInt16) (port : UInt16) : UInt16 :=
  if port = 0 then UInt16.ofNat (firstEphemeral + network.nextEphemeral (earlier.count 0))
  else port

/-- On a network that came about by binding, the ephemeral ports are given out in turn. -/
theorem nextEphemeral_eq (small : network.ephemeral < ephemeralPorts) (asked : Nat) :
    network.nextEphemeral asked = (network.ephemeral + asked) % ephemeralPorts := by
  unfold nextEphemeral
  split
  · rename_i unasked
    rw [unasked, Nat.add_zero, Nat.mod_eq_of_lt small]
  · rfl

theorem offer_of_ne_zero (given : port ≠ 0) (network : Network) (earlier : List UInt16) :
    network.offer earlier port = port :=
  if_neg given

/-- Candidates that were all taken when their turn came. -/
def AllTaken (network : Network) (family : Family) (ports : List UInt16) : Prop :=
  ∀ earlier port later, ports = earlier ++ port :: later →
    network.Taken family (network.offer earlier port)

/-- The first candidate that is free when its turn comes, behind some that are not. -/
structure FirstFree (network : Network) (family : Family) (ports earlier : List UInt16)
    (port : UInt16) : Prop where
  parts : ∃ later, ports = earlier ++ port :: later
  taken : network.AllTaken family earlier
  free : ¬ network.Taken family (network.offer earlier port)

/-! ## What was tried -/

/-- A network on which ports of an IP were tried in vain. -/
def attempting (network : Network) (ip : Ip) (tried : List UInt16) : Network :=
  { network with
    attempted := (tried.map (⟨ip, ·⟩)).reverse ++ network.attempted
    ephemeral := network.nextEphemeral (tried.count 0) }

theorem attempts_attempting (network : Network) (ip : Ip) (tried : List UInt16) :
    (network.attempting ip tried).attempts = network.attempts ++ tried.map (⟨ip, ·⟩) := by
  simp [attempting, attempts]

theorem nextEphemeral_attempting (network : Network) (ip : Ip) (tried : List UInt16)
    (asked : Nat) :
    (network.attempting ip tried).nextEphemeral asked =
      network.nextEphemeral (tried.count 0 + asked) := by
  by_cases unasked : asked = 0
  · rw [unasked]
    rfl
  · have asks : tried.count 0 + asked ≠ 0 := fun zero => unasked (Nat.eq_zero_of_add_eq_zero_left zero)
    rw [nextEphemeral, if_neg unasked, nextEphemeral, if_neg asks, ← Nat.add_assoc]
    change (network.nextEphemeral (tried.count 0) + asked) % ephemeralPorts = _
    unfold nextEphemeral
    split
    · rename_i zero
      rw [zero, Nat.add_zero]
    · exact Nat.mod_add_mod _ _ _

theorem offer_attempting (network : Network) (ip : Ip) (tried earlier : List UInt16)
    (port : UInt16) :
    (network.attempting ip tried).offer earlier port = network.offer (tried ++ earlier) port := by
  rw [offer, offer, nextEphemeral_attempting, List.count_append]

theorem attempting_attempting (network : Network) (ip : Ip) (tried more : List UInt16) :
    (network.attempting ip tried).attempting ip more = network.attempting ip (tried ++ more) := by
  have log : (more.map (⟨ip, ·⟩)).reverse ++ ((tried.map (⟨ip, ·⟩)).reverse ++ network.attempted) =
      ((tried ++ more).map (⟨ip, ·⟩)).reverse ++ network.attempted := by simp
  have counted := network.nextEphemeral_attempting ip tried (more.count 0)
  rw [← List.count_append] at counted
  rw [attempting, counted]
  exact congrArg (fun attempted => { network with
    attempted, ephemeral := network.nextEphemeral ((tried ++ more).count 0) }) log

theorem allTaken_nil : network.AllTaken family [] := by
  intro earlier port later parts
  simp at parts

/-- Candidates are all taken if the first one is, and the others are once it was tried. -/
theorem allTaken_cons_iff (ip : Ip) :
    network.AllTaken family (port :: ports) ↔
      network.Taken family (network.offer [] port) ∧
        (network.attempting ip [port]).AllTaken family ports := by
  have same : (network.attempting ip [port]).channels = network.channels := rfl
  constructor
  · intro all
    refine ⟨all [] port ports rfl, ?_⟩
    rintro earlier other later rfl
    rw [taken_congr same, offer_attempting]
    exact all (port :: earlier) other later rfl
  · rintro ⟨first, others⟩ earlier other later parts
    cases earlier with
    | nil =>
      obtain ⟨rfl, rfl⟩ := List.cons.inj parts
      exact first
    | cons own earlier =>
      obtain ⟨rfl, rfl⟩ := List.cons.inj parts
      have taken := others earlier other later rfl
      rwa [taken_congr same, offer_attempting] at taken

/-- Of some candidates a first one is free, or all are taken. -/
theorem allTaken_or_exists_firstFree (network : Network) (family : Family)
    (ports : List UInt16) :
    network.AllTaken family ports ∨ ∃ earlier port, network.FirstFree family ports earlier port := by
  induction ports generalizing network with
  | nil => exact .inl allTaken_nil
  | cons own ports ih =>
    let ip := Ip.unspecified family
    by_cases first : network.Taken family (network.offer [] own)
    · have same : (network.attempting ip [own]).channels = network.channels := rfl
      rcases ih (network.attempting ip [own]) with all | ⟨earlier, port, ⟨later, rfl⟩, taken, free⟩
      · exact .inl ((allTaken_cons_iff ip).2 ⟨first, all⟩)
      · rw [taken_congr same, offer_attempting] at free
        exact .inr ⟨own :: earlier, port, ⟨later, rfl⟩,
          (allTaken_cons_iff ip).2 ⟨first, taken⟩, free⟩
    · exact .inr ⟨[], own, ⟨ports, rfl⟩, allTaken_nil, first⟩

/-! ## One attempt -/

theorem resolve_eq (network : Network) (ip : Ip) (port : UInt16) :
    network.resolve ⟨ip, port⟩ =
      (⟨ip, network.offer [] port⟩,
        { network with ephemeral := network.nextEphemeral ([port].count 0) }) := by
  unfold resolve offer
  dsimp only
  split
  · rename_i zero
    subst zero
    rfl
  · rename_i given
    have uncounted : [port].count 0 = 0 := by simp [given]
    rw [uncounted]
    rfl

theorem bind_of_taken (taken : network.Taken ip.family (network.offer [] port)) :
    network.bind ⟨ip, port⟩ =
      (.error (.system .addressInUse), network.attempting ip [port]) := by
  have busy : (network.attempting ip [port]).inUse ⟨ip, network.offer [] port⟩ = true := by
    rw [inUse_iff, Address.family_mk_ofIp]
    exact taken
  unfold bind
  dsimp only
  rw [resolve_eq]
  exact if_pos busy

theorem bind_of_free (free : ¬ network.Taken ip.family (network.offer [] port)) :
    network.bind ⟨ip, port⟩ =
      (.ok ⟨ip, network.offer [] port⟩,
        (network.attempting ip [port]).acquire ⟨ip, network.offer [] port⟩) := by
  have unused : ¬ (network.attempting ip [port]).inUse ⟨ip, network.offer [] port⟩ = true := by
    rw [inUse_iff, Address.family_mk_ofIp]
    exact free
  unfold bind
  dsimp only
  rw [resolve_eq]
  exact if_neg unused

/-- A socket on a port that is free is bound next to all others. -/
theorem channels_acquire (free : ¬ network.Taken ip.family port) :
    (network.acquire ⟨ip, port⟩).channels = network.channels ++ [(⟨ip, port⟩, ⟨1, []⟩)] := by
  have unbound : ¬ network.isBound ⟨ip, port⟩ = true :=
    fun bound => free ⟨⟨ip, port⟩, bound, Address.family_mk_ofIp ip port, rfl⟩
  rw [acquire, if_neg unbound]

theorem attempted_acquire (network : Network) (address : Address) :
    (network.acquire address).attempted = network.attempted := by
  unfold acquire
  split
  · rfl
  · rfl

theorem attempted_release (network : Network) (address : Address) :
    (network.release address).attempted = network.attempted := by
  unfold release
  split
  · rfl
  · split
    · rfl
    · rfl

theorem attempted_clone {after : Network} {address : Address}
    (cloned : network.clone address = .ok after) : after.attempted = network.attempted := by
  unfold clone at cloned
  split at cloned
  · cases cloned
  · split at cloned
    · cases cloned
      exact network.attempted_acquire address
    · cases cloned
      rfl

end Network

namespace Connection

open Network

variable {network : Network} {family : Family} {ip : Option Ip} {port : UInt16}
  {ports : List UInt16}

/-! ## Candidates in their order -/

theorem bind_of_taken (ofFamily : (ip.getD (.unspecified family)).family = family)
    (taken : network.Taken family (network.offer [] port)) :
    bind network family ip port =
      (.error (.system .addressInUse),
        network.attempting (ip.getD (.unspecified family)) [port]) := by
  have sameFamily : (⟨ip.getD (.unspecified family), port⟩ : Address).family = family :=
    (Address.family_mk_ofIp _ port).trans ofFamily
  rw [← ofFamily] at taken
  rw [bind, if_pos sameFamily, Network.bind_of_taken taken]

theorem bind_of_free (ofFamily : (ip.getD (.unspecified family)).family = family)
    (free : ¬ network.Taken family (network.offer [] port)) :
    let bound : Address := ⟨ip.getD (.unspecified family), network.offer [] port⟩
    bind network family ip port =
      (.ok ⟨family, bound⟩,
        (network.attempting (ip.getD (.unspecified family)) [port]).acquire bound) := by
  have sameFamily : (⟨ip.getD (.unspecified family), port⟩ : Address).family = family :=
    (Address.family_mk_ofIp _ port).trans ofFamily
  rw [← ofFamily] at free
  rw [bind, if_pos sameFamily, Network.bind_of_free free]

/-- Candidates that are all taken are all tried, and nothing is bound. -/
theorem bindNext_of_allTaken (ofFamily : (ip.getD (.unspecified family)).family = family)
    (taken : network.AllTaken family ports) (tried : Nat) :
    bindNext family ip tried ports network =
      (.error (.portsExhausted (tried + ports.length)),
        network.attempting (ip.getD (.unspecified family)) ports) := by
  induction ports generalizing network tried with
  | nil => rfl
  | cons port ports ih =>
    obtain ⟨first, others⟩ := (allTaken_cons_iff (ip.getD (.unspecified family))).1 taken
    rw [bindNext, bind_of_taken ofFamily first]
    dsimp only
    rw [ih others (tried + 1), attempting_attempting, List.length_cons, Nat.add_right_comm,
      Nat.add_assoc]
    rfl

/-- The first candidate that is free is bound, once those before it were tried. -/
theorem bindNext_of_free (ofFamily : (ip.getD (.unspecified family)).family = family)
    {earlier : List UInt16} (taken : network.AllTaken family earlier)
    (free : ¬ network.Taken family (network.offer earlier port)) (tried : Nat)
    (later : List UInt16) :
    let bound : Address := ⟨ip.getD (.unspecified family), network.offer earlier port⟩
    bindNext family ip tried (earlier ++ port :: later) network =
      (.ok ⟨family, bound⟩,
        (network.attempting (ip.getD (.unspecified family)) (earlier ++ [port])).acquire bound) := by
  -- Trying a candidate may use up an ephemeral port, so the others are offered other ones.
  induction earlier generalizing network tried with
  | nil =>
    rw [List.nil_append, bindNext, bind_of_free ofFamily free]
    rfl
  | cons own earlier ih =>
    let ip := ip.getD (.unspecified family)
    obtain ⟨first, others⟩ := (allTaken_cons_iff ip).1 taken
    have offered := network.offer_attempting ip [own] earlier port
    have same : (network.attempting ip [own]).channels = network.channels := rfl
    have still : ¬ (network.attempting ip [own]).Taken family
        ((network.attempting ip [own]).offer earlier port) := by
      rw [taken_congr same, offered]
      exact free
    have rest := ih others still (tried + 1)
    rw [offered, attempting_attempting] at rest
    rw [List.cons_append, bindNext, bind_of_taken ofFamily first]
    exact rest

/-- With an IP of the other family the first candidate ends the row, before anything is
tried. -/
theorem bindNext_of_family_ne (foreign : (ip.getD (.unspecified family)).family ≠ family)
    (tried : Nat) (port : UInt16) (ports : List UInt16) (network : Network) :
    bindNext family ip tried (port :: ports) network =
      (.error (.unsupportedAddress ⟨ip.getD (.unspecified family), port⟩), network) := by
  rw [bindNext, bind_of_family_ne foreign]

end Connection

end Kademlia
