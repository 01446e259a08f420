import Kademlia.Proofs.Host.Run

/-!
# The life of a host

Through all that a program does, a slot is absent or has a stack that is whole, no
two commands have the same number, and the stacks share one port unless the
program itself sets another.  A setup either makes its family active and returns
the commands of the new stack, or returns none.
-/

namespace Kademlia.Program

variable {program : Program} {host : Host} {family : Family}

/-- A setup returns commands exactly if it is what made the family active. -/
theorem setUpFamily_ne_nil_iff (running : program.host = some host) (family : Family) :
    (program.setUpFamily family).1 ≠ [] ↔
      host.slot family = .absent ∧
        ∃ stack, (program.setUpFamily family).2.2.stack? family = some stack := by
  by_cases absent : host.slot family = .absent
  · rw [and_iff_right absent]
    rcases setUpFamily_of_absent running absent with
      ⟨log, world, fails, -⟩ | ⟨stack, commands, log, after, succeeds, activated⟩
    · rw [fails]
      refine iff_of_false (fun filled => filled rfl) ?_
      rintro ⟨stack, active⟩
      change (host.slot family).stack? = _ at active
      rw [absent] at active
      cases active
    · rw [succeeds]
      exact iff_of_true activated.commands_ne_nil ⟨stack, activated.stack?_eq⟩
  · rw [setUpFamily_of_present running absent]
    exact iff_of_false (fun filled => filled rfl) fun both => absent both.1

/-- What a setup that returns commands comes to. -/
theorem activated_of_ne_nil (running : program.host = some host)
    (made : (program.setUpFamily family).1 ≠ []) :
    ∃ stack after, (program.setUpFamily family).2.2.host = some after.host ∧
      Site.Activated ⟨program.world, host⟩ family stack (program.setUpFamily family).1 after := by
  have absent := ((setUpFamily_ne_nil_iff running family).1 made).1
  rcases setUpFamily_of_absent running absent with
    ⟨log, world, fails, -⟩ | ⟨stack, commands, log, after, succeeds, activated⟩
  · rw [fails] at made
    exact absurd rfl made
  · rw [succeeds]
    exact ⟨stack, after, rfl, activated⟩

/-- Whatever a program did with its host, and whatever was done around it, each slot
is absent or has an active stack that is whole; as long as the program sets no port
itself, the active stacks share the host's.  No two of the commands made so far
have the same number.  A further setup does nothing if its number is no family's,
or if the slot is taken; it returns commands exactly if it made the absent slot
active; and then everything about the new stack, the host's port and the commands
is as `Site.Activated` says, and the port is not zero. -/
theorem setUp_lifecycle {world : World}
    (small : world.network.ephemeral < Network.ephemeralPorts) (config : Config)
    (events : List Event) :
    let made := ((start world config).run events).1
    let program := ((start world config).run events).2
    (made.map Command.cuid).Nodup ∧
      (∀ code, Family.ofCode? code = none → program.setUp code = ([], [], program)) ∧
      ∀ host, program.host = some host →
        host.Settled ∧
        ((∀ port, .setUdpPort port ∉ events) → host.SharesPort) ∧
        ∀ code family, Family.ofCode? code = some family →
          (host.slot family ≠ .absent → program.setUp code = ([], [], program)) ∧
          ((program.setUp code).1 ≠ [] ↔
            host.slot family = .absent ∧
              ∃ stack, (program.setUp code).2.2.stack? family = some stack) ∧
          ((program.setUp code).1 ≠ [] →
            ∃ stack after, (program.setUp code).2.2.host = some after.host ∧
              Site.Activated ⟨program.world, host⟩ family stack (program.setUp code).1 after ∧
              stack.connection.port ≠ 0) := by
  intro made program
  have begun := settled_start small config
  have settled : program.Settled := begun.run events
  have unshared : ∀ host, (start world config).host = some host → host.SharesPort := by
    intro host running family stack active
    cases running
    cases family with
    | ipv4 => cases active
    | ipv6 => cases active
  refine ⟨(begun.cuids_run rfl events).1, ?_, ?_⟩
  · intro code unknown
    exact setUp_of_unknown unknown program
  · intro host running
    refine ⟨settled.host host running, ?_, ?_⟩
    · intro unported
      exact begun.sharesPort_run unshared unported host running
    · intro code family known
      rw [setUp_of_code known]
      refine ⟨setUpFamily_of_present running, setUpFamily_ne_nil_iff running family, ?_⟩
      intro made
      obtain ⟨stack, after, becomes, activated⟩ := activated_of_ne_nil running made
      exact ⟨stack, after, becomes, activated, activated.port_ne_zero settled.ephemeral⟩

/-- The IPv4 family is set up, twice, and a number that is no family's; then the
IPv6 family is. -/
theorem setUp_lifecycle_both_families :
    let config : Config := ⟨[6881], 1000, ⟨"dht.dat", none, none⟩, ⟨"dht6.dat", none, none⟩⟩
    let world : World := ⟨0, 1700000000, ⟨1⟩, .empty, .empty, ⟨[]⟩, []⟩
    let events : List Event := [.setUp 2, .setUp 2, .setUp 7]
    let made := ((start world config).run events).1
    let program := ((start world config).run events).2
    world.network.ephemeral < Network.ephemeralPorts ∧ made.length = 5 ∧
      (made.map Command.cuid).Nodup ∧ program.setUp 7 = ([], [], program) ∧
      ∃ host, program.host = some host ∧ host.Settled ∧ host.SharesPort ∧
        program.setUp 2 = ([], [], program) ∧ (program.setUp 10).1 ≠ [] ∧
        ∃ stack after, (program.setUp 10).2.2.host = some after.host ∧
          Site.Activated ⟨program.world, host⟩ .ipv6 stack (program.setUp 10).1 after ∧
          stack.connection.port ≠ 0 := by
  intro config world events
  have small : world.network.ephemeral < Network.ephemeralPorts := by decide
  obtain ⟨distinct, unknown, always⟩ := setUp_lifecycle small config events
  have five : ((start world config).run events).1.length = 5 := by decide +kernel
  have later : (((start world config).run events).2.setUp 10).1 ≠ [] := by decide +kernel
  have alive : ((start world config).run events).2.host.isSome = true := by decide +kernel
  have taken : ((start world config).run events).2.host.map
      (fun host => (host.slot .ipv4).isAbsent) = some false := by decide +kernel
  have unported : ∀ port, .setUdpPort port ∉ events := by
    intro port
    simp only [events, List.mem_cons, List.not_mem_nil, reduceCtorEq, or_self, not_false_eq_true]
  -- from here on it does not matter which run it was
  generalize (start world config).run events = outcome at *
  intro made program
  obtain ⟨host, running⟩ := Option.isSome_iff_exists.1 alive
  obtain ⟨settled, shares, calls⟩ := always host running
  have present : host.slot .ipv4 ≠ .absent := by
    intro absent
    rw [running, Option.map_some, absent] at taken
    cases taken
  exact ⟨small, five, distinct, unknown 7 rfl, host, running, settled, shares unported,
    (calls 2 .ipv4 rfl).1 present, later, (calls 10 .ipv6 rfl).2.2 later⟩

end Kademlia.Program
