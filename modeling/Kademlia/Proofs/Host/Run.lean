import Kademlia.Program
import Kademlia.Proofs.Host.Activation
import Kademlia.Proofs.Host.Commands

/-!
# Whatever a program does

A program sets up families, executes and lets go of its commands, and meanwhile
other programs use the network and the files.  Each of its steps leaves the host
settled: its slots are absent or active, and an active stack is whole.
-/

namespace Kademlia

/-! ## Settled hosts -/

/-- A stack as a setup of a family makes it, and as it stays. -/
structure Stack.Sound (stack : Stack) (family : Family) : Prop where
  wired : stack.FullyWired
  family_eq : stack.family = family
  local_port : stack.localNode.port = stack.connection.port
  port_ne_zero : stack.connection.port ≠ 0

theorem Stack.Persists.sound {before after : Stack} {family : Family}
    (persists : before.Persists after) (sound : before.Sound family) : after.Sound family := by
  refine ⟨persists.fullyWired sound.wired, persists.family.trans sound.family_eq, ?_, ?_⟩
  · rw [persists.localNode, persists.connection]
    exact sound.local_port
  · rw [persists.connection]
    exact sound.port_ne_zero

namespace Host

/-- What can become of a host, with the commands that it numbered. -/
inductive Evolves (host : Host) : List Command → Host → Prop
  | same : Evolves host [] host
  | activated {family : Family} {stack : Stack} {commands : List Command} {world : World}
      {after : Site} (small : world.network.ephemeral < Network.ephemeralPorts)
      (absent : host.slot family = .absent)
      (activated : Site.Activated ⟨world, host⟩ family stack commands after) :
      Evolves host commands after.host
  | worked {family : Family} {stack worked : Stack} (active : host.slot family = .active stack)
      (persists : stack.Persists worked) :
      Evolves host [] (host.setStack family worked)
  | counted {commands : List Command} (few : commands.length ≤ 1)
      (cuids : commands.map Command.cuid = List.range' host.nextCuid commands.length) :
      Evolves host commands { host with nextCuid := host.nextCuid + 1 }
  | served (client : Option ClientHandle) : Evolves host [] { host with client }

variable {host after : Host} {family : Family} {stack : Stack} {commands : List Command}

theorem slot_setSlot_of_ne {other : Family} (different : other ≠ family) (host : Host)
    (slot : Slot) : (host.setSlot slot family).slot other = host.slot other := by
  cases family with
  | ipv4 =>
    cases other with
    | ipv4 => exact absurd rfl different
    | ipv6 => rfl
  | ipv6 =>
    cases other with
    | ipv4 => rfl
    | ipv6 => exact absurd rfl different

/-- Between setups no stack is staged, and every stack is sound. -/
def Settled (host : Host) : Prop :=
  ∀ family, host.slot family = .absent ∨
    ∃ stack, host.slot family = .active stack ∧ stack.Sound family

/-- All active stacks are on the host's port. -/
def SharesPort (host : Host) : Prop :=
  ∀ family stack, host.slot family = .active stack → stack.connection.port = host.udpPort

theorem Settled.sound (settled : host.Settled) (active : host.slot family = .active stack) :
    stack.Sound family := by
  rcases settled family with absent | ⟨other, same, sound⟩
  · rw [absent] at active
    cases active
  · rw [same] at active
    cases active
    exact sound

namespace Evolves

/-- A stack that worked is in its slot again, and the other slot is as it was. -/
theorem slot_setStack {worked : Stack} (active : host.slot family = .active stack)
    (other : Family) :
    (host.setStack family worked).slot other =
      if other = family then .active worked else host.slot other := by
  rw [setStack, active]
  by_cases same : other = family
  · rw [if_pos same, same, slot_setSlot]
    rfl
  · rw [if_neg same, slot_setSlot_of_ne same]

theorem settled (evolves : host.Evolves commands after) (settled : host.Settled) :
    after.Settled := by
  cases evolves with
  | same => exact settled
  | @activated family stack _ world after small absent activated =>
    intro other
    by_cases same : other = family
    · rw [same]
      exact .inr ⟨stack, activated.slot, activated.wired, activated.stack_family,
        activated.local_port, activated.port_ne_zero small⟩
    · rw [activated.other other same]
      exact settled other
  | @worked family stack worked active persists =>
    intro other
    rw [slot_setStack active]
    by_cases same : other = family
    · rw [if_pos same, same]
      exact .inr ⟨worked, rfl, persists.sound (settled.sound active)⟩
    · rw [if_neg same]
      exact settled other
  | counted few cuids => exact settled
  | served client => exact settled

/-- A host whose stacks share its port goes on so. -/
theorem sharesPort (evolves : host.Evolves commands after) (settled : host.Settled)
    (shares : host.SharesPort) : after.SharesPort := by
  cases evolves with
  | same => exact shares
  | @activated family stack _ world after small absent activated =>
    intro other held active
    by_cases same : other = family
    · rw [same, activated.slot] at active
      cases active
      exact activated.host_port.symm
    · rw [activated.other other same] at active
      have port := shares other held active
      -- the host already had a port, since the other stack is on it
      rcases activated.shared_port with unset | kept
      · exact absurd (port.trans unset) (settled.sound active).port_ne_zero
      · exact (port.trans kept).trans activated.host_port.symm
  | @worked family stack worked active persists =>
    intro other held there
    rw [slot_setStack active] at there
    have port : (host.setStack family worked).udpPort = host.udpPort := by
      cases family <;> rfl
    rw [port]
    by_cases same : other = family
    · rw [if_pos same] at there
      cases there
      rw [persists.connection]
      exact shares family stack active
    · rw [if_neg same] at there
      exact shares other held there
  | counted few cuids => exact shares
  | served client => exact shares

/-- Commands get the numbers that come next. -/
theorem cuids (evolves : host.Evolves commands after) :
    commands.map Command.cuid = List.range' host.nextCuid commands.length ∧
      host.nextCuid + commands.length ≤ after.nextCuid := by
  cases evolves with
  | same => exact ⟨rfl, Nat.le_refl _⟩
  | activated small absent activated =>
    exact ⟨activated.cuids_eq, Nat.le_of_eq activated.nextCuid.symm⟩
  | @worked family stack worked active persists =>
    refine ⟨rfl, Nat.le_of_eq ?_⟩
    cases family <;> rfl
  | counted few cuids => exact ⟨cuids, Nat.add_le_add_left few host.nextCuid⟩
  | served client => exact ⟨rfl, Nat.le_refl _⟩

end Evolves

end Host

/-! ## The steps of a program -/

namespace Program

/-- What a program does, and what is done around it. -/
inductive Event
  | setUp (code : Int)
  | setUpFamily (family : Family)
  | setUdpPort (port : UInt16)
  | newCuid
  | addCommand (family : Family) (action : Stack → Action)
  | makeClient
  | clearClient
  | execute (cuid : Nat)
  | shutDown (cuid : Nat)
  | dropCommands
  | dropHost
  | advance (milliseconds : Nat)
  | writeFiles (disk : Disk)
  | occupy (address : Address)
  | vacate (address : Address)
  | refuseClones (refuses : Bool)
  | deliver (source destination : Address) (bytes : Bytes)
  | take (address : Address)

/-- A program with its host changed, if it still has one. -/
def withHost (program : Program) (change : Host → Host) : Program :=
  { program with host := program.host.map change }

/-- A program with its network changed. -/
def withNetwork (program : Program) (network : Network) : Program :=
  { program with world := { program.world with network } }

/-- The commands that an event makes, and the program after it. -/
def step (program : Program) : Event → List Command × Program
  | .setUp code =>
      let (commands, _, program) := program.setUp code
      (commands, program)
  | .setUpFamily family =>
      let (commands, _, program) := program.setUpFamily family
      (commands, program)
  | .setUdpPort port => ([], program.withHost fun host => { host with udpPort := port })
  | .newCuid => ([], program.withHost fun host => host.newCuid.2)
  | .addCommand family action =>
      match program.host with
      | none => ([], program)
      | some host =>
          match program.addCommand host family action with
          | (some (.ok command), program) => ([command], program)
          | (_, program) => ([], program)
  | .makeClient =>
      let (client, world) := program.world.makeClient
      ([], { program with world }.withHost fun host => { host with client := some client })
  | .clearClient => ([], program.withHost fun host => { host with client := none })
  | .execute cuid =>
      match program.command? cuid with
      | none => ([], program)
      | some command => ([], (program.execute command).2.2)
  | .shutDown cuid =>
      match program.command? cuid with
      | none => ([], program)
      | some command => ([], (program.shutDown command).2.2)
  | .dropCommands => ([], program.dropCommands)
  | .dropHost => ([], program.dropHost)
  | .advance milliseconds => ([], { program with world := program.world.advance milliseconds })
  | .writeFiles disk => ([], { program with world := { program.world with disk } })
  | .occupy address => ([], program.withNetwork (program.world.network.acquire address))
  | .vacate address => ([], program.withNetwork (program.world.network.release address))
  | .refuseClones refuses =>
      ([], program.withNetwork { program.world.network with refusesClones := refuses })
  | .deliver source destination bytes =>
      ([], program.withNetwork (program.world.network.deliver source destination bytes))
  | .take address => ([], program.withNetwork (program.world.network.take address).2)

/-- The commands that some events make in order, and the program after them. -/
def run : List Event → Program → List Command × Program
  | [], program => ([], program)
  | event :: events, program =>
      let (first, program) := program.step event
      let (more, program) := run events program
      (first ++ more, program)

variable {program : Program} {host : Host} {family : Family}

/-! ## Setting up -/

theorem setUpFamily_eq (running : program.host = some host) (family : Family) :
    program.setUpFamily family =
      (((⟨program.world, host⟩ : Site).setUpFamily family).1,
        ((⟨program.world, host⟩ : Site).setUpFamily family).2.1,
        ⟨((⟨program.world, host⟩ : Site).setUpFamily family).2.2.world,
          some ((⟨program.world, host⟩ : Site).setUpFamily family).2.2.host,
          program.commands ++ ((⟨program.world, host⟩ : Site).setUpFamily family).1⟩) := by
  rw [setUpFamily, setUpBy, running]

/-- A setup of a slot that is taken does nothing. -/
theorem setUpFamily_of_present (running : program.host = some host)
    (present : host.slot family ≠ .absent) : program.setUpFamily family = ([], [], program) := by
  rw [setUpFamily_eq running, Site.setUpFamily_of_not_absent present, List.append_nil, ← running]

/-- A setup of an absent slot makes a stack active there and keeps the commands for
it, or leaves the host and the commands as they were. -/
theorem setUpFamily_of_absent (running : program.host = some host)
    (absent : host.slot family = .absent) :
    (∃ log world, program.setUpFamily family = ([], log, ⟨world, some host, program.commands⟩) ∧
      program.world.Undisturbed world) ∨
    ∃ stack commands log after,
      program.setUpFamily family =
        (commands, log, ⟨after.world, some after.host, program.commands ++ commands⟩) ∧
      Site.Activated ⟨program.world, host⟩ family stack commands after := by
  have absent : (⟨program.world, host⟩ : Site).host.slot family = .absent := absent
  rw [setUpFamily_eq running]
  rcases Site.setUpFamily_outcome absent with
    ⟨log, after, fails, same, undisturbed⟩ | ⟨stack, commands, log, after, succeeds, activated⟩
  · rw [fails]
    dsimp only
    rw [same, List.append_nil]
    exact .inl ⟨log, after.world, rfl, undisturbed⟩
  · rw [succeeds]
    exact .inr ⟨stack, commands, log, after, rfl, activated⟩

/-- A setup of the family with a number is a setup of that family. -/
theorem setUp_of_code {code : Int} (known : Family.ofCode? code = some family)
    (program : Program) : program.setUp code = program.setUpFamily family := by
  rw [setUp, setUpFamily, setUpBy, setUpBy]
  cases program.host with
  | none => rfl
  | some host =>
    dsimp only
    rw [Site.setUp, known]

/-- A setup of a number that is no family's does nothing. -/
theorem setUp_of_unknown {code : Int} (unknown : Family.ofCode? code = none)
    (program : Program) : program.setUp code = ([], [], program) := by
  rw [setUp, setUpBy]
  cases running : program.host with
  | none => rfl
  | some host =>
    dsimp only
    rw [Site.setUp, unknown]
    dsimp only
    rw [List.append_nil, ← running]

/-- What becomes of a host by a setup of a family. -/
theorem evolves_setUpFamily (running : program.host = some host)
    (small : program.world.network.ephemeral < Network.ephemeralPorts) (family : Family) :
    ∃ after, (program.setUpFamily family).2.2.host = some after ∧
      host.Evolves (program.setUpFamily family).1 after := by
  by_cases absent : host.slot family = .absent
  · rcases setUpFamily_of_absent running absent with
      ⟨log, world, fails, -⟩ | ⟨stack, commands, log, after, succeeds, activated⟩
    · rw [fails]
      exact ⟨host, rfl, .same⟩
    · rw [succeeds]
      exact ⟨after.host, rfl, .activated small absent activated⟩
  · rw [setUpFamily_of_present running absent]
    exact ⟨host, running, .same⟩

theorem ephemeral_setUpFamily
    (small : program.world.network.ephemeral < Network.ephemeralPorts) (family : Family) :
    (program.setUpFamily family).2.2.world.network.ephemeral < Network.ephemeralPorts := by
  cases running : program.host with
  | none =>
    rw [setUpFamily, setUpBy, running]
    exact small
  | some host =>
    by_cases absent : host.slot family = .absent
    · rcases setUpFamily_of_absent running absent with
        ⟨log, world, fails, undisturbed⟩ | ⟨stack, commands, log, after, succeeds, activated⟩
      · rw [fails]
        exact undisturbed.network.ephemeral small
      · rw [succeeds]
        exact activated.ephemeral small
    · rw [setUpFamily_of_present running absent]
      exact small

/-! ## Executing commands -/

theorem slot_of_stack? {stack : Stack} (running : program.host = some host)
    (there : program.stack? family = some stack) : host.slot family = .active stack := by
  rw [stack?, running] at there
  change (host.slot family).stack? = some stack at there
  cases slot : host.slot family with
  | absent =>
    rw [slot] at there
    cases there
  | activating other =>
    rw [slot] at there
    cases there
  | active other =>
    rw [slot] at there
    cases there
    rfl

/-- What a command does leaves a host with a stack that is the node it was. -/
theorem evolves_runBy (running : program.host = some host) (command : Command)
    {way : Action → World → Stack → Execution}
    (keeps : ∀ world stack, (way command.action world stack).Keeps world stack) :
    ∃ after, (program.runBy command way).2.2.host = some after ∧ host.Evolves [] after := by
  cases there : program.stack? command.family with
  | none =>
    rw [runBy, there]
    exact ⟨host, running, .same⟩
  | some stack =>
    rw [runBy, there]
    refine ⟨_, ?_, .worked (slot_of_stack? running there) (keeps program.world stack).stack⟩
    change program.host.map _ = _
    rw [running]
    rfl

theorem ephemeral_runBy (program : Program) (command : Command)
    {way : Action → World → Stack → Execution}
    (keeps : ∀ world stack, (way command.action world stack).Keeps world stack) :
    (program.runBy command way).2.2.world.network.ephemeral =
      program.world.network.ephemeral := by
  cases there : program.stack? command.family with
  | none => rw [runBy, there]
  | some stack =>
    rw [runBy, there]
    exact (keeps program.world stack).network.ephemeral

/-! ## One step -/

/-- Making a command takes one number, whether or not the command can be made. -/
theorem addCommand_outcome (program : Program) (host : Host) (family : Family)
    (action : Stack → Action) :
    (∃ outcome, (∀ command, outcome ≠ some (.ok command)) ∧
      program.addCommand host family action =
        (outcome, { program with host := some host.newCuid.2 })) ∨
    ∃ command network, command.cuid = host.nextCuid ∧
      network.ephemeral = program.world.network.ephemeral ∧
      program.addCommand host family action =
        (some (.ok command),
          ⟨{ program.world with network }, some host.newCuid.2, program.commands ++ [command]⟩) := by
  unfold addCommand
  dsimp only [Host.newCuid]
  split
  · exact .inl ⟨none, nofun, rfl⟩
  · rename_i stack there
    split
    · rename_i error refused
      exact .inl ⟨some (.error error), nofun, rfl⟩
    · rename_i network opened
      refine .inr ⟨⟨host.nextCuid, family, action stack⟩, network, rfl, ?_, rfl⟩
      split at opened
      · exact Network.ephemeral_clone opened
      · cases opened
        rfl

theorem evolves_addCommand (running : program.host = some host) (family : Family)
    (action : Stack → Action) :
    (∃ after, (program.step (.addCommand family action)).2.host = some after ∧
      host.Evolves (program.step (.addCommand family action)).1 after) ∧
    (program.step (.addCommand family action)).2.world.network.ephemeral =
      program.world.network.ephemeral := by
  have counted : host.Evolves [] host.newCuid.2 := .counted (Nat.zero_le 1) rfl
  rw [step]
  split
  · rename_i dropped
    rw [running] at dropped
    cases dropped
  · rename_i other same
    obtain rfl : host = other := Option.some.inj (running.symm.trans same)
    rcases program.addCommand_outcome host family action with
      ⟨outcome, failed, comes⟩ | ⟨command, network, number, counter, comes⟩
    · rw [comes]
      split
      · rename_i command after same
        exact absurd (congrArg Prod.fst same) (failed command)
      · rename_i same
        cases same
        exact ⟨⟨_, rfl, counted⟩, rfl⟩
    · rw [comes]
      refine ⟨⟨_, rfl, .counted (Nat.le_refl 1) ?_⟩, counter⟩
      exact congrArg (fun cuid => [cuid]) number

/-- Letting go of handles leaves the ephemeral ports as they are. -/
theorem ephemeral_releaseAll (addresses : List Address) (network : Network) :
    (addresses.foldl Network.release network).ephemeral = network.ephemeral := by
  induction addresses generalizing network with
  | nil => rfl
  | cons address addresses ih => exact (ih _).trans (network.ephemeral_release address)

/-- What becomes of a host by a step, unless it is dropped or told another port. -/
theorem evolves_step (running : program.host = some host)
    (small : program.world.network.ephemeral < Network.ephemeralPorts) {event : Event}
    (kept : event ≠ .dropHost) (unported : ∀ port, event ≠ .setUdpPort port) :
    ∃ after, (program.step event).2.host = some after ∧
      host.Evolves (program.step event).1 after := by
  cases event with
  | setUp code =>
    cases known : Family.ofCode? code with
    | none =>
      rw [step, setUp_of_unknown known]
      exact ⟨host, running, .same⟩
    | some family =>
      rw [step, setUp_of_code known]
      exact evolves_setUpFamily running small family
  | setUpFamily family => exact evolves_setUpFamily running small family
  | setUdpPort port => exact absurd rfl (unported port)
  | newCuid =>
    refine ⟨host.newCuid.2, ?_, .counted (Nat.zero_le 1) rfl⟩
    rw [step, withHost, running]
    rfl
  | addCommand family action => exact (evolves_addCommand running family action).1
  | makeClient =>
    refine ⟨_, ?_, .served (some program.world.clients.length)⟩
    change program.host.map _ = _
    rw [running]
    rfl
  | clearClient =>
    refine ⟨_, ?_, .served none⟩
    rw [step, withHost, running]
    rfl
  | execute cuid =>
    rw [step]
    split
    · exact ⟨host, running, .same⟩
    · rename_i command found
      exact evolves_runBy running command fun world stack =>
        command.action.keeps_execute world stack
  | shutDown cuid =>
    rw [step]
    split
    · exact ⟨host, running, .same⟩
    · rename_i command found
      exact evolves_runBy running command fun world stack =>
        command.action.keeps_shutDown world stack
  | dropHost => exact absurd rfl kept
  | dropCommands => exact ⟨host, running, .same⟩
  | advance milliseconds => exact ⟨host, running, .same⟩
  | writeFiles disk => exact ⟨host, running, .same⟩
  | occupy address => exact ⟨host, running, .same⟩
  | vacate address => exact ⟨host, running, .same⟩
  | refuseClones refuses => exact ⟨host, running, .same⟩
  | deliver source destination bytes => exact ⟨host, running, .same⟩
  | take address => exact ⟨host, running, .same⟩

/-- A host evolves, or is told another port, or is dropped. -/
theorem step_outcome (running : program.host = some host)
    (small : program.world.network.ephemeral < Network.ephemeralPorts) (event : Event) :
    (∃ after, (program.step event).2.host = some after ∧
      host.Evolves (program.step event).1 after) ∨
    (∃ port, event = .setUdpPort port ∧ (program.step event).1 = [] ∧
      (program.step event).2.host = some { host with udpPort := port }) ∨
    (program.step event).1 = [] ∧ (program.step event).2.host = none := by
  by_cases dropped : event = .dropHost
  · subst dropped
    refine .inr (.inr ⟨rfl, ?_⟩)
    rw [step, dropHost, running]
  · by_cases ported : ∃ port, event = .setUdpPort port
    · obtain ⟨port, rfl⟩ := ported
      refine .inr (.inl ⟨port, rfl, rfl, ?_⟩)
      rw [step, withHost, running]
      rfl
    · exact .inl (evolves_step running small dropped fun port same => ported ⟨port, same⟩)

/-- Without its host a program makes no commands, and does not get it back. -/
theorem step_of_dropped (dropped : program.host = none) (event : Event) :
    (program.step event).1 = [] ∧ (program.step event).2.host = none := by
  have unset (way : Site → List Command × List Notice × Site) :
      program.setUpBy way = ([], [], program) := by
    rw [setUpBy, dropped]
  have idle (command : Command) (way : Action → World → Stack → Execution) :
      program.runBy command way = (.ok (), [], program) := by
    rw [runBy, stack?, dropped]
    rfl
  have still (change : Host → Host) : (program.withHost change).host = none := by
    rw [withHost, dropped]
    rfl
  cases event with
  | setUp code =>
    rw [step, setUp, unset]
    exact ⟨rfl, dropped⟩
  | setUpFamily family =>
    rw [step, setUpFamily, unset]
    exact ⟨rfl, dropped⟩
  | setUdpPort port => exact ⟨rfl, still _⟩
  | newCuid => exact ⟨rfl, still _⟩
  | addCommand family action =>
    rw [step, dropped]
    exact ⟨rfl, dropped⟩
  | makeClient =>
    refine ⟨rfl, ?_⟩
    change program.host.map _ = _
    rw [dropped]
    rfl
  | clearClient => exact ⟨rfl, still _⟩
  | execute cuid =>
    rw [step]
    split
    · exact ⟨rfl, dropped⟩
    · rw [execute, idle]
      exact ⟨rfl, dropped⟩
  | shutDown cuid =>
    rw [step]
    split
    · exact ⟨rfl, dropped⟩
    · rw [shutDown, idle]
      exact ⟨rfl, dropped⟩
  | dropHost =>
    rw [step, dropHost, dropped]
    exact ⟨rfl, dropped⟩
  | _ => exact ⟨rfl, dropped⟩

/-- The ephemeral ports stay in their range. -/
theorem ephemeral_step (small : program.world.network.ephemeral < Network.ephemeralPorts)
    (event : Event) :
    (program.step event).2.world.network.ephemeral < Network.ephemeralPorts := by
  cases event with
  | setUp code =>
    cases known : Family.ofCode? code with
    | none =>
      rw [step, setUp_of_unknown known]
      exact small
    | some family =>
      rw [step, setUp_of_code known]
      exact ephemeral_setUpFamily small family
  | setUpFamily family => exact ephemeral_setUpFamily small family
  | addCommand family action =>
    cases running : program.host with
    | none =>
      rw [step, running]
      exact small
    | some host =>
      rw [(evolves_addCommand running family action).2]
      exact small
  | execute cuid =>
    rw [step]
    split
    · exact small
    · rename_i command found
      have same := program.ephemeral_runBy command fun world stack =>
        command.action.keeps_execute world stack
      exact Nat.lt_of_le_of_lt (Nat.le_of_eq same) small
  | shutDown cuid =>
    rw [step]
    split
    · exact small
    · rename_i command found
      have same := program.ephemeral_runBy command fun world stack =>
        command.action.keeps_shutDown world stack
      exact Nat.lt_of_le_of_lt (Nat.le_of_eq same) small
  | dropCommands =>
    rw [step, dropCommands]
    dsimp only
    rw [ephemeral_releaseAll]
    exact small
  | dropHost =>
    rw [step, dropHost]
    split
    · exact small
    · dsimp only
      rw [ephemeral_releaseAll]
      exact small
  | occupy address =>
    rw [step, withNetwork]
    dsimp only
    rw [Network.ephemeral_acquire]
    exact small
  | vacate address =>
    rw [step, withNetwork]
    dsimp only
    rw [Network.ephemeral_release]
    exact small
  | _ => exact small

/-! ## Whole runs -/

/-- A program whose host, if it still has one, is settled. -/
structure Settled (program : Program) : Prop where
  ephemeral : program.world.network.ephemeral < Network.ephemeralPorts
  host : ∀ host, program.host = some host → host.Settled

theorem settled_start {world : World} (small : world.network.ephemeral < Network.ephemeralPorts)
    (config : Config) : (start world config).Settled := by
  refine ⟨small, ?_⟩
  intro host running family
  cases running
  cases family with
  | ipv4 => exact .inl rfl
  | ipv6 => exact .inl rfl

theorem Settled.step (settled : program.Settled) (event : Event) :
    (program.step event).2.Settled := by
  refine ⟨ephemeral_step settled.ephemeral event, ?_⟩
  intro after becomes
  cases running : program.host with
  | none =>
    rw [(step_of_dropped running event).2] at becomes
    cases becomes
  | some host =>
    have before := settled.host host running
    rcases step_outcome running settled.ephemeral event with
      ⟨other, same, evolves⟩ | ⟨port, -, -, same⟩ | ⟨-, same⟩
    · rw [same] at becomes
      cases becomes
      exact evolves.settled before
    · rw [same] at becomes
      cases becomes
      exact before
    · rw [same] at becomes
      cases becomes

theorem Settled.run (settled : program.Settled) (events : List Event) :
    (program.run events).2.Settled := by
  induction events generalizing program with
  | nil => exact settled
  | cons event events ih => exact ih (settled.step event)

theorem Settled.sharesPort_step (settled : program.Settled)
    (shares : ∀ host, program.host = some host → host.SharesPort) {event : Event}
    (unported : ∀ port, event ≠ .setUdpPort port) {after : Host}
    (becomes : (program.step event).2.host = some after) : after.SharesPort := by
  cases running : program.host with
  | none =>
    rw [(step_of_dropped running event).2] at becomes
    cases becomes
  | some host =>
    rcases step_outcome running settled.ephemeral event with
      ⟨other, same, evolves⟩ | ⟨port, ported, -⟩ | ⟨-, same⟩
    · rw [same] at becomes
      cases becomes
      exact evolves.sharesPort (settled.host host running) (shares host running)
    · exact absurd ported (unported port)
    · rw [same] at becomes
      cases becomes

/-- As long as the host is not told another port, its stacks share one. -/
theorem Settled.sharesPort_run (settled : program.Settled)
    (shares : ∀ host, program.host = some host → host.SharesPort) {events : List Event}
    (unported : ∀ port, .setUdpPort port ∉ events) :
    ∀ host, (program.run events).2.host = some host → host.SharesPort := by
  induction events generalizing program with
  | nil => exact shares
  | cons event events ih =>
    have unported_first (port : UInt16) : event ≠ .setUdpPort port := by
      rintro rfl
      exact unported port List.mem_cons_self
    have unported_later (port : UInt16) : .setUdpPort port ∉ events := fun mem =>
      unported port (List.mem_cons_of_mem event mem)
    exact ih (settled.step event)
      (fun after becomes => settled.sharesPort_step shares unported_first becomes) unported_later

theorem run_of_dropped (dropped : program.host = none) (events : List Event) :
    (program.run events).1 = [] := by
  induction events generalizing program with
  | nil => rfl
  | cons event events ih =>
    obtain ⟨silent, still⟩ := step_of_dropped dropped event
    change (program.step event).1 ++ ((program.step event).2.run events).1 = []
    rw [silent, ih still, List.append_nil]

/-- The commands that are made have numbers of their own, from the host's next one
on. -/
theorem Settled.cuids_run (settled : program.Settled) (running : program.host = some host)
    (events : List Event) :
    ((program.run events).1.map Command.cuid).Nodup ∧
      ∀ command ∈ (program.run events).1, host.nextCuid ≤ command.cuid := by
  induction events generalizing program host with
  | nil => exact ⟨List.nodup_nil, nofun⟩
  | cons event events ih =>
    change (((program.step event).1 ++ ((program.step event).2.run events).1).map _).Nodup ∧
      ∀ command ∈ (program.step event).1 ++ ((program.step event).2.run events).1, _
    rcases step_outcome running settled.ephemeral event with
      ⟨after, becomes, evolves⟩ | ⟨port, -, silent, becomes⟩ | ⟨silent, dropped⟩
    · obtain ⟨distinct, above⟩ := ih (settled.step event) becomes
      obtain ⟨numbers, next⟩ := evolves.cuids
      have within : ∀ command ∈ (program.step event).1,
          host.nextCuid ≤ command.cuid ∧ command.cuid < after.nextCuid := by
        intro command mem
        have listed : command.cuid ∈ (program.step event).1.map Command.cuid :=
          List.mem_map_of_mem mem
        rw [numbers, List.mem_range'_1] at listed
        exact ⟨listed.1, Nat.lt_of_lt_of_le listed.2 next⟩
      constructor
      · rw [List.map_append, List.nodup_append]
        refine ⟨numbers ▸ List.nodup_range', distinct, ?_⟩
        intro cuid mem later mem'
        obtain ⟨command, made, rfl⟩ := List.mem_map.1 mem
        obtain ⟨other, made', rfl⟩ := List.mem_map.1 mem'
        exact Nat.ne_of_lt (Nat.lt_of_lt_of_le (within command made).2 (above other made'))
      · intro command mem
        rcases List.mem_append.1 mem with made | later
        · exact (within command made).1
        · exact Nat.le_trans (Nat.le_trans (Nat.le_add_right _ _) next) (above command later)
    · obtain ⟨distinct, above⟩ := ih (settled.step event) becomes
      rw [silent]
      exact ⟨distinct, above⟩
    · rw [silent, run_of_dropped dropped]
      exact ⟨List.nodup_nil, nofun⟩

end Program

end Kademlia
