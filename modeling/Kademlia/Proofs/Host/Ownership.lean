import Kademlia.Ownership
import Kademlia.Proofs.Host.Links
import Kademlia.Proofs.Host.Run

/-!
# What keeps what alive

The parts of a stack are alive as long as their host is, since only the host owns them.  The
commands, the tasks and the parts themselves have links to them, and once the host is gone
none of these gives anything any more.  A socket may outlive the host, by the handles that
commands have.
-/

namespace Kademlia

theorem Part.mem_all (part : Part) : part ∈ Part.all := by
  cases part <;> decide

/-- The addresses of the sockets of a host's stacks. -/
def Host.sockets (host : Host) : List Address :=
  Family.all.filterMap fun family => (host.slot family).content?.map (·.connection.localAddress)

/-- The number of a command, and the address that it has a handle to. -/
def Command.tag (command : Command) : Nat × Option Address :=
  (command.cuid, command.action.readiness?)

theorem Action.readiness?_finished (action : Action) :
    action.finished.readiness? = action.readiness? := by
  cases action <;> rfl

namespace Program

variable {program : Program} {family : Family} {part : Part} {owner thing : Thing}
  {command : Command} {address : Address}

/-- The addresses that the connections of stacks and the commands have handles to. -/
def sockets (program : Program) : List Address :=
  (program.host.map Host.sockets).getD [] ++ program.commands.filterMap (·.action.readiness?)

/-! ## Owners -/

theorem eq_of_finds {other : Part} (found : program.finds family other = some part) :
    other = part := by
  obtain ⟨stack, -, own⟩ := Option.bind_eq_some_iff.1 found
  rw [Stack.owned] at own
  split at own
  · exact Option.some.inj own
  · cases own

/-- Only the host owns parts. -/
theorem owns_part_iff :
    .part family part ∈ program.owns owner ↔
      owner = .host ∧ program.finds family part = some part := by
  cases owner with
  | host =>
    rw [owns, List.mem_append, List.mem_flatMap, and_iff_right rfl]
    constructor
    · rintro (⟨other, -, mem⟩ | mem)
      · obtain ⟨own, listed, same⟩ := List.mem_map.1 mem
        obtain ⟨asked, -, found⟩ := List.mem_filterMap.1 listed
        obtain rfl := eq_of_finds found
        cases same
        exact found
      · simp at mem
    · intro found
      have listed : part ∈ Part.all.filterMap (program.finds family) :=
        List.mem_filterMap.2 ⟨part, part.mem_all, found⟩
      exact .inl ⟨family, by cases family <;> decide, List.mem_map_of_mem listed⟩
  | command command => simp [owns]
  | part other own => cases own <;> simp [owns]
  | task other task => simp [owns]
  | socket address => simp [owns]
  | client handle => simp [owns]

/-- Commands and connections own handles to sockets. -/
theorem owns_socket_iff :
    .socket address ∈ program.owns owner ↔
      (∃ command, owner = .command command ∧ command.action.readiness? = some address) ∨
        ∃ family stack, owner = .part family .connection ∧
          program.content? family = some stack ∧ stack.connection.localAddress = address := by
  cases owner with
  | host => simp [owns]
  | command command => simp [owns]
  | part other own => cases own <;> simp [owns]
  | task other task => simp [owns]
  | socket address => simp [owns]
  | client handle => simp [owns]

theorem not_owns_command : .command command ∉ program.owns owner := by
  cases owner with
  | part other own => cases own <;> simp [owns]
  | _ => simp [owns]

/-! ## What is alive -/

theorem alive_command_iff : program.Alive (.command command) ↔ command ∈ program.commands := by
  constructor
  · intro alive
    cases alive with
    | command kept => exact kept
    | owned alive owns => exact absurd owns not_owns_command
  · exact .command

/-- Parts are there exactly as long as their host has them. -/
theorem alive_part_iff :
    program.Alive (.part family part) ↔ program.finds family part = some part := by
  constructor
  · intro alive
    cases alive with
    | owned alive owns => exact (owns_part_iff.1 owns).2
  · intro found
    refine .owned (.host ?_) (owns_part_iff.2 ⟨rfl, found⟩)
    cases running : program.host with
    | none =>
      rw [finds, content?, running] at found
      cases found
    | some host => rfl

/-- In a settled program every stack is whole, and active. -/
theorem Settled.content? (settled : program.Settled) (family : Family) :
    program.content? family = program.stack? family ∧
      ∀ stack, program.content? family = some stack → stack.gone = [] := by
  rw [Program.content?, Program.stack?]
  cases running : program.host with
  | none =>
    refine ⟨rfl, ?_⟩
    rintro stack ⟨⟩
  | some host =>
    change (host.slot family).content? = (host.slot family).stack? ∧
      ∀ stack, (host.slot family).content? = some stack → stack.gone = []
    rcases settled.host host running family with absent | ⟨stack, active, sound⟩
    · rw [absent]
      refine ⟨rfl, ?_⟩
      rintro stack ⟨⟩
    · rw [active]
      refine ⟨rfl, ?_⟩
      rintro other ⟨⟩
      exact sound.wired.whole

/-- The handles that are alive are those of the stacks and those of the commands. -/
theorem Settled.alive_socket_iff (settled : program.Settled) :
    program.Alive (.socket address) ↔ address ∈ program.sockets := by
  have connected (family : Family) (stack : Stack) (there : program.content? family = some stack) :
      program.finds family .connection = some .connection := by
    have whole := (settled.content? family).2 stack there
    rw [finds, there, Option.bind_some, Stack.owned, Stack.has, whole]
    rfl
  have listed : address ∈ program.sockets ↔
      (∃ family stack, program.content? family = some stack ∧
        stack.connection.localAddress = address) ∨
      ∃ command ∈ program.commands, command.action.readiness? = some address := by
    rw [sockets, List.mem_append, List.mem_filterMap]
    refine or_congr ?_ Iff.rfl
    cases running : program.host with
    | none => simp [Program.content?, running]
    | some host =>
      have either (family : Family) : family ∈ Family.all := by cases family <;> decide
      simp [Program.content?, running, Host.sockets, either]
  rw [listed]
  constructor
  · intro alive
    cases alive with
    | owned alive owns =>
      rcases owns_socket_iff.1 owns with
        ⟨command, rfl, ready⟩ | ⟨family, stack, rfl, there, same⟩
      · exact .inr ⟨command, alive_command_iff.1 alive, ready⟩
      · exact .inl ⟨family, stack, there, same⟩
  · rintro (⟨family, stack, there, same⟩ | ⟨command, kept, ready⟩)
    · exact .owned (alive_part_iff.2 (connected family stack there))
        (owns_socket_iff.2 (.inr ⟨family, stack, rfl, there, same⟩))
    · exact .owned (.command kept) (owns_socket_iff.2 (.inl ⟨command, rfl, ready⟩))

/-! ## Executing by links -/

/-- What is done by the links of a command is what is done to its stack. -/
theorem Settled.visitBy_eq (settled : program.Settled) (command : Command)
    {way : Action → World → Option Stack → Visit} {direct : Action → World → Stack → Execution}
    (lost : ∀ world, way command.action world none = .idle world none)
    (whole : ∀ world stack, stack.gone = [] →
      way command.action world (some stack) = .ofExecution (direct command.action world stack)) :
    program.visitBy command way = program.runBy command direct := by
  obtain ⟨active, sound⟩ := settled.content? command.family
  unfold visitBy runBy
  rw [← active]
  cases there : program.content? command.family with
  | none =>
    rw [lost]
    dsimp only [Visit.idle]
    rw [Option.map_id']
  | some stack =>
    rw [whole program.world stack (sound stack there)]
    rfl

/-- Whatever its program did so far, a command that is executed does what it does by its
links. -/
theorem Settled.executeByLinks_eq (settled : program.Settled) (command : Command) :
    program.executeByLinks command = program.execute command := by
  unfold executeByLinks execute
  rw [settled.visitBy_eq command
    (fun world => Action.executeByLinks_of_lost command.action.finds_none world)
    (fun world _ whole => Action.executeByLinks_of_whole whole command.action world)]

theorem Settled.shutDownByLinks_eq (settled : program.Settled) (command : Command) :
    program.shutDownByLinks command = program.shutDown command :=
  settled.visitBy_eq command
    (fun world => Action.shutDownByLinks_of_lost command.action.finds_none world)
    (fun world _ whole => Action.shutDownByLinks_of_whole whole command.action world)

/-! ## Without the host -/

section Dropped

variable (dropped : program.host = none)

include dropped

theorem finds_of_dropped (family : Family) (part : Part) : program.finds family part = none := by
  rw [finds, content?, dropped]
  rfl

/-- Only commands outlive the host, and what they have. -/
theorem alive_of_dropped (alive : program.Alive thing) :
    ∃ command ∈ program.commands, thing = .command command ∨
      thing ∈ program.owns (.command command) := by
  induction alive with
  | host kept =>
    rw [dropped] at kept
    cases kept
  | @command command kept => exact ⟨command, kept, .inl rfl⟩
  | @owned owner thing alive owns ih =>
    obtain ⟨command, kept, rfl | owned⟩ := ih
    · exact ⟨command, kept, .inr owns⟩
    · -- what a command has owns nothing
      exfalso
      simp only [Program.owns, List.mem_append, List.mem_map] at owned
      rcases owned with ⟨address, -, rfl⟩ | ⟨handle, -, rfl⟩
      · exact absurd owns List.not_mem_nil
      · exact absurd owns List.not_mem_nil

/-- All links of commands dangle once the host is gone. -/
theorem text_of_dropped (command : Command) {link : Link Part}
    (mem : link ∈ command.action.links) :
    link.get (program.finds command.family) = none ∧
      link.text (program.finds command.family) = "Link(" ++ link.name ++ ": " ++ "dangling" ++ ")" := by
  obtain ⟨target, -, rfl⟩ := List.mem_map.1 mem
  have lost := finds_of_dropped dropped command.family target
  refine ⟨lost, ?_⟩
  rw [Link.text, Action.link, Link.wiredTo]
  dsimp only
  rw [lost]
  rfl

/-- A command of which the links give nothing does nothing. -/
theorem visitBy_of_dropped {command : Command} {way : Action → World → Option Stack → Visit}
    (lost : ∀ world, way command.action world none = .idle world none) :
    program.visitBy command way = (.ok (), [], program) := by
  obtain ⟨world, host, commands⟩ := program
  obtain rfl : host = none := dropped
  rw [visitBy, content?, Option.bind_none, lost]
  rfl

end Dropped

/-! ## Calls -/

theorem tags_finish (program : Program) (cuid : Nat) :
    (program.finish cuid).commands.map Command.tag = program.commands.map Command.tag := by
  rw [finish, List.map_map]
  refine List.map_congr_left fun command _ => ?_
  rw [Function.comp_apply]
  split
  · rw [Command.tag, Command.tag, Action.readiness?_finished]
  · rfl

/-- A call of a command. -/
inductive Call
  | execute (command : Command)
  | shutDown (command : Command)

/-- What comes of a call. -/
def call (program : Program) : Call → Except Error Unit × List Notice × Program
  | .execute command => program.executeByLinks command
  | .shutDown command => program.shutDownByLinks command

/-- What comes of some calls in order. -/
def callAll : List Call → Program → List (Except Error Unit × List Notice) × Program
  | [], program => ([], program)
  | call :: calls, program =>
      let (result, log, program) := program.call call
      let (outcomes, program) := callAll calls program
      ((result, log) :: outcomes, program)

/-- A call changes nothing once the host is gone, but for what the command itself knows of
having been executed. -/
theorem call_of_dropped (dropped : program.host = none) (call : Call) :
    ∃ commands, program.call call = (.ok (), [], { program with commands }) ∧
      commands.map Command.tag = program.commands.map Command.tag := by
  cases call with
  | execute command =>
    have idle := visitBy_of_dropped dropped fun world =>
      Action.executeByLinks_of_lost command.action.finds_none world
    refine ⟨(program.finish command.cuid).commands, ?_, program.tags_finish command.cuid⟩
    rw [Program.call, executeByLinks, idle]
    rfl
  | shutDown command =>
    have idle := visitBy_of_dropped dropped fun world =>
      Action.shutDownByLinks_of_lost command.action.finds_none world
    exact ⟨program.commands, idle, rfl⟩

theorem callAll_of_dropped (dropped : program.host = none) (calls : List Call) :
    ∃ commands,
      program.callAll calls = (calls.map fun _ => (.ok (), []), { program with commands }) ∧
        commands.map Command.tag = program.commands.map Command.tag := by
  induction calls generalizing program with
  | nil => exact ⟨program.commands, rfl, rfl⟩
  | cons call calls ih =>
    obtain ⟨between, called, same⟩ := call_of_dropped dropped call
    have stillDropped : ({ program with commands := between } : Program).host = none := dropped
    obtain ⟨commands, rest, kept⟩ := ih stillDropped
    refine ⟨commands, ?_, kept.trans same⟩
    rw [callAll, called]
    dsimp only
    rw [rest]
    rfl

/-! ## Programs without a host -/

/-- A program whose commands are inert: no part of a stack is alive, as commands alone own
what is; their links give nothing; and whatever is called, it succeeds, and changes at most
what commands know of having been executed. -/
structure Inert (program : Program) : Prop where
  part : ∀ family part, ¬ program.Alive (.part family part)
  alive : ∀ thing, program.Alive thing → ∃ command ∈ program.commands,
    thing = .command command ∨ thing ∈ program.owns (.command command)
  link : ∀ command : Command, ∀ link ∈ command.action.links,
    link.get (program.finds command.family) = none ∧
      link.text (program.finds command.family) = "Link(" ++ link.name ++ ": " ++ "dangling" ++ ")"
  calls : ∀ calls, ∃ commands,
    program.callAll calls = (calls.map fun _ => (.ok (), []), { program with commands }) ∧
      commands.map Command.tag = program.commands.map Command.tag

theorem inert_of_dropped (dropped : program.host = none) : program.Inert := by
  refine ⟨?_, fun _ => alive_of_dropped dropped, fun command link => text_of_dropped dropped command,
    callAll_of_dropped dropped⟩
  intro family part alive
  have found := alive_part_iff.1 alive
  rw [finds_of_dropped dropped] at found
  cases found

end Program

end Kademlia
