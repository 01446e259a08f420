import Kademlia.Host.Links
import Kademlia.Program

/-!
# Who owns what

A program owns its host and the commands that it keeps.  The host owns the parts of its
stacks and a tracker client, the connection of a stack a handle to the socket, the task
queue of a stack its tasks, and an interaction a handle to the socket and a tracker client.
A setup owns the parts as well, but only while it is under way.  All else that parts, tasks
and commands have of the parts of a stack are links, which keep nothing alive.
-/

namespace Kademlia

/-- What owns something or is owned. -/
inductive Thing
  | host
  | command (command : Command)
  | part (family : Family) (part : Part)
  | task (family : Family) (task : Task)
  | socket (address : Address)
  | client (handle : ClientHandle)
deriving DecidableEq

/-- All parts of a stack. -/
def Part.all : List Part :=
  [localNode, connection, table, tracker, dispatcher, receiver, factory, taskQueue, taskFactory,
    announces, tokens]

namespace Program

/-- The stack in the slot of a family, active or not. -/
def content? (program : Program) (family : Family) : Option Stack :=
  program.host.bind fun host => (host.slot family).content?

/-- A part of a stack that is there. -/
def finds (program : Program) (family : Family) (part : Part) : Option Part :=
  (program.content? family).bind (·.owned part)

/-! ## Owning and linking -/

/-- What a thing owns. -/
def owns (program : Program) : Thing → List Thing
  | .host =>
      (Family.all.flatMap fun family =>
        (Part.all.filterMap (program.finds family)).map (.part family)) ++
        (program.host.bind Host.client).toList.map .client
  | .command command =>
      command.action.readiness?.toList.map .socket ++ command.action.client?.toList.map .client
  | .part family .connection =>
      (program.content? family).toList.map fun stack => .socket stack.connection.localAddress
  | .part family .taskQueue =>
      (program.content? family).toList.flatMap fun stack =>
        (stack.tasks.periodic1 ++ stack.tasks.periodic2 ++ stack.tasks.immediate).map (.task family)
  | _ => []

/-- The links of a thing, each to the stack of a family. -/
def links (program : Program) : Thing → List (Family × Link Part)
  | .command command => command.action.links.map (command.family, ·)
  | .part family part =>
      (program.content? family).toList.flatMap fun stack =>
        (Wire.ofPart part).map fun wire => (family, stack.wiring.link wire)
  | .task family task => (Wire.ofPart .taskFactory).map fun wire => (family, task.links.link wire)
  | _ => []

/-- What is not gone yet: the host and the commands that a program keeps, and what these
own, directly or through other things. -/
inductive Alive (program : Program) : Thing → Prop
  | host (kept : program.host.isSome) : Alive program .host
  | command {command : Command} (kept : command ∈ program.commands) :
      Alive program (.command command)
  | owned {owner thing : Thing} (alive : Alive program owner) (owns : thing ∈ program.owns owner) :
      Alive program thing

/-! ## Executing commands by their links -/

/-- Does something by the links of a command. -/
def visitBy (program : Program) (command : Command)
    (way : Action → World → Option Stack → Visit) : Except Error Unit × List Notice × Program :=
  let visit := way command.action program.world (program.content? command.family)
  let keep (host : Host) :=
    match visit.stack with
    | some stack => host.setStack command.family stack
    | none => host
  (visit.result, visit.log, { program with world := visit.world, host := program.host.map keep })

/-- Executes a command by its links. -/
def executeByLinks (program : Program) (command : Command) :
    Except Error Unit × List Notice × Program :=
  let (result, log, program) := program.visitBy command Action.executeByLinks
  (result, log, program.finish command.cuid)

/-- Lets a command do what it does when its host shuts down, by its links. -/
def shutDownByLinks (program : Program) (command : Command) :
    Except Error Unit × List Notice × Program :=
  program.visitBy command Action.shutDownByLinks

/-! ## Letting go of one command -/

/-- Lets go of the command with a number, closing the handle that it has. -/
def dropCommand (program : Program) (cuid : Nat) : Program :=
  let gone := program.commands.filter (·.cuid = cuid)
  let network := (gone.filterMap (·.action.readiness?)).foldl Network.release program.world.network
  { program with
    world := { program.world with network }
    commands := program.commands.filter (·.cuid ≠ cuid) }

end Program

end Kademlia
