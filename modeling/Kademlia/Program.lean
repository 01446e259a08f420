import Kademlia.Host.Setup

/-!
# A program around a host

A program owns a host, keeps the commands that its setups return, and executes
them.  It may let go of either; a command that it still has then does nothing.
-/

namespace Kademlia

/-- A program: its surroundings, its host until that is dropped, and the commands
it keeps. -/
structure Program where
  world : World
  host : Option Host
  commands : List Command

namespace Program

/-- A program that has just made its host. -/
def start (world : World) (config : Config) : Program :=
  ⟨world, some (.start config), []⟩

/-- The active stack of a family. -/
def stack? (program : Program) (family : Family) : Option Stack :=
  program.host.bind (·.stack? family)

/-- A program with another state of its surroundings and of a family's stack. -/
def setStack (program : Program) (world : World) (family : Family) (stack : Stack) : Program :=
  { program with world, host := program.host.map (·.setStack family stack) }

/-! ## Setting up -/

/-- Sets up by some way, and keeps the commands that this returns. -/
def setUpBy (program : Program) (way : Site → List Command × List Notice × Site) :
    List Command × List Notice × Program :=
  match program.host with
  | none => ([], [], program)
  | some host =>
      let (commands, log, site) := way ⟨program.world, host⟩
      (commands, log, ⟨site.world, some site.host, program.commands ++ commands⟩)

/-- Sets up the family with a number. -/
def setUp (program : Program) (code : Int) : List Command × List Notice × Program :=
  program.setUpBy (·.setUp code)

/-- Sets up a family. -/
def setUpFamily (program : Program) (family : Family) : List Command × List Notice × Program :=
  program.setUpBy (·.setUpFamily family)

/-- Takes a number for a command and makes it for the active stack of a family,
if there is one.  An interaction gets a further handle to the socket. -/
def addCommand (program : Program) (host : Host) (family : Family) (action : Stack → Action) :
    Option (Except Error Command) × Program :=
  let (cuid, host) := host.newCuid
  let program := { program with host := some host }
  match host.stack? family with
  | none => (none, program)
  | some stack =>
      let command : Command := ⟨cuid, family, action stack⟩
      let handle :=
        match command.action.readiness? with
        | some _ => stack.connection.readinessHandle program.world.network
        | none => .ok program.world.network
      match handle with
      | .error error => (some (.error error), program)
      | .ok network =>
          (some (.ok command),
            { program with
              world := { program.world with network }
              commands := program.commands ++ [command] })

/-! ## Executing commands -/

/-- The command with a number, if it is kept. -/
def command? (program : Program) (cuid : Nat) : Option Command :=
  program.commands.find? (·.cuid = cuid)

/-- A program whose command with a number was executed. -/
def finish (program : Program) (cuid : Nat) : Program :=
  { program with
    commands := program.commands.map fun command =>
      if command.cuid = cuid then { command with action := command.action.finished }
      else command }

/-- Does something to the active stack of a command; without one, nothing. -/
def runBy (program : Program) (command : Command)
    (way : Action → World → Stack → Execution) : Except Error Unit × List Notice × Program :=
  match program.stack? command.family with
  | none => (.ok (), [], program)
  | some stack =>
      let done := way command.action program.world stack
      (done.result, done.log, program.setStack done.world command.family done.stack)

/-- Executes a command. -/
def execute (program : Program) (command : Command) :
    Except Error Unit × List Notice × Program :=
  let (result, log, program) := program.runBy command Action.execute
  (result, log, program.finish command.cuid)

/-- Lets a command do what it does when its host shuts down. -/
def shutDown (program : Program) (command : Command) :
    Except Error Unit × List Notice × Program :=
  program.runBy command Action.shutDown

/-! ## Letting go -/

/-- Lets go of all commands, closing the handles that they have. -/
def dropCommands (program : Program) : Program :=
  let network :=
    (program.commands.filterMap (·.action.readiness?)).foldl Network.release
      program.world.network
  { program with world := { program.world with network }, commands := [] }

/-- Lets go of the host, closing the sockets of its stacks. -/
def dropHost (program : Program) : Program :=
  match program.host with
  | none => program
  | some host =>
      let sockets :=
        Family.all.filterMap fun family =>
          (host.slot family).content?.map (·.connection.localAddress)
      let network := sockets.foldl Network.release program.world.network
      { program with world := { program.world with network }, host := none }

end Program

end Kademlia
