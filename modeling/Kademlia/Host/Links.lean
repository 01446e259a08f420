import Kademlia.Host.Command

/-!
# The links of commands

A command refers to the parts of its stack by links of its own, and each time that it is
executed it follows them anew: those without which it does nothing come first, before it
reads or changes anything, and an interaction follows the others as it comes to need them.
A command that is done, or that has nothing to do when its host shuts down, follows none.
-/

namespace Kademlia

/-- What comes of executing a command by its links, the stack being there or not. -/
structure Visit where
  result : Except Error Unit
  log : List Notice
  world : World
  stack : Option Stack

namespace Visit

/-- A visit that does nothing. -/
def idle (world : World) (stack : Option Stack) : Visit :=
  ⟨.ok (), [], world, stack⟩

/-- What an execution on a stack comes to. -/
def ofExecution (done : Execution) : Visit :=
  ⟨done.result, done.log, done.world, some done.stack⟩

end Visit

namespace Action

/-- The name of a command in those of its links. -/
def label : Action → String
  | interaction .. => "interaction"
  | tokenUpdate _ => "token_update"
  | bucketRefresh _ => "bucket_refresh"
  | peerAnnounce _ => "peer_announce"
  | autoSave .. => "auto_save"
  | forcedBucketRefresh _ => "forced_bucket_refresh"
  | entryPoint .. => "entry_point"

/-- The parts that a command has links to. -/
def targets : Action → List Part
  | interaction .. => [.connection, .receiver, .tracker, .dispatcher, .taskQueue]
  | tokenUpdate _ => [.tokens]
  | bucketRefresh _ => [.taskQueue, .taskFactory]
  | peerAnnounce _ => [.announces]
  | autoSave .. => [.localNode, .table]
  | forcedBucketRefresh _ => [.taskQueue, .taskFactory]
  | entryPoint .. => [.localNode, .taskQueue, .taskFactory]

/-- The link of a command to a part. -/
def link (action : Action) (target : Part) : Link Part :=
  .wiredTo (action.label ++ "." ++ target.name) target

/-- The links of a command. -/
def links (action : Action) : List (Link Part) :=
  action.targets.map action.link

/-- The parts without which a command does nothing. -/
def needs : Action → List Part
  | interaction .. => [.receiver]
  | action => action.targets

/-- Whether a command that is to be executed once was executed. -/
def isDone : Action → Bool
  | forcedBucketRefresh done => done
  | entryPoint _ _ done => done
  | _ => false

/-- The tracker client that a command serves. -/
def client? : Action → Option ClientHandle
  | interaction _ client => client
  | _ => none

/-- Whether links of a command give their parts. -/
def finds (action : Action) (stack : Option Stack) (targets : List Part) : Bool :=
  targets.all fun target =>
    ((action.link target).get fun part => stack.bind (·.owned part)).isSome

/-- Does something to a stack if the links that a command needs give their parts. -/
def visit (action : Action) (world : World) (stack : Option Stack)
    (way : World → Stack → Execution) : Visit :=
  match stack, action.finds stack action.needs with
  | some stack, true => .ofExecution (way world stack)
  | _, _ => .idle world stack

/-- A round of the stack, of which each step after the first one is left out if its
link does not give the part. -/
def interactByLinks (action : Action) (world : World) (stack : Stack) : Execution :=
  let (network, served, stack) :=
    Stack.drain world.now Stack.maxReceived world.network (action.client?.bind world.client?) stack
  let (entropy, stack) :=
    if action.finds (some stack) [.taskQueue] then (stack.runReady world.now world.entropy).2
    else (world.entropy, stack)
  let stack := if action.finds (some stack) [.tracker] then (stack.expire world.now).2 else stack
  let (network, stack) :=
    if action.finds (some stack) [.dispatcher, .connection] then
      (stack.sendAll world.now network).2
    else (network, stack)
  let world := { world with entropy, network }
  match action.client?, served with
  | some handle, some served => silently (world.setClient handle (served.expire world.now)) stack
  | _, _ => silently world stack

/-- Does what a command does, by its links. -/
def executeByLinks (action : Action) (world : World) (stack : Option Stack) : Visit :=
  if action.isDone then .idle world stack
  else
    match action with
    | interaction .. => action.visit world stack action.interactByLinks
    | _ => action.visit world stack action.execute

/-- Does what a command does when its host shuts down, by its links. -/
def shutDownByLinks (action : Action) (world : World) (stack : Option Stack) : Visit :=
  match action with
  | autoSave .. => action.visit world stack action.shutDown
  | _ => .idle world stack

end Action

end Kademlia
