import Kademlia.Host.Basic
import Kademlia.Host.Notice
import Kademlia.Snapshot
import Kademlia.Stack.Interact

/-!
# Commands

A setup leaves its host with commands to be executed: on every round, at
intervals, or once.  A command works on the active stack of its family, and does
nothing once that is gone.
-/

namespace Kademlia

/-- What a command does.  An interaction has a handle to the socket, and may
serve a tracker client; intervals are in milliseconds. -/
inductive Action
  | interaction (readiness : Address) (client : Option ClientHandle)
  | tokenUpdate (interval : Nat)
  | bucketRefresh (interval : Nat)
  | peerAnnounce (interval : Nat)
  | autoSave (path : String) (interval : Nat)
  | forcedBucketRefresh (done : Bool)
  | entryPoint (points : List EntryPoint) (bootstrap done : Bool)
deriving DecidableEq

/-- When a command is to be executed. -/
inductive Trigger
  | readiness
  | interval (milliseconds : Nat)
  | immediate
  | once
deriving DecidableEq

namespace Action

/-- The name of a kind of command. -/
def kind : Action → String
  | interaction .. => "Interaction"
  | tokenUpdate _ => "TokenUpdate"
  | bucketRefresh _ => "BucketRefresh"
  | peerAnnounce _ => "PeerAnnounce"
  | autoSave .. => "AutoSave"
  | forcedBucketRefresh _ => "ForcedBucketRefresh"
  | entryPoint .. => "EntryPointNameResolve"

/-- When a command of this kind is to be executed. -/
def trigger : Action → Trigger
  | interaction .. => .readiness
  | tokenUpdate interval => .interval interval
  | bucketRefresh interval => .interval interval
  | peerAnnounce interval => .interval interval
  | autoSave _ interval => .interval interval
  | forcedBucketRefresh _ => .immediate
  | entryPoint .. => .once

/-- The address of the socket handle that a command has. -/
def readiness? : Action → Option Address
  | interaction readiness _ => some readiness
  | _ => none

/-- The command after it was executed: one that is to be executed once is done. -/
def finished : Action → Action
  | forcedBucketRefresh _ => forcedBucketRefresh true
  | entryPoint points bootstrap _ => entryPoint points bootstrap true
  | action => action

end Action

/-- A command of a host: its number, the family of its stack, and what it does. -/
structure Command where
  cuid : Nat
  family : Family
  action : Action
deriving DecidableEq

/-- What comes of executing a command. -/
structure Execution where
  result : Except Error Unit
  log : List Notice
  world : World
  stack : Stack

namespace Action

/-- An execution that cannot fail and reports nothing. -/
def silently (world : World) (stack : Stack) : Execution :=
  ⟨.ok (), [], world, stack⟩

/-- A round of the stack. -/
def interact (client : Option ClientHandle) (world : World) (stack : Stack) : Execution :=
  let (entropy, network, served, stack) :=
    stack.interact world.now world.entropy world.network (client.bind world.client?)
  let world := { world with entropy, network }
  match client, served with
  | some handle, some served => silently (world.setClient handle served) stack
  | _, _ => silently world stack

/-- Draws a new secret for announce tokens. -/
def updateTokens (world : World) (stack : Stack) : Execution :=
  let (secrets, entropy) := stack.secrets.rotate world.now world.entropy
  silently { world with entropy } { stack with secrets }

/-- Writes the state file. -/
def save (path : String) (world : World) (stack : Stack) : Execution :=
  let contents := Snapshot.save stack.family stack.localNode stack.table.nodes world.wallClock
  match world.disk.replace path contents with
  | (.ok _, disk) => ⟨.ok (), [.saved], { world with disk }, stack⟩
  | (.error error, disk) => ⟨.error error, [], { world with disk }, stack⟩

/-- The addresses of entry points in a family, in order, and a notice for each
one that is not known. -/
def resolvePoints (names : Names) (family : Family) : List EntryPoint → List Address × List Notice
  | [] => ([], [])
  | point :: rest =>
      let (addresses, log) := resolvePoints names family rest
      match names.addresses point with
      | some resolved => (resolved.filter (·.family = family) ++ addresses, log)
      | none => (addresses, .entryPointUnknown :: log)

/-- The tasks by which a stack joins through some addresses. -/
def joinJobs (id : Id) (addresses : List Address) (bootstrap : Bool) : List Job :=
  addresses.map (.ping · none) ++
    if bootstrap then [.nodeLookup id addresses, .bucketRefresh false] else []

/-- Resolves entry points, and queues the tasks to join through them. -/
def join (points : List EntryPoint) (bootstrap : Bool) (world : World) (stack : Stack) :
    Execution :=
  let (addresses, log) := resolvePoints world.names stack.family points
  if addresses = [] then ⟨.ok (), log ++ [.noEntryPointKnown], world, stack⟩
  else
    let jobs := joinJobs stack.localNode.id addresses bootstrap
    ⟨.ok (), log, world, stack.addTasks .periodic1 (jobs.map stack.task)⟩

/-- Does what a command does, on its stack. -/
def execute (action : Action) (world : World) (stack : Stack) : Execution :=
  match action with
  | interaction _ client => interact client world stack
  | tokenUpdate _ => updateTokens world stack
  | bucketRefresh _ => silently world (stack.schedule .periodic1 (.bucketRefresh false))
  | peerAnnounce _ =>
      silently world { stack with announces := stack.announces.purge world.now }
  | autoSave path _ => save path world stack
  | forcedBucketRefresh done =>
      silently world
        (if done then stack else stack.schedule .periodic1 (.bucketRefresh true))
  | entryPoint points bootstrap done =>
      if done then silently world stack else join points bootstrap world stack

/-- Does what a command does when its host shuts down. -/
def shutDown (action : Action) (world : World) (stack : Stack) : Execution :=
  match action with
  | autoSave path _ => save path world stack
  | _ => silently world stack

end Action

end Kademlia
