import Kademlia.Stack.Answer

/-!
# Running tasks

A task reaches the parts it needs by its own links.  One that does not resolve
ends the task there; what the task did before stays done.
-/

namespace Kademlia.Stack

/-- How long ago a bucket has to have been looked after to need it again. -/
def refreshInterval : Nat :=
  15 * 60 * 1000

/-- Fails unless a link of a task gives its part. -/
def requireFor (stack : Stack) (task : Task) (target : Part) : Except Error Unit :=
  stack.requireVia task.links .taskFactory target

/-- Numbers a query and queues it. -/
def sendQuery (stack : Stack) (task : Task) (request : Request) (destination : Address)
    (remote : Option Id) : Except Error Unit × Stack :=
  match stack.requireFor task .factory with
  | .error error => (.error error, stack)
  | .ok _ =>
      let (message, stack) := stack.query request
      match stack.requireFor task .dispatcher with
      | .error error => (.error error, stack)
      | .ok _ =>
          (.ok (),
            { stack with
              outbox := stack.outbox.addWithTimeout message destination remote task.timeout })

/-- Sends one query to each of some addresses, up to the first failure. -/
def sendQueries (task : Task) (request : Request) :
    List (Address × Option Id) → Stack → Except Error Unit × Stack
  | [], stack => (.ok (), stack)
  | (destination, remote) :: rest, stack =>
      match stack.sendQuery task request destination remote with
      | (.error error, stack) => (.error error, stack)
      | (.ok _, stack) => sendQueries task request rest stack

/-- Whom a lookup asks: the nearest nodes, and those contacts that are not at the
address of any of them. -/
def lookupTargets (nearest : List Node) (contacts : List Address) : List (Address × Option Id) :=
  nearest.map (fun node => (node.address, some node.id)) ++
    (contacts.filter fun contact => !nearest.any (·.address = contact)).map (·, none)

/-- Draws an id at each of some distances from an id. -/
def drawTargets (id : Id) : List Nat → Entropy → List Id × Entropy
  | [], entropy => ([], entropy)
  | distance :: rest, entropy =>
      let (target, entropy) := id.randomAtDistance distance entropy
      let (targets, entropy) := drawTargets id rest entropy
      (target :: targets, entropy)

/-- Asks one address whether its node is there. -/
def runPing (stack : Stack) (task : Task) (destination : Address) (remote : Option Id) :
    Except Error Unit × Stack :=
  match stack.requireFor task .localNode with
  | .error error => (.error error, stack)
  | .ok _ => stack.sendQuery task (.ping stack.localNode.id) destination remote

/-- Asks the nearest nodes, and some contacts, what `request` makes of the own id. -/
def runLookup (stack : Stack) (task : Task) (target : Id) (contacts : List Address)
    (request : Id → Request) : Except Error Unit × Stack :=
  match
    do
      stack.requireFor task .localNode
      stack.requireFor task .table
  with
  | .error error => (.error error, stack)
  | .ok _ =>
      sendQueries task (request stack.localNode.id)
        (lookupTargets (stack.table.closest target) contacts) stack

/-- Marks the buckets that need it as looked after, and queues a lookup for each;
when the table is empty, a lookup of the own id. -/
def runRefresh (stack : Stack) (now : Nat) (entropy : Entropy) (task : Task) (force : Bool) :
    Except Error Unit × Entropy × Stack :=
  match
    do
      stack.requireFor task .localNode
      stack.requireFor task .table
  with
  | .error error => (.error error, entropy, stack)
  | .ok _ =>
      let distances :=
        if force then stack.table.distances else stack.table.stale now refreshInterval
      let table := distances.foldl (fun table distance => table.touch now distance) stack.table
      let (drawn, entropy) := drawTargets stack.localNode.id distances entropy
      let targets := if drawn = [] ∧ table.isEmpty then [stack.localNode.id] else drawn
      let stack := { stack with table }
      match stack.requireFor task .taskQueue with
      | .error error => (.error error, entropy, stack)
      | .ok _ =>
          (.ok (), entropy,
            stack.addTasks .periodic2
              (targets.map fun target => { task with job := .nodeLookup target [] }))

/-- Runs a task. -/
def runTask (stack : Stack) (now : Nat) (entropy : Entropy) (task : Task) :
    Except Error Unit × Entropy × Stack :=
  match task.job with
  | .ping destination remote =>
      let (outcome, stack) := stack.runPing task destination remote
      (outcome, entropy, stack)
  | .nodeLookup target contacts =>
      let (outcome, stack) := stack.runLookup task target contacts (.findNode · target)
      (outcome, entropy, stack)
  | .peerLookup infoHash =>
      let (outcome, stack) := stack.runLookup task infoHash [] (.getPeers · infoHash)
      (outcome, entropy, stack)
  | .bucketRefresh force => stack.runRefresh now entropy task force

/-- Runs tasks in order, whether or not earlier ones fail. -/
def runTasks (now : Nat) :
    List Task → Entropy → Stack → List (Job × Except Error Unit) × Entropy × Stack
  | [], entropy, stack => ([], entropy, stack)
  | task :: rest, entropy, stack =>
      let (outcome, entropy, stack) := stack.runTask now entropy task
      let (outcomes, entropy, stack) := runTasks now rest entropy stack
      ((task.job, outcome) :: outcomes, entropy, stack)

/-- Takes the first task of each queue and runs them. -/
def runReady (stack : Stack) (now : Nat) (entropy : Entropy) :
    List (Job × Except Error Unit) × Entropy × Stack :=
  let (ready, tasks) := stack.tasks.takeReady
  runTasks now ready entropy { stack with tasks }

end Kademlia.Stack
