import Kademlia.Config
import Kademlia.Host.World
import Kademlia.Stack.Basic

/-!
# Hosts

A host has a slot for a stack of each family, the port that both share, and the
number of its next command.  A stack is staged in its slot while it is set up,
and active from then on.
-/

namespace Kademlia

/-- The place of a family's stack. -/
inductive Slot
  | absent
  | activating (stack : Stack)
  | active (stack : Stack)
deriving DecidableEq

namespace Slot

/-- The name of a slot's condition. -/
def condition : Slot → String
  | absent => "absent"
  | activating _ => "activating"
  | active _ => "active"

/-- Whether there is no stack. -/
def isAbsent : Slot → Bool
  | absent => true
  | _ => false

/-- The stack that is active. -/
def stack? : Slot → Option Stack
  | active stack => some stack
  | _ => none

/-- The stack that is there, active or not. -/
def content? : Slot → Option Stack
  | absent => none
  | activating stack => some stack
  | active stack => some stack

/-- Changes the stack that is there. -/
def modify (change : Stack → Stack) : Slot → Slot
  | absent => absent
  | activating stack => activating (change stack)
  | active stack => active (change stack)

/-- Puts a stack in, not active yet. -/
def stage (family : Family) (stack : Stack) : Slot → Except Error Slot
  | absent => .ok (activating stack)
  | _ => .error (.slot family .occupied)

/-- Makes a staged stack active. -/
def activate (family : Family) : Slot → Except Error Slot
  | activating stack => .ok (active stack)
  | absent => .error (.slot family .nothingStaged)
  | active _ => .error (.slot family .active)

@[simp]
theorem stage_absent (family : Family) (stack : Stack) :
    stage family stack absent = .ok (activating stack) :=
  rfl

@[simp]
theorem activate_activating (family : Family) (stack : Stack) :
    activate family (activating stack) = .ok (active stack) :=
  rfl

/-- A stack can be staged exactly where there is none. -/
theorem stage_eq_ok_iff {family : Family} {stack : Stack} {slot staged : Slot} :
    slot.stage family stack = .ok staged ↔ slot = absent ∧ staged = activating stack := by
  cases slot <;> simp [stage, eq_comm]

end Slot

/-- The host of two stacks. -/
structure Host where
  config : Config
  ipv4 : Slot
  ipv6 : Slot
  udpPort : UInt16
  client : Option ClientHandle
  nextCuid : Nat
deriving DecidableEq

namespace Host

/-- A host on which nothing is set up. -/
def start (config : Config) : Host :=
  ⟨config, .absent, .absent, 0, none, 1⟩

/-- The slot of a family. -/
def slot (host : Host) : Family → Slot
  | .ipv4 => host.ipv4
  | .ipv6 => host.ipv6

/-- A host with another slot for a family. -/
def setSlot (host : Host) (slot : Slot) : Family → Host
  | .ipv4 => { host with ipv4 := slot }
  | .ipv6 => { host with ipv6 := slot }

/-- The active stack of a family. -/
def stack? (host : Host) (family : Family) : Option Stack :=
  (host.slot family).stack?

/-- A host with another state of a family's stack. -/
def setStack (host : Host) (family : Family) (stack : Stack) : Host :=
  host.setSlot ((host.slot family).modify fun _ => stack) family

/-- Gives out a number for a command. -/
def newCuid (host : Host) : Nat × Host :=
  (host.nextCuid, { host with nextCuid := host.nextCuid + 1 })

@[simp]
theorem slot_setSlot (host : Host) (slot : Slot) (family : Family) :
    (host.setSlot slot family).slot family = slot := by
  cases family <;> rfl

end Host

end Kademlia
