import Kademlia.Proofs.Host.Handles

/-!
# Commands of a stack that is gone

When a host is dropped the parts of its stacks go with it, since nothing else owns them, and
from then on its commands do nothing.  What they still have are their handles: the address of
a stack stays bound until the interaction that has a handle to it is let go of as well.
-/

namespace Kademlia.Program

open Network

variable {program : Program} {host : Host} {address : Address} {cuid : Nat}
  {moves later : List Move} {others : Address → Nat}

/-! ## Numbers of commands -/

/-- The commands that a program keeps have numbers that its host gave out. -/
def Numbered (program : Program) : Prop :=
  ∀ host, program.host = some host → ∀ tag ∈ program.commands.map Command.tag,
    tag.1 < host.nextCuid

theorem Numbered.move (numbered : program.Numbered) (move : Move) :
    (program.move move).Numbered := by
  have rebooked := program.rebooked_move move
  generalize program.move move = after at rebooked ⊢
  cases rebooked with
  | quiet plain quiet =>
    intro host running tag mem
    obtain ⟨earlier, before, -, counted⟩ := quiet.exists_earlier running
    rw [quiet.commands] at mem
    exact Nat.lt_of_lt_of_le (numbered earlier before tag mem) counted
  | @activated move earlier commands address after plain running connects sockets counted cuids =>
    rintro host ⟨⟩ tag mem
    rw [List.map_append, List.mem_append] at mem
    rcases mem with old | new
    · exact Nat.lt_of_lt_of_le (numbered earlier running tag old) counted
    · obtain ⟨command, made, rfl⟩ := List.mem_map.1 new
      exact (cuids command made).2
  | @added earlier family action stack network running active handle =>
    rintro host ⟨⟩ tag mem
    rw [List.map_append, List.mem_append] at mem
    rcases mem with old | new
    · exact Nat.lt_succ_of_lt (numbered earlier running tag old)
    · obtain rfl := List.mem_singleton.1 new
      exact Nat.lt_succ_self _
  | droppedCommands => exact fun host _ tag mem => absurd mem List.not_mem_nil
  | droppedCommand cuid =>
    intro host running tag mem
    obtain ⟨command, kept, rfl⟩ := List.mem_map.1 mem
    exact numbered host running _ (List.mem_map_of_mem (List.mem_filter.1 kept).1)
  | droppedHost running =>
    intro host there
    rw [dropHost, running] at there
    cases there
  | occupied address => exact numbered
  | vacated address => exact numbered

theorem Numbered.moveAll (numbered : program.Numbered) (moves : List Move) :
    (program.moveAll moves).Numbered := by
  induction moves generalizing program with
  | nil => exact numbered
  | cons move moves ih => exact ih (numbered.move move)

theorem numbered_start (world : World) (config : Config) : (start world config).Numbered :=
  fun _ _ _ mem => absurd mem List.not_mem_nil

/-! ## The one command with a handle -/

/-- Of the commands of a program the one with a number alone has a handle to an address;
and as long as the host is there, a stack of it has one. -/
structure HeldBy (program : Program) (address : Address) (cuid : Nat) : Prop where
  only : ∀ tag ∈ program.commands.map Command.tag, tag.2 = some address ↔ tag.1 = cuid
  host : ∀ host, program.host = some host → cuid < host.nextCuid ∧ address ∈ host.sockets

/-- The program keeps the command with a number. -/
def Keeps (program : Program) (cuid : Nat) : Prop :=
  ∃ tag ∈ program.commands.map Command.tag, tag.1 = cuid

/-- An address that is bound is not connected to another stack. -/
theorem HeldBy.ne_of_connects (heldBy : program.HeldBy address cuid)
    (accounted : program.Accounted others) (running : program.host = some host)
    {commands : List Command} {other : Address} {after : Site}
    (connects : Site.Connects ⟨program.world, host⟩ commands other after) : other ≠ address := by
  rintro rfl
  have mem : other ∈ program.sockets := by
    rw [sockets_of_running running]
    exact List.mem_append_left _ (heldBy.host host running).2
  have bound := accounted.isBound_iff.2 (.inl mem)
  rw [not_isBound_of_not_inUse connects.free] at bound
  cases bound

/-- Of the commands of a stack only the interaction has a handle, and it is the first. -/
theorem tags_of_connects {site after : Site} {family : Family} {stack : Stack}
    {commands : List Command} (activated : Site.Activated site family stack commands after)
    (connects : Site.Connects site commands address after) :
    ∃ client more, commands = ⟨site.host.nextCuid, family, .interaction address client⟩ :: more ∧
      ∀ command ∈ more, command.action.readiness? = none ∧ site.host.nextCuid < command.cuid := by
  obtain ⟨client, actions, actions_eq, unready⟩ := connects.interaction
  have cuids := activated.cuids_eq
  have families := activated.family_eq
  cases commands with
  | nil => cases actions_eq
  | cons first more =>
    obtain ⟨firstAction, moreActions⟩ := List.cons.inj actions_eq
    rw [List.map_cons, List.length_cons, List.range'_succ] at cuids
    obtain ⟨firstCuid, moreCuids⟩ := List.cons.inj cuids
    refine ⟨client, more, ?_, ?_⟩
    · obtain ⟨number, ofFamily, action⟩ := first
      obtain rfl : ofFamily = family := families _ List.mem_cons_self
      rw [← firstCuid, ← firstAction]
    · intro command mem
      constructor
      · rw [← moreActions, List.filterMap_eq_nil_iff] at unready
        exact unready _ (List.mem_map_of_mem mem)
      · have listed : command.cuid ∈ more.map Command.cuid := List.mem_map_of_mem mem
        rw [moreCuids, List.mem_range'_1] at listed
        exact listed.1

/-- A setup that makes a stack active makes one command with a handle to its socket. -/
theorem heldBy_of_connects (accounted : program.Accounted others) (numbered : program.Numbered)
    (running : program.host = some host) {family : Family} {stack : Stack}
    {commands : List Command} {after : Site}
    (activated : Site.Activated ⟨program.world, host⟩ family stack commands after)
    (connects : Site.Connects ⟨program.world, host⟩ commands address after)
    (here : address = stack.connection.localAddress) :
    HeldBy ⟨after.world, some after.host, program.commands ++ commands⟩ address host.nextCuid ∧
      Keeps ⟨after.world, some after.host, program.commands ++ commands⟩ host.nextCuid := by
  obtain ⟨client, more, rfl, unready⟩ := tags_of_connects activated connects
  refine ⟨⟨?_, ?_⟩, (host.nextCuid, some address), by simp [Command.tag, Action.readiness?], rfl⟩
  · intro tag mem
    simp only [List.map_append, List.map_cons, List.mem_append, List.mem_cons] at mem
    rcases mem with old | rfl | new
    · refine iff_of_false ?_ (Nat.ne_of_lt (numbered host running tag old))
      -- the address was free, so nobody had a handle to it
      intro ready
      obtain ⟨command, kept, rfl⟩ := List.mem_map.1 old
      have mem : address ∈ program.sockets :=
        List.mem_append_right _ (List.mem_filterMap.2 ⟨command, kept, ready⟩)
      have bound := accounted.isBound_iff.2 (.inl mem)
      rw [not_isBound_of_not_inUse connects.free] at bound
      cases bound
    · exact iff_of_true rfl rfl
    · obtain ⟨command, made, rfl⟩ := List.mem_map.1 new
      obtain ⟨handleless, above⟩ := unready command made
      refine iff_of_false (fun ready => ?_) (Nat.ne_of_gt above)
      cases handleless.symm.trans ready
  · rintro host ⟨⟩
    rw [activated.nextCuid, here]
    refine ⟨Nat.lt_add_of_pos_right (Nat.succ_pos _), mem_sockets_of_active activated.stack?_eq⟩

/-- The commands of another stack have no handle to an address that is bound, and other
numbers than those that were given out before. -/
theorem HeldBy.fresh_of_connects (heldBy : program.HeldBy address cuid)
    (accounted : program.Accounted others) (running : program.host = some host)
    {commands : List Command} {other : Address} {after : Site}
    (connects : Site.Connects ⟨program.world, host⟩ commands other after)
    (numbers : ∀ command ∈ commands, host.nextCuid ≤ command.cuid) :
    ∀ tag ∈ commands.map Command.tag, tag.2 ≠ some address ∧ tag.1 ≠ cuid := by
  have different := heldBy.ne_of_connects accounted running connects
  obtain ⟨client, more, actions, unready⟩ := connects.interaction
  intro tag mem
  obtain ⟨command, made, rfl⟩ := List.mem_map.1 mem
  constructor
  · intro ready
    change command.action.readiness? = some address at ready
    have listed : command.action ∈ commands.map Command.action := List.mem_map_of_mem made
    rw [actions, List.mem_cons] at listed
    rcases listed with first | rest
    · rw [first] at ready
      exact different (Option.some.inj ready)
    · have handleless := List.filterMap_eq_nil_iff.1 unready _ rest
      cases handleless.symm.trans ready
  · exact Nat.ne_of_gt (Nat.lt_of_lt_of_le (heldBy.host host running).1 (numbers command made))

/-- Commands that are made with no handle to the address, and under other numbers, leave it
to the one command. -/
theorem HeldBy.append (heldBy : program.HeldBy address cuid) {world : World}
    {commands : List Command}
    (fresh : ∀ tag ∈ commands.map Command.tag, tag.2 ≠ some address ∧ tag.1 ≠ cuid)
    (here : cuid < host.nextCuid ∧ address ∈ host.sockets) :
    HeldBy ⟨world, some host, program.commands ++ commands⟩ address cuid ∧
      (Keeps ⟨world, some host, program.commands ++ commands⟩ cuid ↔ program.Keeps cuid) := by
  refine ⟨⟨?_, ?_⟩, ?_⟩
  · intro tag mem
    rw [List.map_append, List.mem_append] at mem
    rcases mem with old | new
    · exact heldBy.only tag old
    · exact iff_of_false (fresh tag new).1 (fresh tag new).2
  · rintro host ⟨⟩
    exact here
  · constructor
    · rintro ⟨tag, mem, same⟩
      rw [List.map_append, List.mem_append] at mem
      rcases mem with old | new
      · exact ⟨tag, old, same⟩
      · exact absurd same (fresh tag new).2
    · rintro ⟨tag, mem, same⟩
      refine ⟨tag, ?_, same⟩
      rw [List.map_append]
      exact List.mem_append_left _ mem

theorem keeps_congr {after : Program}
    (same : after.commands.map Command.tag = program.commands.map Command.tag) :
    after.Keeps cuid ↔ program.Keeps cuid := by
  rw [Keeps, Keeps, same]

/-- Letting go of a command keeps the others. -/
theorem keeps_dropCommand_iff (dropped : Nat) :
    (program.dropCommand dropped).Keeps cuid ↔ program.Keeps cuid ∧ dropped ≠ cuid := by
  constructor
  · rintro ⟨tag, mem, rfl⟩
    obtain ⟨command, kept, rfl⟩ := List.mem_map.1 mem
    obtain ⟨listed, stays⟩ := List.mem_filter.1 kept
    exact ⟨⟨command.tag, List.mem_map_of_mem listed, rfl⟩, (of_decide_eq_true stays).symm⟩
  · rintro ⟨⟨tag, mem, rfl⟩, stays⟩
    obtain ⟨command, listed, rfl⟩ := List.mem_map.1 mem
    have kept : command ∈ (program.dropCommand dropped).commands :=
      List.mem_filter.2 ⟨listed, decide_eq_true stays.symm⟩
    exact ⟨command.tag, List.mem_map_of_mem kept, rfl⟩

/-- As long as no further handle is given to a command, it is the same command that has one
to the address, until it is let go of. -/
theorem HeldBy.move {move : Move} (heldBy : program.HeldBy address cuid)
    (accounted : program.Accounted others)
    (alone : ∀ family action, move = .event (.addCommand family action) → ∀ stack,
      (action stack).readiness? = none) :
    (program.move move).HeldBy address cuid ∧
      ((program.move move).Keeps cuid ↔ program.Keeps cuid ∧ move.drops cuid = false) := by
  have rebooked := program.rebooked_move move
  generalize program.move move = after at rebooked ⊢
  cases rebooked with
  | quiet plain quiet =>
    refine ⟨⟨?_, ?_⟩, ?_⟩
    · rw [quiet.commands]
      exact heldBy.only
    · intro host running
      obtain ⟨earlier, before, sockets, counted⟩ := quiet.exists_earlier running
      obtain ⟨below, mem⟩ := heldBy.host earlier before
      rw [sockets]
      exact ⟨Nat.lt_of_lt_of_le below counted, mem⟩
    · rw [keeps_congr quiet.commands, and_iff_left (plain.drops cuid)]
  | @activated move earlier commands other after plain running connects sockets counted cuids =>
    obtain ⟨below, mem⟩ := heldBy.host earlier running
    have fresh := heldBy.fresh_of_connects accounted running connects fun command made =>
      (cuids command made).1
    rw [and_iff_left (plain.drops cuid)]
    exact heldBy.append fresh
      ⟨Nat.lt_of_lt_of_le below counted, sockets.mem_iff.2 (List.mem_cons_of_mem other mem)⟩
  | @added earlier family action stack network running active handle =>
    obtain ⟨below, mem⟩ := heldBy.host earlier running
    have unready := alone family action rfl stack
    rw [and_iff_left (show Move.drops cuid (.event (.addCommand family action)) = false from rfl)]
    refine heldBy.append (fun tag new => ?_) ⟨Nat.lt_succ_of_lt below, mem⟩
    obtain rfl := List.mem_singleton.1 new
    refine ⟨fun ready => ?_, Nat.ne_of_gt below⟩
    cases unready.symm.trans ready
  | droppedCommands =>
    refine ⟨⟨nofun, heldBy.host⟩, iff_of_false ?_ ?_⟩
    · rintro ⟨tag, mem, -⟩
      cases mem
    · rintro ⟨-, kept⟩
      cases kept
  | droppedCommand dropped =>
    refine ⟨⟨?_, heldBy.host⟩, ?_⟩
    · intro tag mem
      obtain ⟨command, kept, rfl⟩ := List.mem_map.1 mem
      exact heldBy.only _ (List.mem_map_of_mem (List.mem_filter.1 kept).1)
    · rw [keeps_dropCommand_iff, Move.drops, decide_eq_false_iff_not]
  | droppedHost running =>
    have dropped : program.dropHost.host = none := by
      rw [dropHost, running]
    have commands : program.dropHost.commands = program.commands := by
      rw [dropHost, running]
    have stays : Move.drops cuid (.event .dropHost) = false := rfl
    refine ⟨⟨?_, ?_⟩, ?_⟩
    · rw [commands]
      exact heldBy.only
    · intro host there
      cases dropped.symm.trans there
    · rw [and_iff_left stays]
      exact keeps_congr (congrArg (List.map Command.tag) commands)
  | occupied opened =>
    have stays : Move.drops cuid (.event (.occupy opened)) = false := rfl
    rw [and_iff_left stays]
    exact ⟨⟨heldBy.only, heldBy.host⟩, keeps_congr rfl⟩
  | vacated closed =>
    have stays : Move.drops cuid (.event (.vacate closed)) = false := rfl
    rw [and_iff_left stays]
    exact ⟨⟨heldBy.only, heldBy.host⟩, keeps_congr rfl⟩

/-- The command stays the only one with a handle through whole runs, and is kept until a move
lets go of it. -/
theorem HeldBy.moveAll (heldBy : program.HeldBy address cuid)
    (accounted : program.Accounted others) (proper : Proper others moves)
    (alone : ∀ family action, .event (.addCommand family action) ∈ moves → ∀ stack,
      (action stack).readiness? = none) :
    (program.moveAll moves).HeldBy address cuid ∧
      ((program.moveAll moves).Keeps cuid ↔
        program.Keeps cuid ∧ ∀ move ∈ moves, move.drops cuid = false) := by
  induction moves generalizing program others with
  | nil => exact ⟨heldBy, (and_iff_left nofun).symm⟩
  | cons move moves ih =>
    obtain ⟨stillHeld, stillKept⟩ := heldBy.move accounted fun family action same =>
      alone family action (same ▸ List.mem_cons_self)
    obtain ⟨laterHeld, laterKept⟩ := ih stillHeld (accounted.move proper.1) proper.2
      fun family action mem => alone family action (List.mem_cons_of_mem move mem)
    refine ⟨laterHeld, laterKept.trans ?_⟩
    rw [stillKept, List.forall_mem_cons, and_assoc]

/-- Once the host is gone, the program has a handle to the address exactly if it keeps the
command. -/
theorem HeldBy.mem_sockets_iff (heldBy : program.HeldBy address cuid)
    (dropped : program.host = none) : address ∈ program.sockets ↔ program.Keeps cuid := by
  rw [sockets, dropped, Option.map_none, Option.getD_none, List.nil_append, List.mem_filterMap]
  constructor
  · rintro ⟨command, kept, ready⟩
    have mem : command.tag ∈ program.commands.map Command.tag := List.mem_map_of_mem kept
    exact ⟨command.tag, mem, (heldBy.only _ mem).1 ready⟩
  · rintro ⟨tag, mem, same⟩
    have ready := (heldBy.only tag mem).2 same
    obtain ⟨command, kept, rfl⟩ := List.mem_map.1 mem
    exact ⟨command, kept, ready⟩

/-! ## After the host -/

/-- Whatever a program does, executing its commands and shutting them down is what they do by
their links. -/
theorem byLinks_moveAll {world : World} (small : world.network.ephemeral < ephemeralPorts)
    (config : Config) (moves : List Move) (command : Command) :
    let reached := (start world config).moveAll moves
    reached.executeByLinks command = reached.execute command ∧
      reached.shutDownByLinks command = reached.shutDown command := by
  have settled := (settled_start small config).moveAll moves
  exact ⟨settled.executeByLinks_eq command, settled.shutDownByLinks_eq command⟩

/-- The commands of a setup are inert as soon as the host is gone, whatever was done before:
whichever of them are executed and shut down by their links, in whatever order, nothing
changes but what they know of having been executed.  The address of the stack stays bound
until the interaction is let go of, unless somebody else has a handle to it, or the program
made further interactions, which have handles of their own. -/
theorem inert_without_host {world : World} (small : world.network.ephemeral < ephemeralPorts)
    (held : world.network.Held) (config : Config) (code : Int) {moves later : List Move}
    (proper : Proper world.network.handles (moves ++ .event (.setUp code) :: later)) :
    let before := (start world config).moveAll moves
    let commands := (before.setUp code).1
    let made := (before.setUp code).2.2
    let last := made.moveAll later
    let others := foreign world.network.handles (moves ++ .event (.setUp code) :: later)
    commands ≠ [] → last.host = none →
      last.Inert ∧
      (∀ command, last.executeByLinks command = last.execute command ∧
        last.shutDownByLinks command = last.shutDown command) ∧
      ∃ family stack cuid client,
        Family.ofCode? code = some family ∧ made.stack? family = some stack ∧
        ⟨cuid, family, .interaction stack.connection.localAddress client⟩ ∈ commands ∧
        (last.world.network.isBound stack.connection.localAddress = true ↔
          last.Alive (.socket stack.connection.localAddress) ∨
            0 < others stack.connection.localAddress) ∧
        ((∀ family action, .event (.addCommand family action) ∈ later → ∀ stack,
            (action stack).readiness? = none) →
          (last.Alive (.socket stack.connection.localAddress) ↔
            ∀ move ∈ later, move.drops cuid = false)) := by
  intro before commands made last others given dropped
  obtain ⟨properBefore, properSetUp, properLater⟩ := proper_append_iff.1 proper
  have accounted : before.Accounted (foreign world.network.handles moves) :=
    (accounted_start small held config).moveAll properBefore
  have accountedMade : made.Accounted (foreign world.network.handles moves) :=
    accounted.move properSetUp
  have accountedLast := accountedMade.moveAll properLater
  have count : others = foreign (foreign world.network.handles moves) later :=
    List.foldl_append
  have settled := accountedLast.settled
  have whole : (start world config).moveAll (moves ++ .event (.setUp code) :: later) = last :=
    List.foldl_append
  have byLinks (command : Command) := byLinks_moveAll small config
    (moves ++ .event (.setUp code) :: later) command
  rw [whole] at byLinks
  refine ⟨inert_of_dropped dropped, byLinks, ?_⟩
  obtain ⟨family, host, stack, after, known, running, becomes, activated, connects⟩ :=
    exists_connects_of_setUp given
  have numbered := (numbered_start world config).moveAll moves
  obtain ⟨heldBy, keeps⟩ := heldBy_of_connects accounted numbered running activated connects rfl
  obtain ⟨client, more, listed, -⟩ := tags_of_connects activated connects
  rw [← becomes] at heldBy keeps
  refine ⟨family, stack, host.nextCuid, client, known, ?_, ?_, ?_, ?_⟩
  · rw [show made = _ from becomes]
    exact activated.stack?_eq
  · rw [show commands = _ from listed]
    exact List.mem_cons_self
  · rw [accountedLast.isBound_iff, settled.alive_socket_iff, count]
  · intro alone
    obtain ⟨heldLast, keptLast⟩ := heldBy.moveAll accountedMade properLater alone
    rw [settled.alive_socket_iff]
    exact (heldLast.mem_sockets_iff dropped).trans (keptLast.trans (and_iff_right keeps))

/-- A host that was set up is dropped, and with all commands let go of the address of the
stack is free again. -/
theorem inert_without_host_ipv4 :
    let config : Config := ⟨[6881], 1000, ⟨"dht.dat", none, none⟩, ⟨"dht6.dat", none, none⟩⟩
    let world : World := ⟨0, 1700000000, ⟨1⟩, .empty, .empty, ⟨[]⟩, []⟩
    let made := ((start world config).setUp 2).2.2
    let kept := made.moveAll [.event .dropHost]
    let free := made.moveAll [.event .dropHost, .event .dropCommands]
    world.network.ephemeral < ephemeralPorts ∧ world.network.Held ∧
      Proper world.network.handles ([] ++ .event (.setUp 2) :: [.event .dropHost]) ∧
      ((start world config).setUp 2).1 ≠ [] ∧ kept.host = none ∧ kept.Inert ∧ free.Inert ∧
      (∃ stack, made.stack? .ipv4 = some stack ∧
        kept.world.network.isBound stack.connection.localAddress = true ∧
        free.world.network.isBound stack.connection.localAddress = false) := by
  intro config world made kept free
  have small : world.network.ephemeral < ephemeralPorts := by decide
  have held : world.network.Held := held_empty
  have proper : Proper world.network.handles ([] ++ .event (.setUp 2) :: [.event .dropHost]) :=
    ⟨⟨nofun, nofun⟩, ⟨nofun, nofun⟩, trivial⟩
  have properFree : Proper world.network.handles
      ([] ++ .event (.setUp 2) :: [.event .dropHost, .event .dropCommands]) :=
    ⟨⟨nofun, nofun⟩, ⟨nofun, nofun⟩, ⟨nofun, nofun⟩, trivial⟩
  have given : ((start world config).setUp 2).1 ≠ [] := by decide +kernel
  have dropped : kept.host = none := by decide +kernel
  have droppedFree : free.host = none := by decide +kernel
  obtain ⟨inert, -, family, stack, cuid, client, known, there, -, bound, ends⟩ :=
    inert_without_host small held config 2 proper given dropped
  obtain ⟨inertFree, -, family', stack', cuid', client', known', there', -, boundFree, endsFree⟩ :=
    inert_without_host small held config 2 properFree given droppedFree
  obtain rfl : .ipv4 = family := Option.some.inj known
  obtain rfl : .ipv4 = family' := Option.some.inj known'
  obtain rfl : stack' = stack := Option.some.inj (there'.symm.trans there)
  have alive := (ends (by simp)).2 (List.forall_mem_singleton.2 rfl)
  refine ⟨small, held, proper, given, dropped, inert, inertFree, stack', there, bound.2 (.inl alive),
    ?_⟩
  refine Bool.eq_false_iff.2 fun still => ?_
  rcases boundFree.1 still with handle | occupied
  · have stays := (endsFree (by simp)).1 handle
    cases stays (.event .dropCommands) (by simp)
  · exact absurd occupied (Nat.lt_irrefl 0)

end Kademlia.Program
