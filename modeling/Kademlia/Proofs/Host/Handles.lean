import Kademlia.Proofs.Host.Moves

/-!
# Whose handles there are

Through all that a program does, an address has as many handles as there are stacks and
commands that own one, and others that opened one.  So who still has a handle is what
decides whether the address is bound.
-/

namespace Kademlia.Program

open Network

variable {program : Program} {host : Host} {address : Address}

/-! ## Keeping count -/

/-- A settled program in which every address has as many handles as the program itself and
others own. -/
structure Accounted (program : Program) (others : Address → Nat) : Prop where
  settled : program.Settled
  held : program.world.network.Held
  handles : ∀ address,
    program.world.network.handles address = program.sockets.count address + others address

theorem Settled.move (settled : program.Settled) (move : Move) : (program.move move).Settled := by
  cases move with
  | event event => exact settled.step event
  | dropCommand cuid =>
    refine ⟨?_, settled.host⟩
    change Network.ephemeral (List.foldl _ _ _) < _
    rw [ephemeral_releaseAll]
    exact settled.ephemeral

theorem Settled.moveAll (settled : program.Settled) (moves : List Move) :
    (program.moveAll moves).Settled := by
  induction moves generalizing program with
  | nil => exact settled
  | cons move moves ih => exact ih (settled.move move)

theorem sockets_of_running (running : program.host = some host) :
    program.sockets = host.sockets ++ program.commands.filterMap (·.action.readiness?) := by
  rw [sockets, running]
  rfl

theorem filterMap_readiness_concat (commands : List Command) (command : Command) :
    (commands ++ [command]).filterMap (·.action.readiness?) =
      commands.filterMap (·.action.readiness?) ++ command.action.readiness?.toList := by
  rw [List.filterMap_append]
  cases ready : command.action.readiness? with
  | none => simp [ready]
  | some address => simp [ready]

/-- The address of an active stack is among the sockets. -/
theorem mem_sockets_of_active {family : Family} {stack : Stack}
    (active : host.stack? family = some stack) :
    stack.connection.localAddress ∈ host.sockets := by
  refine List.mem_filterMap.2 ⟨family, by cases family <;> decide, ?_⟩
  rw [Host.stack?] at active
  cases slot : host.slot family with
  | active other =>
    rw [slot] at active
    cases active
    rfl
  | _ =>
    rw [slot] at active
    cases active

variable {others : Address → Nat}

/-- A move in which others close only what they have opened, and in which a command that is
made for a stack has a handle to no other socket than the stack's. -/
structure Move.Proper (others : Address → Nat) (move : Move) : Prop where
  closes : ∀ address, move.closes address = true → 0 < others address
  own : ∀ family action, move = .event (.addCommand family action) → ∀ stack address,
    (action stack).readiness? = some address → address = stack.connection.localAddress

namespace Accounted

/-- An address is bound as long as the program or somebody else has a handle to it. -/
theorem isBound_iff (accounted : program.Accounted others) :
    program.world.network.isBound address = true ↔
      address ∈ program.sockets ∨ 0 < others address := by
  rw [accounted.held.isBound_iff, accounted.handles, ← List.count_pos_iff]
  omega

theorem activated (accounted : program.Accounted others) {commands : List Command} {after : Site}
    (running : program.host = some host)
    (connects : Site.Connects ⟨program.world, host⟩ commands address after)
    (sockets : after.host.sockets.Perm (address :: host.sockets))
    (settled : Settled ⟨after.world, some after.host, program.commands ++ commands⟩) :
    Accounted ⟨after.world, some after.host, program.commands ++ commands⟩ others := by
  obtain ⟨tried, failed, acquired⟩ := connects.opened
  obtain ⟨client, more, actions, unready⟩ := connects.interaction
  have ready : commands.filterMap (·.action.readiness?) = [address] := by
    have listed := congrArg (List.filterMap Action.readiness?) actions
    rw [List.filterMap_map] at listed
    refine listed.trans ?_
    simp only [List.filterMap_cons, Action.readiness?, unready]
  refine ⟨settled, ?_, ?_⟩
  · dsimp only
    rw [acquired]
    exact ((held_congr failed.sockets accounted.held).acquire address).acquire address
  · intro other
    have before := accounted.handles other
    have kept := handles_congr failed.sockets other
    dsimp only at kept ⊢
    rw [sockets_of_running running, List.count_append] at before
    rw [sockets_of_running rfl, List.filterMap_append, ready, List.count_append, List.count_append,
      sockets.count_eq, ← List.singleton_append, List.count_append, acquired,
      handles_acquire_eq_add, handles_acquire_eq_add, kept, before]
    omega

theorem added (accounted : program.Accounted others) {family : Family} {action : Stack → Action}
    {stack : Stack} {network : Network} (running : program.host = some host)
    (active : host.stack? family = some stack)
    (handle : (action stack).readiness? = none ∧ network = program.world.network ∨
      ∃ address, (action stack).readiness? = some address ∧
        stack.connection.readinessHandle program.world.network = .ok network)
    (own : ∀ address, (action stack).readiness? = some address →
      address = stack.connection.localAddress)
    (settled : Settled ⟨{ program.world with network }, some host.newCuid.2,
      program.commands ++ [⟨host.nextCuid, family, action stack⟩]⟩) :
    Accounted ⟨{ program.world with network }, some host.newCuid.2,
      program.commands ++ [⟨host.nextCuid, family, action stack⟩]⟩ others := by
  rcases handle with ⟨unready, rfl⟩ | ⟨address, ready, cloned⟩
  · refine ⟨settled, accounted.held, fun other => ?_⟩
    have before := accounted.handles other
    rw [sockets_of_running running] at before
    rw [sockets_of_running rfl, filterMap_readiness_concat, unready, Option.toList_none,
      List.append_nil]
    exact before
  · obtain rfl := own address ready
    have mem : stack.connection.localAddress ∈ program.sockets := by
      rw [sockets_of_running running]
      exact List.mem_append_left _ (mem_sockets_of_active active)
    obtain rfl := eq_acquire_of_clone (accounted.isBound_iff.2 (.inl mem)) cloned
    refine ⟨settled, accounted.held.acquire _, fun other => ?_⟩
    have before := accounted.handles other
    rw [sockets_of_running running, List.count_append] at before
    dsimp only
    rw [sockets_of_running rfl, filterMap_readiness_concat, ready, Option.toList_some,
      List.count_append, List.count_append, handles_acquire_eq_add, before]
    change _ = List.count other host.sockets + _ + _
    omega

theorem droppedCommands (accounted : program.Accounted others)
    (settled : program.dropCommands.Settled) : program.dropCommands.Accounted others := by
  refine ⟨settled, accounted.held.releaseAll _, fun other => ?_⟩
  have before := accounted.handles other
  rw [sockets, List.count_append] at before
  rw [sockets, dropCommands]
  dsimp only
  rw [handles_releaseAll, before, List.filterMap_nil, List.append_nil]
  omega

theorem droppedCommand (accounted : program.Accounted others) {cuid : Nat}
    (settled : (program.dropCommand cuid).Settled) :
    (program.dropCommand cuid).Accounted others := by
  refine ⟨settled, accounted.held.releaseAll _, fun other => ?_⟩
  have before := accounted.handles other
  have parted := (List.filter_append_perm (fun command : Command => command.cuid = cuid)
    program.commands).filterMap (·.action.readiness?)
  have counts := parted.count_eq other
  rw [List.filterMap_append, List.count_append] at counts
  rw [sockets, List.count_append] at before
  rw [sockets, dropCommand]
  dsimp only
  rw [handles_releaseAll, before, List.count_append]
  simp only [decide_not] at counts ⊢
  omega

theorem droppedHost (accounted : program.Accounted others) (running : program.host = some host)
    (settled : program.dropHost.Settled) : program.dropHost.Accounted others := by
  have dropped : program.dropHost =
      { program with
        world :=
          { program.world with
            network := host.sockets.foldl Network.release program.world.network }
        host := none } := by
    rw [dropHost, running]
    rfl
  rw [dropped] at settled ⊢
  refine ⟨settled, accounted.held.releaseAll _, fun other => ?_⟩
  have before := accounted.handles other
  rw [sockets_of_running running, List.count_append] at before
  dsimp only
  rw [handles_releaseAll, before, sockets, Option.map_none, Option.getD_none, List.nil_append]
  dsimp only
  omega

/-- A move keeps count of the handles. -/
theorem move (accounted : program.Accounted others) {move : Move} (proper : move.Proper others) :
    (program.move move).Accounted (Move.recount others move) := by
  have settled := accounted.settled.move move
  have rebooked := program.rebooked_move move
  generalize program.move move = after at settled rebooked ⊢
  cases rebooked with
  | quiet plain quiet =>
    rw [plain.recount]
    refine ⟨settled, held_congr quiet.network accounted.held, fun other => ?_⟩
    rw [handles_congr quiet.network, quiet.sockets]
    exact accounted.handles other
  | activated plain running connects sockets counted cuids =>
    rw [plain.recount]
    exact accounted.activated running connects sockets settled
  | @added host family action stack network running active handle =>
    exact accounted.added running active handle (proper.own family action rfl stack) settled
  | droppedCommands => exact accounted.droppedCommands settled
  | droppedCommand cuid => exact accounted.droppedCommand settled
  | droppedHost running => exact accounted.droppedHost running settled
  | occupied opened =>
    refine ⟨settled, accounted.held.acquire opened, fun other => ?_⟩
    have before := accounted.handles other
    change (program.world.network.acquire opened).handles other = program.sockets.count other + _
    rw [handles_acquire, Move.recount_occupy, before]
    split
    · rfl
    · rfl
  | vacated closed =>
    refine ⟨settled, accounted.held.release closed, fun other => ?_⟩
    have before := accounted.handles other
    change (program.world.network.release closed).handles other = program.sockets.count other + _
    rw [handles_release, Move.recount_vacate, before]
    split
    · rename_i here
      have closed := proper.closes other (by simp [Move.closes, here])
      omega
    · rfl

end Accounted

/-! ## Whole runs -/

/-- Moves that are proper one after the other. -/
def Proper (others : Address → Nat) : List Move → Prop
  | [] => True
  | move :: moves => move.Proper others ∧ Proper (Move.recount others move) moves

theorem proper_append_iff {first second : List Move} :
    Proper others (first ++ second) ↔ Proper others first ∧ Proper (foreign others first) second := by
  induction first generalizing others with
  | nil => exact (and_iff_right trivial).symm
  | cons move first ih => exact (and_congr_right fun _ => ih).trans and_assoc.symm

/-- The handles stay accounted for, whatever the program does. -/
theorem Accounted.moveAll (accounted : program.Accounted others) {moves : List Move}
    (proper : Proper others moves) : (program.moveAll moves).Accounted (foreign others moves) := by
  induction moves generalizing program others with
  | nil => exact accounted
  | cons move moves ih => exact ih (accounted.move proper.1) proper.2

/-- A program that has just made its host owns no handle. -/
theorem accounted_start {world : World} (small : world.network.ephemeral < ephemeralPorts)
    (held : world.network.Held) (config : Config) :
    (start world config).Accounted world.network.handles :=
  ⟨settled_start small config, held, fun _ => (Nat.zero_add _).symm⟩

end Kademlia.Program
