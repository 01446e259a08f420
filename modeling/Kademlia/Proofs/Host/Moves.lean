import Kademlia.Proofs.Host.Ownership
import Kademlia.Proofs.Network.Handles

/-!
# What can happen to handles

Handles to sockets are opened by setups and by commands that are made, and closed with the
host and with commands.  Others open and close handles of their own.  Nothing else that a
program does, or that is done around it, changes who has a handle.
-/

namespace Kademlia

/-! ## Setting up -/

namespace Host

variable {host after : Host} {family : Family} {stack : Stack}

/-- Slots with stacks at the same addresses have the same sockets. -/
theorem sockets_congr
    (same : ∀ family, (after.slot family).content?.map (·.connection.localAddress) =
      (host.slot family).content?.map (·.connection.localAddress)) :
    after.sockets = host.sockets :=
  congrArg (List.filterMap · Family.all) (funext same)

/-- A stack that becomes active adds its socket. -/
theorem sockets_of_activated (absent : host.slot family = .absent)
    (active : after.slot family = .active stack)
    (others : ∀ other, other ≠ family → after.slot other = host.slot other) :
    after.sockets.Perm (stack.connection.localAddress :: host.sockets) := by
  cases family with
  | ipv4 =>
    have other := others .ipv6 (by decide)
    simp only [sockets, Family.all, List.filterMap_cons, absent, active, other]
    exact .refl _
  | ipv6 =>
    have other := others .ipv4 (by decide)
    simp only [sockets, Family.all, List.filterMap_cons, absent, active, other]
    cases (host.slot .ipv4).content? with
    | none => exact .refl _
    | some held => exact .swap _ _ _

end Host

namespace Site

open Connection Network

variable {site : Site} {family : Family}

/-- Of the commands of a stack the interaction alone has a handle. -/
theorem exists_actions_eq_cons (config : FamilyConfig) (readiness : Address)
    (client : Option ClientHandle) (recovered : Bool) :
    ∃ more, (actions config readiness client recovered).1 = .interaction readiness client :: more ∧
      more.filterMap Action.readiness? = [] := by
  unfold actions
  cases config.entryPoint with
  | none => cases recovered <;> exact ⟨_, rfl, rfl⟩
  | some point =>
    dsimp only
    cases point.isBlank <;> cases recovered <;> exact ⟨_, rfl, rfl⟩

/-- What a setup that makes a stack active does about its socket: it opens it on an
address that was free, with a handle for the stack and one for the interaction. -/
structure Connects (before : Site) (commands : List Command) (address : Address) (after : Site) :
    Prop where
  free : before.world.network.inUse address = false
  opened : ∃ tried, Tried before.world.network tried ∧
    after.world.network = (tried.acquire address).acquire address
  interaction : ∃ client more, commands.map Command.action = .interaction address client :: more ∧
    more.filterMap Action.readiness? = []

/-- A setup that returns commands connects the stack that it makes active. -/
theorem connects_of_ne_nil (absent : site.host.slot family = .absent)
    (made : (site.setUpFamily family).1 ≠ []) {stack : Stack}
    (active : (site.setUpFamily family).2.2.host.slot family = .active stack) :
    Connects site (site.setUpFamily family).1 stack.connection.localAddress
      (site.setUpFamily family).2.2 := by
  rcases site.bindSocket_outcome family with
    ⟨connection, network, succeeds, opened, -⟩ | ⟨error, network, fails, -⟩
  · cases refuses : site.world.network.refusesClones with
    | true =>
      obtain ⟨log, after, whole, -⟩ := setUpFamily_of_refused absent succeeds opened refuses
      rw [whole] at made
      exact absurd rfl made
    | false =>
      obtain ⟨loaded, whole⟩ := setUpFamily_of_bound absent succeeds
      have stillAbsent : (site.setNetwork network).host.slot family = .absent := absent
      obtain ⟨shared, cloned⟩ :=
        exists_clone (opened.refusesClones.trans refuses) connection.localAddress
      obtain ⟨drawn, entropy, -, makes⟩ :=
        setUpStack_eq stillAbsent (site.loadState family).1 connection
      obtain ⟨commands, log, numbered, comes⟩ := makes shared cloned
      obtain ⟨tried, later, acquired⟩ := opened.acquired
      have socket : stack.connection = connection := by
        rw [whole, comes] at active
        have same : (site.setNetwork network).newStack (site.loadState family).1 connection drawn =
            stack := by
          cases family <;> exact Slot.active.inj active
        rw [← same]
        exact ((site.setNetwork network).persists_newStack _ connection drawn).connection
      have bound : network.isBound connection.localAddress = true := by
        rw [acquired, isBound, channel?_acquire, if_pos rfl]
        rfl
      obtain ⟨more, actions_eq, unready⟩ := exists_actions_eq_cons
        (site.host.config.forFamily family) connection.localAddress
        ((site.setNetwork network).newClient family) (!(site.loadState family).1.nodes.isEmpty)
      rw [whole, comes, socket]
      refine ⟨opened.free, ⟨tried, later, ?_⟩, _, more, numbered.actions_eq.trans actions_eq,
        unready⟩
      rw [← acquired]
      exact eq_acquire_of_clone bound cloned
  · obtain ⟨log, whole⟩ := setUpFamily_of_unbound absent fails
    rw [whole] at made
    exact absurd rfl made

end Site

namespace Program

open Network

variable {program between after : Program} {host : Host} {address : Address} {cuid : Nat}

/-! ## Moves -/

/-- What happens to a program, which may also let go of one of its commands alone. -/
inductive Move
  | event (event : Event)
  | dropCommand (cuid : Nat)

namespace Move

/-- Others open a handle to an address. -/
def opens (address : Address) : Move → Bool
  | event (.occupy other) => other = address
  | _ => false

/-- Others close a handle to an address. -/
def closes (address : Address) : Move → Bool
  | event (.vacate other) => other = address
  | _ => false

/-- The program lets go of the command with a number. -/
def drops (cuid : Nat) : Move → Bool
  | event .dropCommands => true
  | dropCommand other => other = cuid
  | _ => false

/-- Others open and close nothing, and no command goes. -/
def Plain : Move → Prop
  | event (.occupy _) => False
  | event (.vacate _) => False
  | event .dropCommands => False
  | dropCommand _ => False
  | _ => True

/-- How many handles others have to an address after a move. -/
def recount (others : Address → Nat) (move : Move) (address : Address) : Nat :=
  if move.opens address then others address + 1
  else if move.closes address then others address - 1
  else others address

theorem recount_occupy (others : Address → Nat) (opened address : Address) :
    recount others (.event (.occupy opened)) address =
      if address = opened then others address + 1 else others address := by
  simp [recount, opens, closes, eq_comm]

theorem recount_vacate (others : Address → Nat) (closed address : Address) :
    recount others (.event (.vacate closed)) address =
      if address = closed then others address - 1 else others address := by
  simp [recount, opens, closes, eq_comm]

variable {move : Move}

theorem Plain.recount (plain : move.Plain) (others : Address → Nat) :
    recount others move = others := by
  cases move with
  | dropCommand cuid => cases plain
  | event event =>
    cases event with
    | occupy address => cases plain
    | vacate address => cases plain
    | _ => rfl

theorem Plain.drops (plain : move.Plain) (cuid : Nat) : move.drops cuid = false := by
  cases move with
  | dropCommand cuid => cases plain
  | event event =>
    cases event with
    | dropCommands => cases plain
    | _ => rfl

end Move

/-- A program after a move. -/
def move (program : Program) : Move → Program
  | .event event => (program.step event).2
  | .dropCommand cuid => program.dropCommand cuid

/-- A program after some moves in order. -/
def moveAll (moves : List Move) (program : Program) : Program :=
  moves.foldl move program

/-- How many handles others have to an address after some moves. -/
def foreign (others : Address → Nat) (moves : List Move) : Address → Nat :=
  moves.foldl Move.recount others

/-! ## Moves that change no handle -/

/-- A program that another one may have become without a handle being opened or closed,
and without a command being made or let go of. -/
structure Quiet (before after : Program) : Prop where
  network : after.world.network.sockets = before.world.network.sockets
  commands : after.commands.map Command.tag = before.commands.map Command.tag
  gone : before.host = none → after.host = none
  host : ∀ host, before.host = some host → ∃ later, after.host = some later ∧
    later.sockets = host.sockets ∧ host.nextCuid ≤ later.nextCuid

namespace Quiet

theorem refl (program : Program) : Quiet program program :=
  ⟨rfl, rfl, id, fun host running => ⟨host, running, rfl, Nat.le_refl _⟩⟩

theorem trans (first : Quiet program between) (second : Quiet between after) :
    Quiet program after := by
  refine ⟨second.network.trans first.network, second.commands.trans first.commands,
    second.gone ∘ first.gone, ?_⟩
  intro host running
  obtain ⟨middle, there, sockets, counted⟩ := first.host host running
  obtain ⟨later, becomes, moreSockets, moreCounted⟩ := second.host middle there
  exact ⟨later, becomes, moreSockets.trans sockets, Nat.le_trans counted moreCounted⟩

/-- The host that there is was there before. -/
theorem exists_earlier (quiet : Quiet program after) {later : Host}
    (running : after.host = some later) :
    ∃ host, program.host = some host ∧ later.sockets = host.sockets ∧
      host.nextCuid ≤ later.nextCuid := by
  cases before : program.host with
  | none =>
    rw [quiet.gone before] at running
    cases running
  | some host =>
    obtain ⟨other, becomes, sockets, counted⟩ := quiet.host host before
    rw [becomes] at running
    cases running
    exact ⟨host, rfl, sockets, counted⟩

theorem sockets (quiet : Quiet program after) : after.sockets = program.sockets := by
  have handles : after.commands.filterMap (·.action.readiness?) =
      program.commands.filterMap (·.action.readiness?) := by
    have same := congrArg (List.filterMap Prod.snd) quiet.commands
    rwa [List.filterMap_map, List.filterMap_map] at same
  rw [Program.sockets, Program.sockets, handles]
  cases running : program.host with
  | none => rw [quiet.gone running]
  | some host =>
    obtain ⟨later, becomes, same, -⟩ := quiet.host host running
    rw [becomes, Option.map_some, Option.map_some, same]

end Quiet

theorem quiet_world {world : World}
    (same : world.network.sockets = program.world.network.sockets) :
    program.Quiet { program with world } :=
  ⟨same, rfl, id, fun host running => ⟨host, running, rfl, Nat.le_refl _⟩⟩

theorem quiet_withHost {change : Host → Host}
    (sockets : ∀ host, (change host).sockets = host.sockets)
    (counted : ∀ host, host.nextCuid ≤ (change host).nextCuid) :
    program.Quiet (program.withHost change) := by
  refine ⟨rfl, rfl, ?_, ?_⟩
  · intro gone
    rw [withHost, gone]
    rfl
  · intro host running
    refine ⟨change host, ?_, sockets host, counted host⟩
    rw [withHost, running]
    rfl

theorem quiet_finish (program : Program) (cuid : Nat) : program.Quiet (program.finish cuid) :=
  ⟨rfl, program.tags_finish cuid, id, fun host running => ⟨host, running, rfl, Nat.le_refl _⟩⟩

/-- What a command does to its stack opens and closes nothing. -/
theorem quiet_runBy (command : Command) {way : Action → World → Stack → Execution}
    (keeps : ∀ world stack, (way command.action world stack).Keeps world stack) :
    program.Quiet (program.runBy command way).2.2 := by
  cases there : program.stack? command.family with
  | none =>
    rw [runBy, there]
    exact .refl program
  | some stack =>
    have kept := keeps program.world stack
    rw [runBy, there]
    refine ⟨kept.network.sockets, rfl, ?_, ?_⟩
    · intro gone
      change program.host.map _ = none
      rw [gone]
      rfl
    · intro host running
      have active := slot_of_stack? running there
      refine ⟨host.setStack command.family (way command.action program.world stack).stack, ?_, ?_,
        ?_⟩
      · change program.host.map _ = _
        rw [running]
        rfl
      · apply Host.sockets_congr
        intro family
        rw [Host.Evolves.slot_setStack active]
        split
        · rename_i same
          rw [same, active]
          exact congrArg (some ·.localAddress) kept.stack.connection
        · rfl
      · cases command.family <;> exact Nat.le_refl _

/-! ## What a move can do -/

/-- The ways in which a move can change who has handles. -/
inductive Rebooked (before : Program) : Move → Program → Prop
  | quiet {move : Move} {after : Program} (plain : move.Plain) (quiet : before.Quiet after) :
      Rebooked before move after
  | activated {move : Move} {host : Host} {commands : List Command} {address : Address}
      {after : Site} (plain : move.Plain) (running : before.host = some host)
      (connects : Site.Connects ⟨before.world, host⟩ commands address after)
      (sockets : after.host.sockets.Perm (address :: host.sockets))
      (counted : host.nextCuid ≤ after.host.nextCuid)
      (cuids : ∀ command ∈ commands,
        host.nextCuid ≤ command.cuid ∧ command.cuid < after.host.nextCuid) :
      Rebooked before move ⟨after.world, some after.host, before.commands ++ commands⟩
  | added {host : Host} {family : Family} {action : Stack → Action} {stack : Stack}
      {network : Network} (running : before.host = some host)
      (active : host.stack? family = some stack)
      (handle : (action stack).readiness? = none ∧ network = before.world.network ∨
        ∃ address, (action stack).readiness? = some address ∧
          stack.connection.readinessHandle before.world.network = .ok network) :
      Rebooked before (.event (.addCommand family action))
        ⟨{ before.world with network }, some host.newCuid.2,
          before.commands ++ [⟨host.nextCuid, family, action stack⟩]⟩
  | droppedCommands : Rebooked before (.event .dropCommands) before.dropCommands
  | droppedCommand (cuid : Nat) : Rebooked before (.dropCommand cuid) (before.dropCommand cuid)
  | droppedHost {host : Host} (running : before.host = some host) :
      Rebooked before (.event .dropHost) before.dropHost
  | occupied (address : Address) :
      Rebooked before (.event (.occupy address))
        (before.withNetwork (before.world.network.acquire address))
  | vacated (address : Address) :
      Rebooked before (.event (.vacate address))
        (before.withNetwork (before.world.network.release address))

/-- A setup makes a stack active and connects it, or it returns no commands and opens no
socket. -/
theorem quiet_or_connects_setUpFamily (program : Program) (family : Family) :
    (program.setUpFamily family).1 = [] ∧ program.Quiet (program.setUpFamily family).2.2 ∨
    ∃ host stack after, program.host = some host ∧ host.slot family = .absent ∧
      (program.setUpFamily family).2.2 =
        ⟨after.world, some after.host, program.commands ++ (program.setUpFamily family).1⟩ ∧
      Site.Activated ⟨program.world, host⟩ family stack (program.setUpFamily family).1 after ∧
      Site.Connects ⟨program.world, host⟩ (program.setUpFamily family).1
        stack.connection.localAddress after := by
  cases running : program.host with
  | none =>
    rw [setUpFamily, setUpBy, running]
    exact .inl ⟨rfl, .refl program⟩
  | some host =>
    by_cases absent : host.slot family = .absent
    · rcases setUpFamily_of_absent running absent with
        ⟨log, world, fails, undisturbed⟩ | ⟨stack, commands, log, after, succeeds, activated⟩
      · rw [fails, ← running]
        exact .inl ⟨rfl, quiet_world undisturbed.network.sockets⟩
      · have whole := setUpFamily_eq running family
        rw [succeeds] at whole
        -- the setup of the site comes to the same
        have sameCommands := congrArg Prod.fst whole
        have sameWorld := congrArg (·.2.2.world) whole
        have sameHost := Option.some.inj (congrArg (·.2.2.host) whole)
        dsimp only at sameCommands sameWorld sameHost
        have made := activated.commands_ne_nil
        have active := activated.slot
        rw [sameCommands] at made
        rw [sameHost] at active
        have siteAbsent : (⟨program.world, host⟩ : Site).host.slot family = .absent := absent
        obtain ⟨free, opened, interaction⟩ := Site.connects_of_ne_nil siteAbsent made active
        rw [← sameWorld] at opened
        rw [← sameCommands] at interaction
        rw [succeeds]
        exact .inr ⟨host, stack, after, rfl, absent, rfl, activated, free, opened, interaction⟩
    · rw [setUpFamily_of_present running absent]
      exact .inl ⟨rfl, .refl program⟩

/-- A setup that returns commands is that of a family, which it connects. -/
theorem exists_connects_of_setUp {code : Int} (made : (program.setUp code).1 ≠ []) :
    ∃ family host stack after, Family.ofCode? code = some family ∧ program.host = some host ∧
      (program.setUp code).2.2 =
        ⟨after.world, some after.host, program.commands ++ (program.setUp code).1⟩ ∧
      Site.Activated ⟨program.world, host⟩ family stack (program.setUp code).1 after ∧
      Site.Connects ⟨program.world, host⟩ (program.setUp code).1
        stack.connection.localAddress after := by
  cases known : Family.ofCode? code with
  | none =>
    rw [setUp_of_unknown known] at made
    exact absurd rfl made
  | some family =>
    rw [setUp_of_code known] at made ⊢
    rcases program.quiet_or_connects_setUpFamily family with
      ⟨nothing, -⟩ | ⟨host, stack, after, running, -, becomes, activated, connects⟩
    · exact absurd nothing made
    · exact ⟨family, host, stack, after, rfl, running, becomes, activated, connects⟩

theorem rebooked_setUpFamily (program : Program) {move : Move} (plain : move.Plain)
    (family : Family) : Rebooked program move (program.setUpFamily family).2.2 := by
  rcases program.quiet_or_connects_setUpFamily family with
    ⟨-, quiet⟩ | ⟨host, stack, after, running, absent, becomes, activated, connects⟩
  · exact .quiet plain quiet
  · rw [becomes]
    refine .activated plain running connects
      (Host.sockets_of_activated absent activated.slot activated.other) ?_ ?_
    · rw [activated.nextCuid]
      exact Nat.le_add_right _ _
    · intro command mem
      have listed : command.cuid ∈ (program.setUpFamily family).1.map Command.cuid :=
        List.mem_map_of_mem mem
      rw [activated.cuids_eq, List.mem_range'_1] at listed
      rw [activated.nextCuid]
      exact listed

theorem rebooked_addCommand (program : Program) (family : Family) (action : Stack → Action) :
    Rebooked program (.event (.addCommand family action))
      (program.step (.addCommand family action)).2 := by
  have plain : (Move.event (.addCommand family action)).Plain := trivial
  rw [step]
  cases running : program.host with
  | none => exact .quiet plain (.refl program)
  | some host =>
    have counted : program.Quiet { program with host := some host.newCuid.2 } :=
      ⟨rfl, rfl, fun gone => absurd (running.symm.trans gone) (Option.some_ne_none host),
        fun other there => ⟨host.newCuid.2, rfl, by
          obtain rfl : host = other := Option.some.inj (running.symm.trans there)
          exact ⟨rfl, Nat.le_succ _⟩⟩⟩
    dsimp only
    unfold addCommand
    cases active : host.stack? family with
    | none =>
      have inactive : host.newCuid.2.stack? family = none := active
      dsimp only [Host.newCuid] at inactive ⊢
      rw [inactive]
      exact .quiet plain counted
    | some stack =>
      have there : host.newCuid.2.stack? family = some stack := active
      dsimp only [Host.newCuid] at there ⊢
      rw [there]
      dsimp only
      cases ready : (action stack).readiness? with
      | none => exact .added running active (.inl ⟨ready, rfl⟩)
      | some address =>
        dsimp only
        cases handle : stack.connection.readinessHandle program.world.network with
        | error error => exact .quiet plain counted
        | ok network => exact .added running active (.inr ⟨address, ready, handle⟩)

/-- Each move is one of these. -/
theorem rebooked_move (program : Program) (move : Move) :
    Rebooked program move (program.move move) := by
  cases move with
  | dropCommand cuid => exact .droppedCommand cuid
  | event event =>
    cases event with
    | setUp code =>
      have plain : (Move.event (.setUp code)).Plain := trivial
      change Rebooked program _ (program.setUp code).2.2
      cases known : Family.ofCode? code with
      | none =>
        rw [setUp_of_unknown known]
        exact .quiet plain (.refl program)
      | some family =>
        rw [setUp_of_code known]
        exact program.rebooked_setUpFamily plain family
    | setUpFamily family =>
      have plain : (Move.event (.setUpFamily family)).Plain := trivial
      exact program.rebooked_setUpFamily plain family
    | setUdpPort port =>
      exact .quiet trivial
        (quiet_withHost (fun _ => rfl) fun _ => Nat.le_refl _)
    | newCuid =>
      exact .quiet trivial
        (quiet_withHost (fun _ => rfl) fun _ => Nat.le_succ _)
    | addCommand family action => exact program.rebooked_addCommand family action
    | makeClient =>
      have served : program.Quiet { program with world := program.world.makeClient.2 } :=
        quiet_world rfl
      exact .quiet trivial
        (served.trans (quiet_withHost (fun _ => rfl) fun _ => Nat.le_refl _))
    | clearClient =>
      exact .quiet trivial
        (quiet_withHost (fun _ => rfl) fun _ => Nat.le_refl _)
    | execute cuid =>
      refine .quiet trivial ?_
      rw [move, step]
      split
      · exact .refl program
      · rename_i command found
        exact (quiet_runBy command fun world stack =>
          command.action.keeps_execute world stack).trans (quiet_finish _ _)
    | shutDown cuid =>
      refine .quiet trivial ?_
      rw [move, step]
      split
      · exact .refl program
      · rename_i command found
        exact quiet_runBy command fun world stack => command.action.keeps_shutDown world stack
    | dropCommands => exact .droppedCommands
    | dropHost =>
      cases running : program.host with
      | none =>
        refine .quiet trivial ?_
        rw [move, step, dropHost, running]
        exact .refl program
      | some host => exact .droppedHost running
    | advance milliseconds =>
      exact .quiet trivial (quiet_world rfl)
    | writeFiles disk =>
      exact .quiet trivial (quiet_world rfl)
    | occupy address => exact .occupied address
    | vacate address => exact .vacated address
    | refuseClones refuses =>
      exact .quiet trivial (quiet_world rfl)
    | deliver source destination bytes =>
      exact .quiet trivial
        (quiet_world (program.world.network.traffic_deliver source destination bytes).sockets)
    | take address =>
      have emptied : program.world.network.Traffic (program.world.network.modify address
          fun channel => { channel with waiting := [] }) :=
        program.world.network.traffic_modify address fun _ => rfl
      exact .quiet trivial (quiet_world emptied.sockets)

end Program

end Kademlia
