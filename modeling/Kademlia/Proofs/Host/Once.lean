import Kademlia.Proofs.Host.Vanished

/-!
# Commands that are executed once

A command that was to be executed once knows it when it was, and whatever else the program
does, that command does nothing any more.
-/

namespace Kademlia

namespace Action

variable {action : Action}

/-- What was done once is not done again. -/
theorem execute_of_done (done : action.isDone = true) (world : World) (stack : Stack) :
    action.execute world stack = silently world stack := by
  cases action with
  | forcedBucketRefresh done' =>
    obtain rfl : done' = true := done
    rfl
  | entryPoint points bootstrap done' =>
    obtain rfl : done' = true := done
    rfl
  | _ => cases done

theorem isDone_finished (done : action.isDone = true) : action.finished.isDone = true := by
  cases action with
  | forcedBucketRefresh done' => rfl
  | entryPoint points bootstrap done' => rfl
  | _ => cases done

end Action

/-- A stack that is put back as it was changes nothing. -/
theorem Host.setStack_of_active {host : Host} {family : Family} {stack : Stack}
    (active : host.slot family = .active stack) : host.setStack family stack = host := by
  rw [setStack, active, Slot.modify, ← active]
  cases family <;> rfl

namespace Program

variable {program : Program} {host : Host} {family : Family} {command : Command} {cuid : Nat}
  {action : Action}

/-! ## Commands that are done -/

/-- The command with a number is done, and no other command will get its number. -/
structure Spent (program : Program) (cuid : Nat) : Prop where
  done : ∀ command, program.command? cuid = some command → command.action.isDone = true
  counted : ∀ host, program.host = some host → cuid < host.nextCuid

theorem commands_setUpFamily (program : Program) (family : Family) :
    (program.setUpFamily family).2.2.commands =
      program.commands ++ (program.setUpFamily family).1 := by
  rw [setUpFamily, setUpBy]
  cases program.host with
  | none => exact (List.append_nil _).symm
  | some host => rfl

/-- The commands that a setup makes have numbers from the host's next one on. -/
theorem le_cuid_of_mem_setUpFamily (running : program.host = some host)
    (made : command ∈ (program.setUpFamily family).1) : host.nextCuid ≤ command.cuid := by
  rcases program.quiet_or_connects_setUpFamily family with
    ⟨nothing, -⟩ | ⟨earlier, stack, after, there, -, -, activated, -⟩
  · rw [nothing] at made
    exact absurd made List.not_mem_nil
  · obtain rfl : host = earlier := Option.some.inj (running.symm.trans there)
    have listed : command.cuid ∈ (program.setUpFamily family).1.map Command.cuid :=
      List.mem_map_of_mem made
    rw [activated.cuids_eq, List.mem_range'_1] at listed
    exact listed.1

/-- Commands under later numbers are not found under an earlier one. -/
theorem find?_append_of_lt {commands made : List Command}
    (later : ∀ command ∈ made, cuid < command.cuid) :
    (commands ++ made).find? (·.cuid = cuid) = commands.find? (·.cuid = cuid) := by
  have unmade : made.find? (·.cuid = cuid) = none := by
    rw [List.find?_eq_none]
    intro command mem same
    exact absurd (of_decide_eq_true same) (Nat.ne_of_gt (later command mem))
  rw [List.find?_append, unmade, Option.or_none]

/-! ### What is found under a number -/

/-- A setup finds other numbers for its commands than those that were given out. -/
theorem command?_setUpFamily (counted : ∀ host, program.host = some host → cuid < host.nextCuid)
    (family : Family) :
    (program.setUpFamily family).2.2.command? cuid = program.command? cuid := by
  cases running : program.host with
  | none => rw [setUpFamily, setUpBy, running]
  | some host =>
    have later : ∀ made ∈ (program.setUpFamily family).1, cuid < made.cuid := fun made mem =>
      Nat.lt_of_lt_of_le (counted host running) (le_cuid_of_mem_setUpFamily running mem)
    rw [command?, commands_setUpFamily, find?_append_of_lt later]
    rfl

theorem command?_addCommand (counted : ∀ host, program.host = some host → cuid < host.nextCuid)
    (family : Family) (action : Stack → Action) :
    (program.step (.addCommand family action)).2.command? cuid = program.command? cuid := by
  rw [step]
  cases running : program.host with
  | none => rfl
  | some host =>
    dsimp only
    rcases program.addCommand_outcome host family action with
      ⟨outcome, failed, comes⟩ | ⟨made, network, number, -, comes⟩
    · rw [comes]
      split
      · rename_i other after parts
        exact absurd (congrArg Prod.fst parts) (failed other)
      · rename_i parts
        cases parts
        rfl
    · have later : ∀ other ∈ [made], cuid < other.cuid := by
        intro other mem
        rw [List.mem_singleton.1 mem, number]
        exact counted host running
      rw [comes, command?, find?_append_of_lt later]
      rfl

theorem command?_dropCommand (program : Program) (other cuid : Nat) :
    (program.dropCommand other).command? cuid =
      if cuid = other then none else program.command? cuid := by
  rw [command?, dropCommand, List.find?_filter]
  split
  · rename_i same
    rw [same, List.find?_eq_none]
    intro command mem both
    simp at both
  · rename_i apart
    congr 1
    funext command
    by_cases same : command.cuid = cuid
    · simp [same, apart]
    · simp [same]

theorem command?_finish (program : Program) (other cuid : Nat) :
    (program.finish other).command? cuid =
      (program.command? cuid).map fun command =>
        if command.cuid = other then { command with action := command.action.finished }
        else command := by
  rw [command?, finish, List.find?_map, command?]
  congr 2
  funext command
  rw [Function.comp_apply]
  split
  · rfl
  · rfl

theorem command?_runBy (program : Program) (command : Command)
    (way : Action → World → Stack → Execution) (cuid : Nat) :
    (program.runBy command way).2.2.command? cuid = program.command? cuid := by
  rw [runBy]
  split
  · rfl
  · rfl

theorem command?_execute (program : Program) (command : Command) (cuid : Nat) :
    (program.execute command).2.2.command? cuid =
      (program.command? cuid).map fun kept =>
        if kept.cuid = command.cuid then { kept with action := kept.action.finished }
        else kept := by
  change ((program.runBy command Action.execute).2.2.finish command.cuid).command? cuid = _
  rw [command?_finish, command?_runBy]

/-- Whatever happens, the command with a number that was given out is the one that it was, or
there is none any more; and once it is done it stays so. -/
theorem exists_command?_of_move {move : Move}
    (counted : ∀ host, program.host = some host → cuid < host.nextCuid)
    (found : (program.move move).command? cuid = some command) :
    ∃ earlier, program.command? cuid = some earlier ∧
      (earlier.action.isDone = true → command.action.isDone = true) := by
  have setUp {family : Family}
      (found : (program.setUpFamily family).2.2.command? cuid = some command) :
      ∃ earlier, program.command? cuid = some earlier ∧
        (earlier.action.isDone = true → command.action.isDone = true) :=
    ⟨command, (command?_setUpFamily counted family).symm.trans found, id⟩
  cases move with
  | dropCommand other =>
    rw [Program.move, command?_dropCommand] at found
    split at found
    · cases found
    · exact ⟨command, found, id⟩
  | event event =>
    cases event with
    | setUp code =>
      change (program.setUp code).2.2.command? cuid = some command at found
      cases known : Family.ofCode? code with
      | none =>
        rw [setUp_of_unknown known] at found
        exact ⟨command, found, id⟩
      | some family =>
        rw [setUp_of_code known] at found
        exact setUp found
    | setUpFamily family => exact setUp found
    | addCommand family action =>
      exact ⟨command, (command?_addCommand counted family action).symm.trans found, id⟩
    | execute other =>
      rw [Program.move, step] at found
      cases kept : program.command? other with
      | none =>
        rw [kept] at found
        exact ⟨command, found, id⟩
      | some executed =>
        rw [kept] at found
        dsimp only at found
        rw [command?_execute, Option.map_eq_some_iff] at found
        obtain ⟨earlier, there, rfl⟩ := found
        refine ⟨earlier, there, fun done => ?_⟩
        split
        · exact Action.isDone_finished done
        · exact done
    | shutDown other =>
      rw [Program.move, step] at found
      cases kept : program.command? other with
      | none =>
        rw [kept] at found
        exact ⟨command, found, id⟩
      | some executed =>
        rw [kept] at found
        exact ⟨command, (program.command?_runBy executed _ cuid).symm.trans found, id⟩
    | dropCommands => cases found
    -- Commands stay when the host is gone, though they do nothing any more.
    | dropHost =>
      rw [Program.move, step, dropHost] at found
      cases running : program.host with
      | none =>
        rw [running] at found
        exact ⟨command, found, id⟩
      | some host =>
        rw [running] at found
        exact ⟨command, found, id⟩
    | _ => exact ⟨command, found, id⟩

/-- The host gives out higher and higher numbers. -/
theorem exists_nextCuid_le_of_move {move : Move} {later : Host}
    (running : (program.move move).host = some later) :
    ∃ host, program.host = some host ∧ host.nextCuid ≤ later.nextCuid := by
  have rebooked := program.rebooked_move move
  generalize program.move move = after at rebooked running
  cases rebooked with
  | quiet plain quiet =>
    obtain ⟨host, there, -, counted⟩ := quiet.exists_earlier running
    exact ⟨host, there, counted⟩
  | @activated move host commands address after plain there connects sockets counted cuids =>
    cases running
    exact ⟨host, there, counted⟩
  | @added host family action stack network there active handle =>
    cases running
    exact ⟨host, there, Nat.le_succ _⟩
  | droppedCommands => exact ⟨later, running, Nat.le_refl _⟩
  | droppedCommand other => exact ⟨later, running, Nat.le_refl _⟩
  | droppedHost there =>
    rw [dropHost, there] at running
    cases running
  | occupied address => exact ⟨later, running, Nat.le_refl _⟩
  | vacated address => exact ⟨later, running, Nat.le_refl _⟩

theorem Spent.move (spent : program.Spent cuid) (move : Move) :
    (program.move move).Spent cuid := by
  constructor
  · intro command found
    obtain ⟨earlier, there, stays⟩ := exists_command?_of_move spent.counted found
    exact stays (spent.done earlier there)
  · intro later running
    obtain ⟨host, there, counted⟩ := exists_nextCuid_le_of_move running
    exact Nat.lt_of_lt_of_le (spent.counted host there) counted

/-- A command that is done stays so through whole runs. -/
theorem Spent.moveAll (spent : program.Spent cuid) (moves : List Move) :
    (program.moveAll moves).Spent cuid := by
  induction moves generalizing program with
  | nil => exact spent
  | cons move moves ih => exact ih (spent.move move)

/-- Executing a command that is done changes nothing of the host and of what is around it. -/
theorem Spent.execute_eq (spent : program.Spent cuid) :
    let after := program.move (.event (.execute cuid))
    after.world = program.world ∧ after.host = program.host := by
  intro after
  cases kept : program.command? cuid with
  | none =>
    have same : after = program := by
      change (program.step (.execute cuid)).2 = program
      rw [step, kept]
    exact same ▸ ⟨rfl, rfl⟩
  | some command =>
    have same : after = (program.execute command).2.2 := by
      change (program.step (.execute cuid)).2 = _
      rw [step, kept]
    have silent := Action.execute_of_done (spent.done command kept)
    rw [same]
    change (program.runBy command Action.execute).2.2.world = _ ∧
      (program.runBy command Action.execute).2.2.host = _
    cases there : program.stack? command.family with
    | none =>
      rw [runBy, there]
      exact ⟨rfl, rfl⟩
    | some stack =>
      rw [runBy, there]
      dsimp only
      rw [silent]
      refine ⟨rfl, ?_⟩
      change program.host.map _ = program.host
      cases running : program.host with
      | none => rfl
      | some host =>
        exact congrArg some (Host.setStack_of_active (slot_of_stack? running there))

/-- A command that is to be executed once is done when it was. -/
theorem spent_execute (numbered : program.Numbered) (kept : program.command? cuid = some command)
    (once : command.action.finished.isDone = true) :
    (program.move (.event (.execute cuid))).Spent cuid := by
  have number : command.cuid = cuid := by
    have found := List.find?_some (show program.commands.find? _ = some command from kept)
    exact of_decide_eq_true found
  constructor
  · intro later found
    change (program.step (.execute cuid)).2.command? cuid = some later at found
    rw [step, kept] at found
    dsimp only at found
    rw [command?_execute, kept, Option.map_some, if_pos rfl] at found
    rw [← Option.some.inj found]
    exact once
  · intro later running
    obtain ⟨host, there, counted⟩ := exists_nextCuid_le_of_move running
    have tag : command.tag ∈ program.commands.map Command.tag :=
      List.mem_map_of_mem (List.mem_of_find?_eq_some kept)
    rw [← number]
    exact Nat.lt_of_lt_of_le (numbered host there command.tag tag) counted

/-- What executing a command makes of its stack. -/
theorem stack?_execute (kept : program.command? cuid = some ⟨cuid, family, action⟩)
    {stack : Stack} (active : program.stack? family = some stack) :
    let after := program.move (.event (.execute cuid))
    let execution := action.execute program.world stack
    after.world = execution.world ∧ after.stack? family = some execution.stack := by
  intro after execution
  have same : after = (program.execute ⟨cuid, family, action⟩).2.2 := by
    change (program.step (.execute cuid)).2 = _
    rw [step, kept]
  rw [same]
  change (program.runBy ⟨cuid, family, action⟩ Action.execute).2.2.world = _ ∧
    (program.runBy ⟨cuid, family, action⟩ Action.execute).2.2.stack? family = _
  rw [runBy, active]
  refine ⟨rfl, ?_⟩
  obtain ⟨host, running, there⟩ := Option.bind_eq_some_iff.1 active
  have slot := slot_of_stack? running active
  change (program.host.map (·.setStack family execution.stack)).bind (·.stack? family) = _
  rw [running]
  change ((host.setStack family execution.stack).slot family).stack? = _
  rw [Host.Evolves.slot_setStack slot, if_pos rfl]
  rfl

end Program

end Kademlia
