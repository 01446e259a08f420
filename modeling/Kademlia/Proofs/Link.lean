import Kademlia.Link.Graph
import Kademlia.Proofs.Stack.Tasks
import Mathlib.Data.List.Induction

/-!
# Links keep what they were pointed at

Whatever happens among owned values and links, a link points where it was pointed first, and
only its own wiring points it anywhere: neither its copies nor the one it is a copy of have
any part in that.  What it points at it gives as long as that is owned.  So a task that was
made before its maker's links were wired never finds what it needs.
-/

namespace Kademlia

/-- What happens among owned values and links to them. -/
inductive LinkEvent (α : Type)
  | own (value : α)
  | drop (target : Nat)
  | unwired (name : String)
  | wiredTo (name : String) (target : Nat)
  | copy (index : Nat)
  | wire (index target : Nat)

namespace Link

variable {κ α : Type} {owned : κ → Option α} {link : Link κ} {value : α}

theorem get_eq_some_iff :
    link.get owned = some value ↔ ∃ target, link.target = some target ∧ owned target = some value :=
  Option.bind_eq_some_iff

/-- Requiring what a link points at fails only for want of it. -/
theorem require_eq (owned : κ → Option α) (link : Link κ) :
    link.require owned = (link.get owned).elim (.error (.notWired link.name)) .ok := by
  unfold require
  cases link.get owned with
  | none => rfl
  | some value => rfl

theorem require_eq_ok_iff : link.require owned = .ok value ↔ link.get owned = some value := by
  rw [require_eq]
  cases link.get owned with
  | none => exact iff_of_false nofun nofun
  | some given => simp

theorem ensureWired_eq_ok_iff : link.ensureWired = .ok () ↔ link.isWired = true := by
  unfold ensureWired
  split
  · rename_i wired
    exact iff_of_true rfl wired
  · rename_i unwired
    exact iff_of_false nofun unwired

end Link

namespace LinkGraph

variable {α : Type} {graph : LinkGraph α} {event : LinkEvent α} {events : List (LinkEvent α)}
  {index target : Nat} {link : Link Nat} {value : α}

/-- Whether a value is owned. -/
def owns (graph : LinkGraph α) (target : Nat) : Bool :=
  (graph.owned target).isSome

/-- What comes of an event.  Only what is owned can be pointed at, and a link that cannot be
wired leaves all as it is. -/
def step (graph : LinkGraph α) : LinkEvent α → LinkGraph α
  | .own value => graph.own value
  | .drop target => graph.drop target
  | .unwired name => graph.addLink (.unwired name)
  | .wiredTo name target => if graph.owns target then graph.addLink (.wiredTo name target) else graph
  | .copy index => graph.copy index
  | .wire index target =>
      if graph.owns target then (graph.wire index target).toOption.getD graph else graph

/-- What comes of some events in order. -/
def run (graph : LinkGraph α) (events : List (LinkEvent α)) : LinkGraph α :=
  events.foldl step graph

/-! ## Links -/

/-- What an event wires a link to, unless that has a target. -/
def pointedBy (graph : LinkGraph α) (index : Nat) : LinkEvent α → Option Nat
  | .wire other target => if other = index ∧ graph.owns target then some target else none
  | _ => none

/-- What the first of some events that wires a link wires it to. -/
def firstPointed (index : Nat) : LinkGraph α → List (LinkEvent α) → Option Nat
  | _, [] => none
  | graph, event :: events =>
      (graph.pointedBy index event).or (firstPointed index (graph.step event) events)

theorem wire_of_unwired (found : graph.links[index]? = some link) (unwired : link.target = none)
    (target : Nat) :
    graph.wire index target =
      .ok { graph with links := graph.links.set index { link with target := some target } } := by
  unfold wire Link.wire
  rw [found]
  dsimp only
  rw [unwired]
  rfl

theorem wire_of_wired (found : graph.links[index]? = some link) (wired : link.isWired = true)
    (target : Nat) : graph.wire index target = .error (.alreadyWired link.name) := by
  obtain ⟨first, same⟩ := Option.isSome_iff_exists.1 wired
  unfold wire Link.wire
  rw [found]
  dsimp only
  rw [same]
  rfl

/-- Wiring a link leaves the others alone. -/
theorem getElem?_links_wire_of_ne {after : LinkGraph α} {other : Nat} (different : other ≠ index)
    (wired : graph.wire other target = .ok after) : after.links[index]? = graph.links[index]? := by
  unfold wire at wired
  split at wired
  · rename_i own _
    cases next : own.wire target with
    | error fault =>
      rw [next] at wired
      cases wired
    | ok own =>
      rw [next] at wired
      cases wired
      exact List.getElem?_set_ne different
  · cases wired
    rfl

theorem getElem?_links_addLink (found : graph.links[index]? = some link) (other : Link Nat) :
    (graph.addLink other).links[index]? = some link := by
  obtain ⟨inside, -⟩ := List.getElem?_eq_some_iff.1 found
  exact (List.getElem?_append_left inside).trans found

/-- A copy is numbered behind all links there are, and is as the link is then. -/
theorem getElem?_links_copy (found : graph.links[index]? = some link) :
    (graph.copy index).links[graph.links.length]? = some link := by
  rw [copy, found]
  exact List.getElem?_concat_length

/-- An event changes a link only if it wires it, and only if it has no target yet. -/
theorem getElem?_links_step (found : graph.links[index]? = some link) (event : LinkEvent α) :
    (graph.step event).links[index]? =
      some { link with target := link.target.or (graph.pointedBy index event) } := by
  have same : { link with target := link.target.or none } = link := by rw [Option.or_none]
  cases event with
  | own value => exact found.trans (congrArg some same.symm)
  | drop target => exact found.trans (congrArg some same.symm)
  | unwired name => exact (getElem?_links_addLink found _).trans (congrArg some same.symm)
  | wiredTo name target =>
    unfold step
    dsimp only
    split
    · exact (getElem?_links_addLink found _).trans (congrArg some same.symm)
    · exact found.trans (congrArg some same.symm)
  | copy other =>
    change (graph.copy other).links[index]? = some { link with target := link.target.or none }
    rw [same]
    unfold copy
    split
    · exact getElem?_links_addLink found _
    · exact found
  | wire other target =>
    unfold step pointedBy
    dsimp only
    by_cases owned : graph.owns target = true
    · rw [if_pos owned]
      by_cases own : other = index
      · subst own
        rw [if_pos ⟨rfl, owned⟩]
        cases first : link.target with
        | none =>
          obtain ⟨inside, -⟩ := List.getElem?_eq_some_iff.1 found
          rw [wire_of_unwired found first]
          exact List.getElem?_set_self inside
        | some earlier =>
          have wired : link.isWired = true := by rw [Link.isWired, first]; rfl
          rw [wire_of_wired found wired, Option.some_or, ← first]
          exact found
      · rw [if_neg fun both => own both.1, same]
        cases wired : graph.wire other target with
        | error fault => exact found
        | ok after => exact (getElem?_links_wire_of_ne own wired).trans found
    · rw [if_neg owned, if_neg fun both => owned both.2, same]
      exact found

/-- After any events a link points where it pointed before, or else at what the first event
that wires it wires it to. -/
theorem getElem?_links_run (found : graph.links[index]? = some link)
    (events : List (LinkEvent α)) :
    (graph.run events).links[index]? =
      some { link with target := link.target.or (graph.firstPointed index events) } := by
  induction events generalizing graph link with
  | nil =>
    rw [firstPointed, Option.or_none]
    exact found
  | cons event events ih =>
    rw [firstPointed, ← Option.or_assoc]
    exact ih (getElem?_links_step found event)

theorem firstPointed_of_unnamed (unnamed : ∀ target, .wire index target ∉ events) :
    graph.firstPointed index events = none := by
  induction events generalizing graph with
  | nil => rfl
  | cons event events ih =>
    have here : graph.pointedBy index event = none := by
      cases event with
      | wire other target =>
        refine if_neg fun both => unnamed target ?_
        rw [both.1]
        exact List.mem_cons_self
      | _ => rfl
    rw [firstPointed, here, Option.none_or]
    exact ih fun target mem => unnamed target (List.mem_cons_of_mem event mem)

/-- A link that no event wires stays as it is, whatever becomes of the others. -/
theorem getElem?_links_run_of_unnamed (found : graph.links[index]? = some link)
    (unnamed : ∀ target, .wire index target ∉ events) :
    (graph.run events).links[index]? = some link := by
  rw [getElem?_links_run found, firstPointed_of_unnamed unnamed, Option.or_none]

theorem getElem?_links_run_of_wired (found : graph.links[index]? = some link)
    (wired : link.isWired = true) (events : List (LinkEvent α)) :
    (graph.run events).links[index]? = some link := by
  obtain ⟨first, same⟩ := Option.isSome_iff_exists.1 wired
  rw [getElem?_links_run found, same, Option.some_or, ← same]

/-! ## Values -/

/-- How many values some events make. -/
def made (events : List (LinkEvent α)) : Nat :=
  events.countP fun
    | .own _ => true
    | _ => false

/-- By some events a value is owned under a number: it was made as the one with that number,
and was not dropped since. -/
def StillOwned (events : List (LinkEvent α)) (target : Nat) (value : α) : Prop :=
  ∃ earlier later, events = earlier ++ .own value :: later ∧ made earlier = target ∧
    .drop target ∉ later

theorem run_concat (graph : LinkGraph α) (events : List (LinkEvent α)) (event : LinkEvent α) :
    graph.run (events ++ [event]) = (graph.run events).step event := by
  rw [run, List.foldl_append]
  rfl

theorem values_wire (graph : LinkGraph α) (index target : Nat) :
    ((graph.wire index target).toOption.getD graph).values = graph.values := by
  unfold wire
  split
  · rename_i link _
    cases link.wire target with
    | error fault => rfl
    | ok link => rfl
  · rfl

/-- Only making and dropping values changes which there are. -/
theorem values_step (graph : LinkGraph α) (event : LinkEvent α) :
    (graph.step event).values =
      match event with
      | .own value => graph.values ++ [some value]
      | .drop target => graph.values.set target none
      | _ => graph.values := by
  cases event with
  | own value => rfl
  | drop target => rfl
  | unwired name => rfl
  | wiredTo name target =>
    unfold step
    dsimp only
    split
    · rfl
    · rfl
  | copy index =>
    change (graph.copy index).values = graph.values
    unfold copy
    split
    · rfl
    · rfl
  | wire index target =>
    unfold step
    dsimp only
    split
    · exact graph.values_wire index target
    · rfl

theorem length_values_run (name : String) (events : List (LinkEvent α)) :
    ((start name).run events).values.length = made events := by
  induction events using List.reverseRec with
  | nil => rfl
  | append_singleton events event ih =>
    rw [run_concat, values_step, made, List.countP_append, ← made, ← ih]
    cases event <;> simp

theorem owned_step (graph : LinkGraph α) (event : LinkEvent α) (target : Nat) :
    (graph.step event).owned target =
      match event with
      | .own value => if target = graph.values.length then some value else graph.owned target
      | .drop other => if other = target then none else graph.owned target
      | _ => graph.owned target := by
  unfold owned
  rw [values_step]
  cases event with
  | own value =>
    dsimp only
    grind
  | drop other =>
    dsimp only
    grind
  | _ => rfl

theorem stillOwned_concat_iff :
    StillOwned (events ++ [event]) target value ↔
      StillOwned events target value ∧ event ≠ .drop target ∨
        event = .own value ∧ made events = target := by
  constructor
  · rintro ⟨earlier, later, parts, number, kept⟩
    rcases List.eq_nil_or_concat later with rfl | ⟨middle, last, rfl⟩
    · obtain ⟨rfl, same⟩ := List.append_inj' parts rfl
      exact .inr ⟨List.singleton_inj.1 same, number⟩
    · rw [List.concat_eq_append, ← List.cons_append, ← List.append_assoc] at parts
      obtain ⟨rfl, same⟩ := List.append_inj' parts rfl
      rw [List.singleton_inj] at same
      rw [List.concat_eq_append, List.mem_append, not_or, List.mem_singleton] at kept
      exact .inl ⟨⟨earlier, middle, rfl, number, kept.1⟩, fun dropped => kept.2 (same ▸ dropped.symm)⟩
  · rintro (⟨⟨earlier, later, rfl, number, kept⟩, other⟩ | ⟨rfl, number⟩)
    · refine ⟨earlier, later ++ [event], by simp, number, ?_⟩
      rw [List.mem_append, not_or, List.mem_singleton]
      exact ⟨kept, Ne.symm other⟩
    · exact ⟨events, [], rfl, number, List.not_mem_nil⟩

/-- A value is owned when it was made and was not dropped since. -/
theorem owned_run_iff (name : String) :
    ((start name).run events).owned target = some value ↔ StillOwned events target value := by
  induction events using List.reverseRec with
  | nil =>
    refine iff_of_false nofun ?_
    rintro ⟨earlier, later, parts, -⟩
    simp at parts
  | append_singleton events event ih =>
    have beyond : ((start name).run events).owned (made events) = none := by
      rw [owned, List.getElem?_eq_none (Nat.le_of_eq (length_values_run name events))]
      rfl
    rw [run_concat, owned_step, stillOwned_concat_iff, ← ih]
    cases event with
    | own own =>
      rw [length_values_run]
      dsimp only
      split
      · rename_i here
        subst here
        simp [beyond]
      · rename_i elsewhere
        simp [Ne.symm elsewhere]
    | drop other =>
      dsimp only
      split
      · rename_i here
        simp [here]
      · rename_i elsewhere
        simp [elsewhere]
    | _ => simp

end LinkGraph

/-! ## Tasks -/

namespace Stack

variable {stack : Stack} {part : Part}

/-- A task has the links of its maker as they were when it was made. -/
theorem link_task (stack : Stack) (job : Job) (part : Part) :
    (stack.task job).links.link ⟨.taskFactory, part⟩ = stack.wiring.link ⟨.taskFactory, part⟩ := by
  by_cases wired : ⟨.taskFactory, part⟩ ∈ stack.wiring.wired
  · rw [Wiring.link_of_mem wired]
    exact Wiring.link_of_mem (List.mem_filter.2 ⟨wired, decide_eq_true rfl⟩)
  · rw [Wiring.link_of_not_mem wired]
    exact Wiring.link_of_not_mem fun mem => wired (List.mem_filter.1 mem).1

/-- A task that was made before a link was wired never finds the part by it. -/
theorem requireFor_of_unwired (unwired : ⟨.taskFactory, part⟩ ∉ stack.wiring.wired) (job : Job)
    (later : Stack) :
    later.requireFor (stack.task job) part =
      .error (.notWired (Wire.name ⟨.taskFactory, part⟩)) := by
  rw [requireFor, requireVia, link_task, Wiring.link_of_not_mem unwired]
  rfl

/-- A task that does not find the own node does nothing. -/
theorem runTask_of_lost {task : Task} {error : Error}
    (lost : stack.requireFor task .localNode = .error error) (now : Nat) (entropy : Entropy) :
    stack.runTask now entropy task = (.error error, entropy, stack) := by
  have lookup (target : Id) (contacts : List Address) (request : Id → Request) :
      stack.runLookup task target contacts request = (.error error, stack) := by
    rw [runLookup, lost]
    rfl
  unfold runTask
  split
  · rw [runPing, lost]
  · rw [lookup]
  · rw [lookup]
  · rw [runRefresh, lost]
    rfl

theorem tasks_wire {after : Stack} {wire : Wire} (wired : stack.wire wire = .ok after) :
    after.tasks = stack.tasks := by
  unfold Stack.wire at wired
  cases connected : stack.wiring.connect wire with
  | error fault =>
    rw [connected] at wired
    cases wired
  | ok wiring =>
    rw [connected] at wired
    cases wired
    rfl

end Stack

namespace LinkGraph

variable {α : Type} {index : Nat} {link : Link Nat}

/-- After any history a link that has a target keeps it, whatever happens, and cannot be wired
again; one that has none can be, and then points at the first thing that it is wired to.  It
gives what it points at while that is owned, and stays wired when it is not.  A copy is as the
link is then, and from then on neither of them changes unless it is itself wired.  So a task
made before its maker's links were wired finds nothing by them. -/
theorem links_of_history (name : String) (events : List (LinkEvent α))
    (found : ((start name).run events).links[index]? = some link) :
    let graph := (start name).run events
    let branched := graph.step (.copy index)
    (∀ more, (graph.run more).links[index]? =
        some { link with target := link.target.or (graph.firstPointed index more) }) ∧
      (link.isWired = true → link.ensureWired = .ok () ∧
        ∀ more, (graph.run more).links[index]? = some link) ∧
      (∀ target,
        (link.isWired = false → graph.wire index target =
          .ok { graph with links := graph.links.set index ⟨link.name, some target⟩ }) ∧
        (link.isWired = true → graph.wire index target = .error (.alreadyWired link.name) ∧
          graph.step (.wire index target) = graph)) ∧
      (∀ value,
        (link.get graph.owned = some value ↔
          ∃ target, link.target = some target ∧ StillOwned events target value) ∧
        (link.require graph.owned = .ok value ↔
          ∃ target, link.target = some target ∧ StillOwned events target value)) ∧
      (link.get graph.owned = none → link.require graph.owned = .error (.notWired link.name)) ∧
      (branched.links[index]? = some link ∧ branched.links[graph.links.length]? = some link ∧
        ∀ either ∈ [index, graph.links.length], ∀ more,
          (∀ target, .wire either target ∉ more) →
            (branched.run more).links[either]? = some link) ∧
      ∀ (stack : Stack) (kind : QueueKind) (job : Job),
        (∀ wire after, (stack.schedule kind job).wire wire = .ok after →
          after.tasks = (stack.schedule kind job).tasks) ∧
        (∀ part, ⟨.taskFactory, part⟩ ∉ stack.wiring.wired → ∀ later : Stack,
          later.requireFor (stack.task job) part =
            .error (.notWired ("task_factory." ++ part.name))) ∧
        (⟨.taskFactory, .localNode⟩ ∉ stack.wiring.wired → ∀ (later : Stack) now entropy,
          later.runTask now entropy (stack.task job) =
            (.error (.notWired "task_factory.local_node"), entropy, later)) := by
  intro graph branched
  have gives (value : α) : link.get graph.owned = some value ↔
      ∃ target, link.target = some target ∧ StillOwned events target value := by
    rw [Link.get_eq_some_iff]
    exact exists_congr fun target => and_congr_right fun _ => owned_run_iff name
  have branches : branched.links[index]? = some link := by
    have unnamed : graph.pointedBy index (.copy index) = none := rfl
    rw [getElem?_links_step found, unnamed, Option.or_none]
  have copied := getElem?_links_copy found
  refine ⟨fun more => getElem?_links_run found more,
    fun wired => ⟨Link.ensureWired_eq_ok_iff.2 wired, getElem?_links_run_of_wired found wired⟩,
    fun target => ⟨fun unwired => ?_, fun wired => ⟨wire_of_wired found wired target, ?_⟩⟩,
    fun value => ⟨gives value, Link.require_eq_ok_iff.trans (gives value)⟩, fun nothing => ?_,
    ⟨branches, copied, fun either mem more unnamed => ?_⟩,
    fun stack kind job => ⟨fun wire after wired => Stack.tasks_wire wired,
      fun part unwired later => Stack.requireFor_of_unwired unwired job later,
      fun unwired later now entropy =>
        Stack.runTask_of_lost (Stack.requireFor_of_unwired unwired job later) now entropy⟩⟩
  · exact wire_of_unwired found (Option.isNone_iff_eq_none.1 (by simpa [Link.isWired] using unwired)) target
  · unfold step
    dsimp only
    rw [wire_of_wired found wired]
    exact ite_self graph
  · rw [Link.require_eq, nothing]
    rfl
  · rw [List.mem_cons, List.mem_singleton] at mem
    rcases mem with rfl | rfl
    · exact getElem?_links_run_of_unnamed branches unnamed
    · exact getElem?_links_run_of_unnamed copied unnamed

/-- A link that was copied, was wired to a number and has outlived it, while another number is
owned: it is wired for good, gives nothing and takes no other target.  The copy, made before,
is wired to the other number later, and what the link points at stays as it is. -/
theorem links_of_history_outlived :
    let events : List (LinkEvent Nat) :=
      [.own 42, .own 7, .copy 0, .wire 0 0, .drop 0]
    let graph := (start "answer").run events
    let link : Link Nat := ⟨"answer", some 0⟩
    let copied : Link Nat := ⟨"answer", none⟩
    graph.links[0]? = some link ∧ graph.links[1]? = some copied ∧
      link.ensureWired = .ok () ∧ link.require graph.owned = .error (.notWired "answer") ∧
      graph.wire 0 1 = .error (.alreadyWired "answer") ∧
      (graph.run [.wire 0 1, .wire 1 1]).links[0]? = some link ∧
      (graph.run [.wire 0 1, .wire 1 1]).links[1]? = some ⟨"answer", some 1⟩ := by
  intro events graph link copied
  have here : graph.links[0]? = some link := rfl
  have there : graph.links[1]? = some copied := rfl
  obtain ⟨-, wired, wires, -, nothing, -⟩ := links_of_history "answer" events here
  obtain ⟨first, -⟩ := links_of_history "answer" events there
  obtain ⟨ensured, stays⟩ := wired rfl
  exact ⟨here, there, ensured, nothing rfl, ((wires 1).2 rfl).1, stays _, first _⟩

end LinkGraph

end Kademlia
