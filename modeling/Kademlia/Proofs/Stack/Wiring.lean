import Kademlia.Proofs.Outcome
import Kademlia.Stack.Basic

/-!
# Stacks that are fully wired

A stack on which every link is wired and every part is there finds whatever it
looks for.  Wiring all links of a stack that has none makes it so.
-/

namespace Kademlia

namespace Wiring

variable {wiring : Wiring}

theorem link_of_mem {wire : Wire} (wired : wire ∈ wiring.wired) :
    wiring.link wire = .wiredTo wire.name wire.target :=
  if_pos wired

theorem link_of_not_mem {wire : Wire} (absent : wire ∉ wiring.wired) :
    wiring.link wire = .unwired wire.name :=
  if_neg absent

theorem ensureWired_link_eq_ok_iff {wire : Wire} :
    (wiring.link wire).ensureWired = .ok () ↔ wire ∈ wiring.wired := by
  by_cases wired : wire ∈ wiring.wired
  · rw [link_of_mem wired]
    exact iff_of_true rfl wired
  · rw [link_of_not_mem wired]
    exact iff_of_false nofun wired

/-- A wiring is complete when it has all links of a stack. -/
theorem ensureAll_eq_ok_iff :
    wiring.ensureAll = .ok () ↔ ∀ wire ∈ Wire.all, wire ∈ wiring.wired := by
  simp only [ensureAll, ensure, forM_eq_ok_iff, ensureWired_link_eq_ok_iff, Wire.all,
    List.mem_flatMap]
  constructor
  · rintro ensured wire ⟨part, linked, mem⟩
    exact ensured part linked wire mem
  · intro all part linked wire mem
    exact all wire ⟨part, linked, mem⟩

end Wiring

namespace Stack

variable {stack : Stack}

/-- A stack that is whole: every link is wired, and no part is gone. -/
structure FullyWired (stack : Stack) : Prop where
  wired : stack.wiring.ensureAll = .ok ()
  whole : stack.gone = []

namespace FullyWired

variable {owner target : Part} (wired : stack.FullyWired)

include wired

theorem owned (part : Part) : stack.owned part = some part := by
  simp [Stack.owned, has, wired.whole]

theorem link (known : ⟨owner, target⟩ ∈ Wire.all) :
    stack.wiring.link ⟨owner, target⟩ = .wiredTo (Wire.name ⟨owner, target⟩) target :=
  Wiring.link_of_mem (Wiring.ensureAll_eq_ok_iff.1 wired.wired _ known)

/-- Every link gives its part. -/
theorem require (known : ⟨owner, target⟩ ∈ Wire.all) : stack.require owner target = .ok () := by
  simp [Stack.require, requireVia, Link.require, wired.link known, wired.owned, Except.map]

theorem resolves (known : ⟨owner, target⟩ ∈ Wire.all) : stack.resolves owner target = true := by
  simp [Stack.resolves, wired.link known, wired.owned]

end FullyWired

/-! ## Wiring a stack -/

/-- Links that differ, and of which none is wired yet, can be wired one after another. -/
theorem foldlM_wire {wires : List Wire} (distinct : wires.Nodup)
    (absent : ∀ wire ∈ wires, wire ∉ stack.wiring.wired) :
    wires.foldlM Stack.wire stack =
      .ok { stack with wiring := ⟨wires.reverse ++ stack.wiring.wired⟩ } := by
  induction wires generalizing stack with
  | nil => rfl
  | cons wire wires ih =>
    obtain ⟨notLater, others⟩ := List.nodup_cons.1 distinct
    have wired : stack.wire wire =
        .ok { stack with wiring := ⟨wire :: stack.wiring.wired⟩ } := by
      rw [Stack.wire, Wiring.connect, Wiring.link_of_not_mem (absent wire List.mem_cons_self)]
      rfl
    have stillAbsent : ∀ other ∈ wires, other ∉ wire :: stack.wiring.wired := by
      intro other mem
      rw [List.mem_cons, not_or]
      constructor
      · rintro rfl
        exact notLater mem
      · exact absent other (List.mem_cons_of_mem wire mem)
    rw [List.foldlM_cons, wired, ok_bind, ih others stillAbsent, List.reverse_cons,
      List.append_assoc]
    rfl

/-- The wiring of a stack once all its links are wired. -/
def wholeWiring : Wiring :=
  ⟨Wire.all.reverse⟩

theorem ensureAll_wholeWiring : wholeWiring.ensureAll = .ok () :=
  Wiring.ensureAll_eq_ok_iff.2 fun _ mem => List.mem_reverse.2 mem

theorem wireAll_of_unwired (unwired : stack.wiring = .none) :
    stack.wireAll = .ok { stack with wiring := wholeWiring } := by
  have absent : ∀ wire ∈ Wire.all, wire ∉ stack.wiring.wired := by
    intro wire _
    rw [unwired]
    exact List.not_mem_nil
  rw [wireAll, foldlM_wire (by decide) absent, unwired]
  simp [wholeWiring, Wiring.none]

/-- A stack as it is once it is assembled and wired. -/
def assembled (localNode : LocalNode) (connection : Connection) (timeout now : Nat)
    (entropy : Entropy) : Stack :=
  { (assemble localNode connection timeout now entropy).1 with wiring := wholeWiring }

variable (localNode : LocalNode) (connection : Connection) (timeout now : Nat) (entropy : Entropy)

theorem wireAll_assemble :
    (assemble localNode connection timeout now entropy).1.wireAll =
      .ok (assembled localNode connection timeout now entropy) :=
  wireAll_of_unwired rfl

theorem fullyWired_assembled :
    (assembled localNode connection timeout now entropy).FullyWired :=
  ⟨ensureAll_wholeWiring, rfl⟩

end Stack

end Kademlia
