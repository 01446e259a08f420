import Kademlia.Error

/-!
# Links

The parts of a stack refer to each other by links.  A link is pointed at its
target once and for all, and gives the target as long as something owns it.
-/

namespace Kademlia

/-- A reference that does not own what it points at: nothing before it is
wired, one target from then on. -/
structure Link (κ : Type) where
  name : String
  target : Option κ
deriving DecidableEq

namespace Link

variable {κ α : Type}

/-- A link that points nowhere yet. -/
def unwired (name : String) : Link κ :=
  ⟨name, none⟩

/-- A link to a target. -/
def wiredTo (name : String) (target : κ) : Link κ :=
  ⟨name, some target⟩

/-- Points a link at its target, unless it has one already. -/
def wire (link : Link κ) (target : κ) : Except Error (Link κ) :=
  match link.target with
  | none => .ok { link with target := some target }
  | some _ => .error (.alreadyWired link.name)

/-- Whether a link has a target, owned or not. -/
def isWired (link : Link κ) : Bool :=
  link.target.isSome

/-- Fails for a link without a target. -/
def ensureWired (link : Link κ) : Except Error Unit :=
  if link.isWired then .ok () else .error (.notWired link.name)

/-- What a link points at, if that is owned; `owned` gives what is. -/
def get (owned : κ → Option α) (link : Link κ) : Option α :=
  link.target.bind owned

/-- What a link points at; fails when there is nothing to give. -/
def require (owned : κ → Option α) (link : Link κ) : Except Error α :=
  match link.get owned with
  | some value => .ok value
  | none => .error (.notWired link.name)

/-- A link with its condition, in words. -/
def text (owned : κ → Option α) (link : Link κ) : String :=
  let condition :=
    match link.target with
    | none => "unwired"
    | some target => if (owned target).isSome then "wired" else "dangling"
  "Link(" ++ link.name ++ ": " ++ condition ++ ")"

@[simp]
theorem get_unwired (owned : κ → Option α) (name : String) : (unwired name).get owned = none :=
  rfl

@[simp]
theorem get_wiredTo (owned : κ → Option α) (name : String) (target : κ) :
    (wiredTo name target).get owned = owned target :=
  rfl

end Link

end Kademlia
