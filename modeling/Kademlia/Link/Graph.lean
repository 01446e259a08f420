import Kademlia.Link

/-!
# Links among owned values

Values come into being with an owner and go when the owner lets go of them;
links of one name are made, copied and wired in between.  Both are numbered in
the order in which they are made.
-/

namespace Kademlia

/-- Values, each until it is dropped, and links to them. -/
structure LinkGraph (α : Type) where
  name : String
  values : List (Option α)
  links : List (Link Nat)

namespace LinkGraph

variable {α : Type}

/-- One link without a target, and nothing to point it at. -/
def start (name : String) : LinkGraph α :=
  ⟨name, [], [.unwired name]⟩

/-- The value with a number, while it is owned. -/
def owned (graph : LinkGraph α) (target : Nat) : Option α :=
  (graph.values[target]?).join

/-- Makes a value; its number is how many there were. -/
def own (graph : LinkGraph α) (value : α) : LinkGraph α :=
  { graph with values := graph.values ++ [some value] }

/-- Lets go of a value. -/
def drop (graph : LinkGraph α) (target : Nat) : LinkGraph α :=
  { graph with values := graph.values.set target none }

/-- Makes a link; its number is how many there were. -/
def addLink (graph : LinkGraph α) (link : Link Nat) : LinkGraph α :=
  { graph with links := graph.links ++ [link] }

/-- Makes a link without a target. -/
def addUnwired (graph : LinkGraph α) : LinkGraph α :=
  graph.addLink (.unwired graph.name)

/-- Makes a link to a value. -/
def addTo (graph : LinkGraph α) (target : Nat) : LinkGraph α :=
  graph.addLink (.wiredTo graph.name target)

/-- Copies a link as it is now. -/
def copy (graph : LinkGraph α) (index : Nat) : LinkGraph α :=
  match graph.links[index]? with
  | some link => graph.addLink link
  | none => graph

/-- Points a link at a value. -/
def wire (graph : LinkGraph α) (index target : Nat) : Except Error (LinkGraph α) :=
  match graph.links[index]? with
  | some link =>
      (link.wire target).map fun link => { graph with links := graph.links.set index link }
  | none => .ok graph

end LinkGraph

end Kademlia
