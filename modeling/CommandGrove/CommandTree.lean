import CommandGrove.ModulePath
import CommandGrove.Signature

/-!
# Command trees

The commands of a program form a tree.  Its nodes are numbered in the order in which they were
made, the root first, and are never moved or taken away, so a number stays good for ever.

## What is here

* `Binding`, `Node`, `Collision`, `CommandTree` — the tree and what it is made of.
* `CommandTree.path` — the tokens on the way from the root to a node.
* `CommandTree.findChild?`, `CommandTree.child` — looks a child up by its token; makes it if it is
  not there.
* `CommandTree.bind` — gives a node its function; the function that it had is noted as replaced.
-/

set_option autoImplicit false
namespace CommandGrove

/-! ## The parts of a tree -/

/-- A function that a node runs. -/
structure Binding where
  module : ModulePath
  /-- The name that the module exports it under. -/
  name : String
  signature : Signature
  deriving DecidableEq

/-- Where a function comes from. -/
def Binding.source (b : Binding) : String := b.module.text ++ "#" ++ b.name

/-- A node of a tree. -/
structure Node where
  /-- The word that selects the node among its siblings; the root has none. -/
  token : String
  parent : Option Nat
  /-- The children in the order in which they were made. -/
  children : List Nat
  binding : Option Binding

/-- A function that took the place of another one on a node. -/
structure Collision where
  node : Nat
  replaced : String
  kept : String
  deriving DecidableEq, Repr

/-- A tree of commands. -/
structure CommandTree where
  nodes : Array Node
  /-- The node that each placed module stands at. -/
  owners : List (ModulePath × Nat)
  collisions : List Collision

namespace CommandTree

/-- The number of the root. -/
def root : Nat := 0

/-- The tree of a root alone. -/
def empty : CommandTree where
  nodes := #[⟨"", none, [], none⟩]
  owners := []
  collisions := []

/-! ## Looking -/

/-- The node that a module stands at. -/
def owner? (t : CommandTree) (module : ModulePath) : Option Nat :=
  (t.owners.find? fun o => o.1 == module).map (·.2)

/-- The tokens on the way from the root to a node.  A parent has a smaller number than its
children, so the way ends. -/
def path (t : CommandTree) (i : Nat) : List String :=
  match t.nodes[i]? with
  | none => []
  | some node =>
    match node.parent with
    | none => []
    | some p => if p < i then t.path p ++ [node.token] else []
termination_by i

/-- The numbers of the children of a node. -/
def children (t : CommandTree) (i : Nat) : List Nat := (t.nodes[i]?.map Node.children).getD []

/-- The node has this token. -/
def hasToken (t : CommandTree) (token : String) (i : Nat) : Bool :=
  t.nodes[i]?.any fun node => node.token == token

/-- The child of a node that a token selects. -/
def findChild? (t : CommandTree) (parent : Nat) (token : String) : Option Nat :=
  (t.children parent).find? (t.hasToken token)

/-! ## Changing -/

/-- Changes one node. -/
def modify (t : CommandTree) (i : Nat) (f : Node → Node) : CommandTree :=
  { t with nodes := t.nodes.modify i f }

/-- Makes a new child, the last one of its parent. -/
def addChild (t : CommandTree) (parent : Nat) (token : String) : CommandTree :=
  let id := t.nodes.size
  CommandTree.modify { t with nodes := t.nodes.push ⟨token, some parent, [], none⟩ } parent
    fun node => { node with children := node.children ++ [id] }

/-- The child of a node that a token selects, made if it is not there, and the tree with it. -/
def child (t : CommandTree) (parent : Nat) (token : String) : CommandTree × Nat :=
  match t.findChild? parent token with
  | some i => (t, i)
  | none => (t.addChild parent token, t.nodes.size)

/-- The node below `start` that tokens lead to, made if it is not there, and the tree with it. -/
def descend (t : CommandTree) (start : Nat) (tokens : List String) : CommandTree × Nat :=
  tokens.foldl (fun (t, i) token => t.child i token) (t, start)

/-- The function of a node. -/
def binding? (t : CommandTree) (i : Nat) : Option Binding := t.nodes[i]?.bind Node.binding

/-- Gives a node its function; a function that it had is noted as replaced. -/
def bind (t : CommandTree) (i : Nat) (b : Binding) : CommandTree :=
  let noted := ((t.binding? i).map fun old => (⟨i, old.source, b.source⟩ : Collision)).toList
  CommandTree.modify { t with collisions := t.collisions ++ noted } i
    fun node => { node with binding := some b }

end CommandTree
end CommandGrove
