import CommandGrove.CommandTree

/-!
# The tree of a list of modules

Directories and modules become nodes, and the functions that a module exports become children of
its node; the default export is the function of the node itself.  Nodes are shared wherever
tokens agree.

## What is here

* `ownerTokens` — where a module stands.
* `CommandTree.place`, `CommandTree.addFunction`, `CommandTree.addModule` — add a module step by
  step.
* `CommandTree.ofModules` — the tree of a list of modules.
-/

set_option autoImplicit false
namespace CommandGrove

/-- The tokens on the way to the node of a module: its directories, and its stem unless it stands
for its directory. -/
def ownerTokens (module : ModulePath) : List String :=
  module.directories.map Naming.token ++
    if module.isIndex then [] else [Naming.token module.stem]

/-- Every part of a module path can name a command. -/
def isPlaceable (module : ModulePath) : Bool := (Naming.pathTokens module.text).all Naming.isCommand

namespace CommandTree

/-- Gives a module its node. -/
def place (t : CommandTree) (module : ModulePath) : CommandTree × Nat :=
  let (t, i) := t.descend root (ownerTokens module)
  ({ t with owners := t.owners ++ [(module, i)] }, i)

/-- The node for a function exported by the module at `owner`, if its name can be a command. -/
def target? (t : CommandTree) (owner : Nat) (name : String) : Option (CommandTree × Nat) :=
  if name == defaultName then some (t, owner)
  else
    let token := Naming.token name
    if Naming.isCommand token then some (t.child owner token) else none

/-- Adds a function that a module exports; one whose name cannot be a command is left out. -/
def addFunction (module : ModulePath) (owner : Nat) (t : CommandTree)
    (function : String × Signature) : CommandTree :=
  match t.target? owner function.1 with
  | some (t, i) => t.bind i ⟨module, function.1, function.2⟩
  | none => t

/-- Adds a module and the functions it exports; one whose path has a part that cannot be a command
is left out. -/
def addModule (t : CommandTree) (module : ModulePath × ModuleInterface) : CommandTree :=
  if isPlaceable module.1 then
    let (t, owner) := t.place module.1
    module.2.functions.foldl (addFunction module.1 owner) t
  else t

/-- The tree of a list of modules. -/
def ofModules (modules : List (ModulePath × ModuleInterface)) : CommandTree :=
  modules.foldl addModule empty

end CommandTree
end CommandGrove
