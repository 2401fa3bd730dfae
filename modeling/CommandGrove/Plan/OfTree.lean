import CommandGrove.CommandTree
import CommandGrove.Plan

/-!
# The plan for a command tree

## What is here

* `boundModules` — the modules that the functions of a tree come from, sorted and without
  repetition.
* `importsFor` — an import for each of them.
* `planCommand` — the command for a node.
* `Plan.ofTree` — the plan of the program for a tree.
-/

set_option autoImplicit false
namespace CommandGrove

/-! ## Imports -/

/-- Puts a module into its place among sorted ones; one that is there is not put in twice. -/
def insertModule (m : ModulePath) : List ModulePath → List ModulePath
  | [] => [m]
  | x :: rest =>
    if m = x then x :: rest
    else if m.text < x.text then m :: x :: rest
    else x :: insertModule m rest

/-- The modules that the functions of a tree come from, sorted and without repetition. -/
def boundModules (t : CommandTree) : List ModulePath :=
  (t.nodes.toList.filterMap fun node => node.binding.map Binding.module).foldr insertModule []

/-- The identifier for the module at a place among the imports. -/
def importBinding (index : Nat) (m : ModulePath) : String :=
  "mod_" ++ toString index ++ "_" ++ Naming.bindingSuffix m.text

/-- Where a module below `base` is found. -/
def specifier (base : String) (m : ModulePath) : String :=
  String.ofList (Path.join base.toList m.text.toList)

/-- An import for each module. -/
def importsFor (base : String) (modules : List ModulePath) : List Import :=
  modules.zipIdx.map fun (m, i) => ⟨importBinding i m, m, specifier base m⟩

/-! ## Commands -/

/-- The identifier of the root command. -/
def rootIdentifier : String := "program"

/-- The identifier of the command for a node. -/
def identifierFor (i : Nat) : String :=
  if i = CommandTree.root then rootIdentifier else "cmd_" ++ toString i

/-- What a node with this function does. -/
def planAction (imports : List Import) (b : Binding) : Option Action :=
  (imports.find? fun i => i.module == b.module).map fun i =>
    ⟨i.binding, b.name, (planArgument b.signature.parameter).2, b.signature.takesFlags⟩

/-- The command for a node. -/
def planCommand (imports : List Import) (node : Node) (i : Nat) : Command :=
  { identifier := identifierFor i
    parent := node.parent.map identifierFor
    token := node.token
    description := node.binding.bind fun b => b.signature.description
    arguments := node.binding.elim [] fun b => (planArgument b.signature.parameter).1
    options := node.binding.elim [] fun b => b.signature.flags.map planOption
    action := node.binding.bind (planAction imports) }

/-- The plan of the program for a tree, with its modules below `base`. -/
def Plan.ofTree (name base : String) (t : CommandTree) : Plan :=
  let imports := importsFor base (boundModules t)
  { name := name
    imports := imports
    commands := t.nodes.toList.zipIdx.map fun (node, i) => planCommand imports node i }

end CommandGrove
