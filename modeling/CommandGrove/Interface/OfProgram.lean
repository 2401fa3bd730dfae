import CommandGrove.Interface.Describe
import CommandGrove.Interface.ExportWalk

/-!
# The interface of a module

## What is here

* `Locals` — the functions that the top level of a module declares without exporting them, found
  by `localsOf`.
* `ModuleInterface.record` — adds a function under the name it is exported with.
* `ModuleInterface.addExport` — adds what one exporting statement exports.
* `ModuleInterface.ofProgram` — the interface of a module that was read.
-/

set_option autoImplicit false
namespace CommandGrove

open Script

/-! ## Functions that are not exported where they are declared -/

/-- Functions under their local names; of two with one name the later one counts. -/
abbrev Locals : Type := List (String × Signature)

/-- The function with a local name. -/
def Locals.find? (locals : Locals) (name : String) : Option Signature :=
  (locals.reverse.find? fun f => f.1 == name).map (·.2)

/-- The function that an expression is, if it is one. -/
def functionOf : Expr → Option Callable
  | .arrow f | .function f => some f
  | _ => none

/-- The function that a declared variable holds from the start, with the name of the variable. -/
def Script.Declarator.function? (d : Declarator) : Option (String × Callable) :=
  match d.initial.bind functionOf, d.pattern with
  | some f, .identifier name => some (name, f)
  | _, _ => none

/-- The functions that a statement declares. -/
def declaredFunctions (index : CommentIndex) : Stmt → Locals
  | .function start f =>
    match f.name, f.body with
    | some name, some _ => [(name, describe index defaultName start f)]
    | _, _ => []
  | .variable start _ declarators =>
    declarators.filterMap fun d =>
      d.function?.map fun (name, f) => (name, describe index defaultName start f)
  | _ => []

/-- The functions that statements declare. -/
def localsOf (index : CommentIndex) (body : List Stmt) : Locals :=
  body.flatMap (declaredFunctions index)

/-! ## Adding exports -/

namespace ModuleInterface

/-- Adds a function under the name it is exported with, which becomes the owner of its flags.  A
name that begins with `_` is private, and such a function is left out. -/
def record (m : ModuleInterface) (name : String) (signature : Signature) : ModuleInterface :=
  if name.toList.head? == some '_' then m
  else
    let isDefault := name == defaultName
    let owned := { signature with
      isDefault := isDefault
      flags := signature.flags.map fun flag => { flag with owner := name } }
    ({ m with hasDefault := m.hasDefault || isDefault }).insert name owned

/-- Adds the functions among declared variables that an export statement at `start` exports. -/
def addVariables (index : CommentIndex) (start : Nat) (m : ModuleInterface)
    (declarators : List Declarator) : ModuleInterface :=
  (declarators.filterMap Declarator.function?).foldl
    (fun m f => m.record f.1 (describe index f.1 start f.2)) m

/-- Adds a name from a list of exports at `start`.  A local function without a description takes
the one before the list. -/
def addName (index : CommentIndex) (locals : Locals) (start : Nat) (m : ModuleInterface)
    (item : ExportName) : ModuleInterface :=
  match locals.find? item.name with
  | some signature =>
    m.record item.exported
      { signature with
        description := signature.description.or (descriptionBefore index start) }
  | none => if item.exported == defaultName then m.record defaultName untypedDefault else m

/-- What is known of a default export at `start`. -/
def defaultSignature (index : CommentIndex) (locals : Locals) (start : Nat) :
    DefaultExport → Option Signature
  | .function f => some (describe index defaultName start f)
  | .expression (.arrow f) => some (describe index defaultName start f)
  | .expression (.identifier name) =>
    let known := (locals.find? name).getD untypedDefault
    some { known with description := (descriptionBefore index start).or known.description }
  | .expression (.call _ _) => some untypedDefault
  | _ => none

/-- Adds what an exporting statement exports. -/
def addExport (index : CommentIndex) (locals : Locals) (m : ModuleInterface) :
    Stmt → ModuleInterface
  | .exportDeclaration start false (.function _ f) =>
    match f.name, f.body with
    | some name, some _ => m.record name (describe index name start f)
    | _, _ => m
  | .exportDeclaration start false (.variable _ _ declarators) =>
    addVariables index start m declarators
  | .exportNames start false names none => names.foldl (addName index locals start) m
  | .exportDefault start value =>
    match defaultSignature index locals start value with
    | some signature => m.record defaultName signature
    | none => m
  | _ => m

/-- The interface of a module that was read. -/
def ofProgram (source : List Char) (program : Program) : ModuleInterface :=
  let index := CommentIndex.ofPlaces source program.comments
  let locals := localsOf index program.body
  (stmtExports program.body).foldl (addExport index locals) empty

end ModuleInterface
end CommandGrove
