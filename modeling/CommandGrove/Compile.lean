import CommandGrove.CommandTree.OfModules
import CommandGrove.Config
import CommandGrove.Discovery
import CommandGrove.Interface.OfSource
import CommandGrove.Json
import CommandGrove.Plan.Source

/-!
# Compiling a directory

## What is here

* `Compiled` — a compiled program with everything it was made from.
* `readModule`, `readModules` — the interfaces of modules that were found.
* `compile` — finds the modules, reads them and plans the program.
* `Compiled.toJson` — the document that describes a compiled program.
-/

set_option autoImplicit false
namespace CommandGrove

/-! ## Reading modules -/

/-- A compiled program. -/
structure Compiled where
  plan : Plan
  modules : List (ModulePath × ModuleInterface)
  collisions : List Collision
  /-- The source of the program. -/
  source : String

/-- The interface of a module below `base`. -/
def readModule (files : FileTree) (base : String) (m : ModulePath) :
    Except Error (ModulePath × ModuleInterface) := do
  let path := joinPath base m.text
  match files.readText path.toList with
  | .error fault => throw (.scan path (.unreadable fault))
  | .ok text =>
    let interface ← ModuleInterface.ofSource path text
    return (m, interface)

/-- The interfaces of modules below `base`; the first one that cannot be read ends it. -/
def readModules (files : FileTree) (base : String) (modules : List ModulePath) :
    Except Error (List (ModulePath × ModuleInterface)) := modules.mapM (readModule files base)

/-! ## Compiling -/

/-- The program for modules that were read. -/
def Compiled.ofModules (name base : String) (modules : List (ModulePath × ModuleInterface)) :
    Compiled :=
  let tree := CommandTree.ofModules modules
  let plan := Plan.ofTree name base tree
  { plan := plan, modules := modules, collisions := tree.collisions, source := plan.render }

/-- Compiles the directory of a configuration. -/
def compile (files : FileTree) (config : Config) : Except Error Compiled := do
  let found ← findModules files config.baseDir config.entry
  let modules ← readModules files config.baseDir found
  return .ofModules config.name config.baseDir modules

/-- The number of functions that the modules export. -/
def Compiled.functionCount (c : Compiled) : Nat :=
  c.modules.foldl (fun n m => n + m.2.functions.length) 0

/-- The number of commands that do something. -/
def Compiled.commandCount (c : Compiled) : Nat :=
  (c.plan.commands.filter fun command => command.action.isSome).length

/-! ## The document for a program -/

/-- The name of an arity. -/
def Arity.name : Arity → String
  | .optional => "optional"
  | .required => "required"
  | .repeated => "repeated"

/-- A kind of value as a document: its name. -/
def ValueKind.toJson (k : ValueKind) : Json := .string k.name

/-- An argument as a document. -/
def Argument.toJson (a : Argument) : Json :=
  .object [("name", .string a.name), ("arity", .string a.arity.name)]

/-- An option as a document. -/
def OptionPlan.toJson (o : OptionPlan) : Json :=
  .object [("flags", .string o.flags), ("description", .string o.description),
    ("attribute", .string o.key), ("field", .string o.field), ("kind", o.kind.toJson),
    ("negated", .bool o.negated)]

/-- The input of an action as a document: its shape, and the kinds that belong to it. -/
def Input.toJson : Input → Json
  | .none => .object [("shape", .string "none")]
  | .scalar kind => .object [("shape", .string "scalar"), ("kind", kind.toJson)]
  | .variadic element => .object [("shape", .string "variadic"), ("element", element.toJson)]
  | .tuple kinds =>
    .object [("shape", .string "tuple"), ("kinds", .ofList ValueKind.toJson kinds)]

/-- An action as a document. -/
def Action.toJson (a : Action) : Json :=
  .object [("module_binding", .string a.binding), ("export", .string a.name),
    ("input", a.input.toJson), ("pass_flags", .bool a.passesFlags)]

/-- A command as a document; what is not there is null. -/
def Command.toJson (c : Command) : Json :=
  .object [("variable", .string c.identifier), ("parent", .ofOption .string c.parent),
    ("token", .string c.token), ("description", .ofOption .string c.description),
    ("arguments", .ofList Argument.toJson c.arguments),
    ("options", .ofList OptionPlan.toJson c.options), ("action", .ofOption Action.toJson c.action)]

/-- An import as a document. -/
def Import.toJson (i : Import) : Json :=
  .object [("binding", .string i.binding), ("module", .string i.module.text),
    ("specifier", .string i.specifier)]

/-- A plan as a document. -/
def Plan.toJson (p : Plan) : Json :=
  .object [("name", .string p.name), ("imports", .ofList Import.toJson p.imports),
    ("commands", .ofList Command.toJson p.commands)]

/-- A slot as a document. -/
def Slot.toJson (s : Slot) : Json := .object [("name", .string s.name), ("kind", s.kind.toJson)]

/-- A parameter as a document; without slots they are left out. -/
def Parameter.toJson (p : Parameter) : Json :=
  .object ([("name", .string p.name), ("kind", p.kind.toJson), ("required", .bool p.required)] ++
    if p.slots.isEmpty then [] else [("slots", .ofList Slot.toJson p.slots)])

/-- A flag as a document. -/
def Flag.toJson (f : Flag) : Json :=
  .object [("owning_function", .string f.owner), ("name", .string f.name), ("kind", f.kind.toJson),
    ("description", .string f.description)]

/-- A signature as a document; what is not there is left out. -/
def Signature.toJson (s : Signature) : Json :=
  .object ([("is_default_export", .bool s.isDefault)] ++
    (s.description.toList.map fun d => ("description", .string d)) ++
    (s.parameter.toList.map fun p => ("argument", p.toJson)) ++
    [("flags", .ofList Flag.toJson s.flags), ("accepts_options", .bool s.takesFlags)])

/-- An interface as a document; each function is a pair of its name and its signature. -/
def ModuleInterface.toJson (m : ModuleInterface) : Json :=
  .object [("has_default", .bool m.hasDefault),
    ("functions", .ofList (fun f => .array [.string f.1, Signature.toJson f.2]) m.functions)]

/-- A collision as a document. -/
def Collision.toJson (c : Collision) : Json :=
  .object [("node", .number c.node), ("replaced", .string c.replaced), ("kept", .string c.kept)]

/-- The document that describes a compiled program. -/
def Compiled.toJson (c : Compiled) : Json :=
  .object [("program", c.plan.toJson),
    ("modules", .ofList (fun m => .array [.string m.1.text, ModuleInterface.toJson m.2]) c.modules),
    ("collisions", .ofList Collision.toJson c.collisions)]

end CommandGrove
