import CommandGrove.ModulePath
import CommandGrove.Signature

/-!
# Plans of programs

The plan of a program tells everything about it that its source will say: what it imports, its
commands with their arguments and options, and what they do.

## What is here

* `Argument`, `OptionPlan`, `Input`, `Action`, `Command`, `Import`, `Plan` — a plan and its parts.
* `Argument.usage` — how an argument is announced.
* `planArgument` — the arguments for the parameter of a function, and what the function gets.
* `planOption` — the option for a flag.
-/

set_option autoImplicit false
namespace CommandGrove

/-! ## Arguments -/

/-- How often an argument is given. -/
inductive Arity where
  | optional
  | required
  /-- Any number of times. -/
  | repeated
  deriving DecidableEq, Repr

/-- A place for a word on the command line. -/
structure Argument where
  name : String
  arity : Arity
  deriving DecidableEq, Repr

/-- How an argument is announced. -/
def Argument.usage (a : Argument) : String :=
  match a.arity with
  | .required => "<" ++ a.name ++ ">"
  | .optional => "[" ++ a.name ++ "]"
  | .repeated => "[" ++ a.name ++ "...]"

/-- What a function gets from the words on the command line. -/
inductive Input where
  | none
  /-- The first word. -/
  | scalar (kind : ValueKind)
  /-- All words. -/
  | variadic (element : ValueKind)
  /-- The first words, one for each kind. -/
  | tuple (kinds : List ValueKind)
  deriving DecidableEq, Repr

/-- The number of arguments that an input reads. -/
def Input.arguments : Input → Nat
  | .none => 0
  | .scalar _ | .variadic _ => 1
  | .tuple kinds => kinds.length

/-- How often an argument for a single value is given. -/
def Parameter.arity (p : Parameter) : Arity := if p.required then .required else .optional

/-- The arguments for a parameter, and what the function gets from them. -/
def Parameter.plan (p : Parameter) : List Argument × Input :=
  match p.kind with
  | .array => ([⟨p.name, .repeated⟩], .variadic p.elementKind)
  | .tuple =>
    if p.slots.isEmpty then ([⟨p.name, p.arity⟩], .scalar .tuple)
    else (p.slots.map fun s => ⟨s.name, p.arity⟩, .tuple (p.slots.map Slot.kind))
  | kind => ([⟨p.name, p.arity⟩], .scalar kind)

/-- The arguments for the parameter of a function, and what the function gets from them. -/
def planArgument : Option Parameter → List Argument × Input
  | some p => p.plan
  | none => ([], .none)

/-! ## Options -/

/-- An option. -/
structure OptionPlan where
  /-- How it is written, with its value if it takes one. -/
  flags : String
  description : String
  /-- The key that the reader of the command line keeps its value under. -/
  key : String
  /-- The name that the function knows it by. -/
  field : String
  kind : ValueKind
  /-- It switches something off. -/
  negated : Bool
  deriving DecidableEq, Repr

/-- How an option of this token is written; one of a kind other than `boolean` takes a value. -/
def optionUsage (token : String) (kind : ValueKind) : String :=
  "--" ++ token ++ if kind = .boolean then "" else " <value>"

/-- The option for a flag. -/
def planOption (flag : Flag) : OptionPlan :=
  let token := Naming.token flag.name
  { flags := optionUsage token flag.kind
    description := flag.description
    key := Naming.optionKey token
    field := flag.name
    kind := flag.kind
    negated := Naming.isNegated token }

/-! ## Commands -/

/-- What a command does: it calls a function of an imported module. -/
structure Action where
  /-- The identifier of the module. -/
  binding : String
  /-- The name of the function. -/
  name : String
  input : Input
  /-- The function gets the flags as well. -/
  passesFlags : Bool
  deriving DecidableEq, Repr

/-- A command. -/
structure Command where
  /-- Its identifier. -/
  identifier : String
  /-- The identifier of the command it belongs to. -/
  parent : Option String
  token : String
  description : Option String
  arguments : List Argument
  options : List OptionPlan
  action : Option Action
  deriving DecidableEq, Repr

/-- A module that the program uses. -/
structure Import where
  /-- Its identifier. -/
  binding : String
  module : ModulePath
  /-- Where it is found. -/
  specifier : String
  deriving DecidableEq

/-- The plan of a program. -/
structure Plan where
  name : String
  imports : List Import
  /-- The root first, and every command behind the one it belongs to. -/
  commands : List Command
  deriving DecidableEq

end CommandGrove
