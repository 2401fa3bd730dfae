/-!
# Signatures of exported functions

What a command needs to know of the function behind it: the argument it takes, the flags it
understands and the text that describes it.

## What is here

* `ValueKind` — the kinds of values that a command line can hand over.
* `Slot`, `Parameter`, `Flag`, `Signature` — the parts of a signature.
* `ModuleInterface` — the functions a module exports, in source order, with
  `ModuleInterface.insert`, which lets a later function take the place of an earlier one of the
  same name.
-/

set_option autoImplicit false
namespace CommandGrove

/-! ## Kinds of values -/

/-- The declared shape of a value, as far as its type tells at a glance. -/
inductive ValueKind where
  | string
  | number
  | boolean
  | array
  | tuple
  | unknown
  deriving DecidableEq, Repr

/-- The name of a kind. -/
def ValueKind.name : ValueKind → String
  | .string => "string"
  | .number => "number"
  | .boolean => "boolean"
  | .array => "array"
  | .tuple => "tuple"
  | .unknown => "unknown"

/-- The kinds in a fixed order. -/
def ValueKind.all : List ValueKind := [.string, .number, .boolean, .array, .tuple, .unknown]

/-- The kind with a given name; any other name means a kind that is not known. -/
def ValueKind.ofName (name : String) : ValueKind :=
  (ValueKind.all.find? fun k => k.name == name).getD .unknown

/-- The kinds whose values are converted from text; the values of all others pass as they are. -/
def ValueKind.isConverted : ValueKind → Bool
  | .number | .boolean => true
  | _ => false

/-! ## Parts of a signature -/

/-- A place inside an array or a tuple. -/
structure Slot where
  name : String
  kind : ValueKind
  deriving DecidableEq, Repr

/-- The first parameter of a function. -/
structure Parameter where
  name : String
  kind : ValueKind
  required : Bool
  /-- One slot for the elements of an array, one for each element of a tuple. -/
  slots : List Slot
  deriving DecidableEq, Repr

/-- The kind of the elements of an array; they are strings if nothing is declared. -/
def Parameter.elementKind (p : Parameter) : ValueKind :=
  (p.slots.head?.map Slot.kind).getD .string

/-- A field of the record that a function takes as its second parameter. -/
structure Flag where
  /-- The name under which the function is exported. -/
  owner : String
  name : String
  kind : ValueKind
  description : String
  deriving DecidableEq, Repr

/-- What is known of an exported function. -/
structure Signature where
  isDefault : Bool
  description : Option String
  parameter : Option Parameter
  flags : List Flag
  /-- The function has a second parameter. -/
  takesFlags : Bool
  deriving DecidableEq, Repr

/-! ## Modules -/

/-- The name of the export that a module has at most one of. -/
def defaultName : String := "default"

/-- The functions that a module exports, under the names it exports them, in source order. -/
structure ModuleInterface where
  hasDefault : Bool
  functions : List (String × Signature)
  deriving DecidableEq, Repr

namespace ModuleInterface

/-- The interface of a module that exports nothing. -/
def empty : ModuleInterface := ⟨false, []⟩

/-- The function exported under a name. -/
def find? (m : ModuleInterface) (name : String) : Option Signature :=
  (m.functions.find? fun f => f.1 == name).map (·.2)

/-- The function that the module exports by default. -/
def default? (m : ModuleInterface) : Option Signature := m.find? defaultName

/-- The names of all other functions, in source order. -/
def namedFunctions (m : ModuleInterface) : List String :=
  (m.functions.map (·.1)).filter (· != defaultName)

/-- Puts a value under a name: in the place of the value that has the name, or at the end. -/
def put (name : String) (value : Signature) :
    List (String × Signature) → List (String × Signature)
  | [] => [(name, value)]
  | f :: rest => if f.1 = name then (name, value) :: rest else f :: put name value rest

/-- Adds a function; a later one takes the place of an earlier one of the same name. -/
def insert (m : ModuleInterface) (name : String) (signature : Signature) : ModuleInterface :=
  { m with functions := put name signature m.functions }

end ModuleInterface
end CommandGrove
