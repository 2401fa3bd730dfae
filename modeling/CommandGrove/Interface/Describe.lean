import CommandGrove.Interface.CommentIndex
import CommandGrove.Interface.Description
import CommandGrove.Interface.TypeShape

/-!
# Describing a function

## What is here

* `BoundNames` — the names that the pattern of a parameter binds.
* `describeParameter`, `describeRest` — the argument that a first parameter stands for.
* `describeFlags` — the flags that a second parameter declares.
* `describe` — the signature of a function.
-/

set_option autoImplicit false
namespace CommandGrove

open Script

/-! ## The first parameter -/

/-- The name of a parameter, and the names of its elements by position if its pattern takes an
array apart. -/
structure BoundNames where
  name : String
  elements : List (Option String)
  deriving DecidableEq, Repr

/-- The name that a pattern binds as a whole. -/
def Script.Pattern.boundName : Pattern → Option String
  | .identifier name => some name
  | .withDefault target _ => target.boundName
  | _ => none

/-- The names that the pattern of a parameter binds. -/
def BoundNames.ofPattern : Pattern → BoundNames
  | .identifier name => ⟨name, []⟩
  | .withDefault target _ => BoundNames.ofPattern target
  | .array elements rest =>
    ⟨"args", elements.map (fun e => e.bind Pattern.boundName) ++
      rest.toList.map Pattern.boundName⟩
  | .object _ _ => ⟨"options", []⟩

/-- The parameter with these names and this shape. -/
def BoundNames.parameter (names : BoundNames) (shape : TypeShape) (required : Bool) : Parameter :=
  ⟨names.name, shape.kind, required, shape.slots names.name names.elements⟩

/-- The parameter has a value to take if it is left out. -/
def Script.Param.hasInitial (p : Param) : Bool :=
  p.initial.isSome ||
    match p.pattern with
    | .withDefault _ _ => true
    | _ => false

/-- The argument that a parameter stands for.  Without a type it is text. -/
def describeParameter (p : Param) : Parameter :=
  (BoundNames.ofPattern p.pattern).parameter
    ((p.type.map TypeExpr.shape).getD (.scalar .string)) (!p.optional && !p.hasInitial)

/-- The shape of a rest parameter: an array or a tuple, whatever its type says. -/
def restShape (type : Option TypeExpr) : TypeShape :=
  match type.map TypeExpr.shape with
  | some shape =>
    if shape.kind = .array ∨ shape.kind = .tuple then shape else .array .unknown
  | none => .array .string

/-- The argument that a rest parameter stands for. -/
def describeRest (p : RestParam) : Parameter :=
  (BoundNames.ofPattern p.pattern).parameter (restShape p.type) false

/-! ## The second parameter -/

/-- The flag that a member of a record type declares, if it declares one. -/
def describeFlag (index : CommentIndex) (owner : String) : TypeMember → Option Flag
  | .property start name type => some {
      owner := owner
      name := name
      kind := flagKind type
      description := String.ofList (((index.leading start).map flagDescription).getD []) }
  | .other => none

/-- The flags that a parameter declares: the properties of the record type written as its type. -/
def describeFlags (index : CommentIndex) (owner : String) (p : Param) : List Flag :=
  match p.type with
  | some (.record members) => members.filterMap (describeFlag index owner)
  | _ => []

/-! ## Functions -/

/-- The description in the documentation that ends right before a place. -/
def descriptionBefore (index : CommentIndex) (place : Nat) : Option String :=
  ((index.leadingDoc place).bind functionDescription).map String.ofList

/-- The argument that a function takes. -/
def Script.Callable.argument (f : Callable) : Option Parameter :=
  match f.params with
  | first :: _ => some (describeParameter first)
  | [] => f.rest.map describeRest

/-- The signature of a function that is exported as `owner` and whose statement begins at
`start`. -/
def describe (index : CommentIndex) (owner : String) (start : Nat) (f : Callable) : Signature where
  isDefault := owner == defaultName
  description := descriptionBefore index start
  parameter := f.argument
  flags := ((f.params[1]?).map (describeFlags index owner)).getD []
  takesFlags := 2 ≤ f.params.length

/-- The signature of a default export whose function cannot be seen: any text, and flags. -/
def untypedDefault : Signature where
  isDefault := true
  description := none
  parameter := some ⟨"args", .array, false, []⟩
  flags := []
  takesFlags := true

end CommandGrove
