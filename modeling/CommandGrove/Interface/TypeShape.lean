import CommandGrove.Script.Syntax
import CommandGrove.Signature

/-!
# The shape of a type

Only the shapes that a command line can fill matter: single values, arrays and tuples.

## What is here

* `TypeExpr.scalarKind` — the kind of a type where a single value stands.
* `TypeExpr.shape` — the kind of a type with the kinds of its elements.
* `flagKind` — the kind of a flag with a given type.
* `TypeShape.slots` — the named slots of a shape.
-/

set_option autoImplicit false
namespace CommandGrove

open Script

/-- The kind of a type and of its elements, with the labels of the elements of a tuple. -/
structure TypeShape where
  kind : ValueKind
  elements : List (Option String × ValueKind)
  deriving DecidableEq, Repr

namespace TypeShape

/-- The shape of a single value. -/
def scalar (kind : ValueKind) : TypeShape := ⟨kind, []⟩

/-- The shape of an array. -/
def array (element : ValueKind) : TypeShape := ⟨.array, [(none, element)]⟩

/-- The name of the slot at position `i` of a tuple: the name bound there, else the label, else
the name of the parameter and the position counted from 1. -/
def slotName (parameter : String) (bound : List (Option String)) (i : Nat)
    (label : Option String) : String :=
  (((bound[i]?).join).or label).getD (parameter ++ "-" ++ toString (i + 1))

/-- The slots of a tuple from position `i` on. -/
def tupleSlots (parameter : String) (bound : List (Option String)) (i : Nat) :
    List (Option String × ValueKind) → List Slot
  | [] => []
  | (label, kind) :: rest =>
    ⟨slotName parameter bound i label, kind⟩ :: tupleSlots parameter bound (i + 1) rest

/-- The slots of a shape; `bound` are the names that a pattern binds by position. -/
def slots (shape : TypeShape) (parameter : String) (bound : List (Option String)) : List Slot :=
  match shape.kind with
  | .array => shape.elements.map fun e => ⟨parameter, e.2⟩
  | .tuple => tupleSlots parameter bound 0 shape.elements
  | _ => []

end TypeShape

namespace Script

/-- The kind of a type where a single value stands. -/
def TypeExpr.scalarKind : TypeExpr → ValueKind
  | .string => .string
  | .number => .number
  | .boolean => .boolean
  | .paren inner => inner.scalarKind
  | _ => .unknown

/-- The label and the kind of an element of a tuple. -/
def TupleElement.slotShape : TupleElement → Option String × ValueKind
  | .plain type | .optional type | .rest type => (none, type.scalarKind)
  | .named label element => (some label, element.slotShape.2)

/-- The names of the two types of arrays. -/
def isArrayName (name : List String) : Bool := name == ["Array"] || name == ["ReadonlyArray"]

/-- The kind of a type with the kinds of its elements. -/
def TypeExpr.shape : TypeExpr → TypeShape
  | .array element => .array element.scalarKind
  | .tuple elements => ⟨.tuple, elements.map TupleElement.slotShape⟩
  | .reference name arguments =>
    if isArrayName name then .array ((arguments.head?.map TypeExpr.scalarKind).getD .string)
    else .scalar .unknown
  | .readonly inner => inner.shape
  | .paren inner => inner.shape
  | type => .scalar type.scalarKind

/-- The kind of a flag with a given type: what is neither a boolean nor a number is text. -/
def flagKind (type : Option TypeExpr) : ValueKind :=
  match type.map TypeExpr.scalarKind with
  | some .boolean => .boolean
  | some .number => .number
  | _ => .string

end Script
end CommandGrove
