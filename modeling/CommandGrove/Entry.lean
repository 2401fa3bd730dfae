import CommandGrove.Script.Source

/-!
# Entry modules

An entry module exports its configuration by default: an object literal that is written out, where
`baseDir` tells where the commands are and `name` what the program is called.  Nothing of it is
run, so both values have to be literals.

## What is here

* `objectOf?` — the object literal behind parentheses, casts and calls with one argument.
* `textOf?` — the text behind parentheses and conversions.
* `EntryValues`, `EntryValues.ofProperties` — the values that the properties of an object give.
* `entryObject?` — the object that a module exports by default.
* `EntryValues.ofSource` — the values of the entry module whose source a file holds.
-/

set_option autoImplicit false
namespace CommandGrove

open Script

/-! ## What expressions hold -/

/-- The properties of the object literal that an expression is or wraps. -/
def objectOf? : Expr → Option (List Property)
  | .object properties => some properties
  | .paren inner | .cast .conversion inner _ | .cast .satisfies inner _ => objectOf? inner
  | .call _ [argument] => objectOf? argument
  | _ => none

/-- The text that an expression is or wraps; a template counts if it has no holes. -/
def textOf? : Expr → Option String
  | .string value => some value
  | .template texts [] => texts.head?.join
  | .paren inner | .cast .conversion inner _ => textOf? inner
  | _ => none

/-- The key of a property, if it is a name or a string. -/
def Script.Key.text? : Key → Option String
  | .name text => some text
  | .string value => some value
  | .other _ _ => none

/-- A property that has a key which is a name or a string: the key, and the text that is its value
if it has one. -/
def Script.Property.entry? : Property → Option (String × Option String)
  | .keyed key value => key.text?.map fun k => (k, textOf? value)
  | .method key _ => key.text?.map fun k => (k, none)
  | .shorthand _ name _ => some (name, none)
  | .spread _ => none

/-! ## The values of an entry -/

/-- What an entry tells. -/
structure EntryValues where
  baseDir : Option String
  name : Option String
  deriving DecidableEq, Repr

namespace EntryValues

/-- An entry that tells nothing. -/
def empty : EntryValues := ⟨none, none⟩

/-- Takes a property into account; a later one overrides an earlier one. -/
def set (values : EntryValues) (key : String) (value : Option String) :
    Except LoadFault EntryValues :=
  if key == "baseDir" || key == "name" then
    match value with
    | none => .error (.notLiteral key)
    | some text =>
      .ok (if key == "name" then { values with name := some text }
        else { values with baseDir := some text })
  else .ok values

/-- The values that properties give; the place of the commands has to be among them. -/
def ofProperties (properties : List Property) : Except LoadFault EntryValues := do
  let values ← (properties.filterMap Property.entry?).foldlM (fun v p => v.set p.1 p.2) empty
  if values.baseDir.isNone then throw .noBase
  return values

end EntryValues

/-! ## The object of an entry -/

/-- The initial value of the variable of this name that statements declare. -/
def initialOf? (body : List Stmt) (name : String) : Option Expr :=
  body.findSome? fun
    | .variable _ _ declarators =>
      declarators.findSome? fun d =>
        match d.pattern with
        | .identifier declared => if declared == name then d.initial else none
        | _ => none
    | _ => none

/-- The object that a module exports by default, directly or through a variable. -/
def entryObject? (body : List Stmt) : Option (List Property) :=
  body.findSome? fun
    | .exportDefault _ (.expression (.identifier name)) => (initialOf? body name).bind objectOf?
    | .exportDefault _ (.expression e) => objectOf? e
    | _ => none

/-- The values of an entry module that was read. -/
def EntryValues.ofProgram (program : Program) : Except LoadFault EntryValues :=
  match entryObject? program.body with
  | some properties => ofProperties properties
  | none => .error .noBase

/-- The values of the entry module in the file at `path`. -/
def EntryValues.ofSource (path source : String) : Except Error EntryValues :=
  match readProgram (.ofPath true path.toList) source.toList with
  | .error _ => .error (.load path .badModule)
  | .ok program => (ofProgram program).mapError (.load path)

end CommandGrove
