/-!
# Tables of a TOML document

A table can be opened by a header, come into being on the way to another one, or be written by
dotted keys or in braces.  Where it comes from decides who may add to it.

## What is here

* `Value`, `Table` — the values of a document.
* `Table.descend` — changes the table at the end of a path.
* `Table.assign`, `Table.openHeader`, `Table.openElement` — what a pair, a header and a header of
  an array of tables do.
-/

set_option autoImplicit false
namespace CommandGrove
namespace Toml

/-! ## Values -/

/-- Where a table comes from. -/
inductive Origin where
  /-- A header, or the document itself. -/
  | header
  /-- The path of a header to another table. -/
  | path
  /-- A dotted key. -/
  | dotted
  /-- Braces; nothing can be added to such a table. -/
  | braces
  deriving DecidableEq, Repr

/-- A value. -/
inductive Value where
  | string (text : String)
  /-- A number, a truth value or a date. -/
  | scalar
  | array (elements : List Value)
  | table (origin : Origin) (entries : List (String × Value))
  /-- The tables that headers in double brackets have opened. -/
  | tables (elements : List Value)

/-- The entries of a table. -/
abbrev Entries : Type := List (String × Value)

/-- A table and where it comes from. -/
structure Table where
  origin : Origin
  entries : Entries

namespace Table

/-- A table without entries. -/
def new (origin : Origin) : Table := ⟨origin, []⟩

/-- The table as a value. -/
def value (t : Table) : Value := .table t.origin t.entries

/-- The value of a key. -/
def find? (t : Table) (key : String) : Option Value :=
  (t.entries.find? fun e => e.1 == key).map (·.2)

/-- Adds an entry behind the others. -/
def add (t : Table) (key : String) (v : Value) : Table :=
  { t with entries := t.entries ++ [(key, v)] }

/-- Gives a key that is there another value. -/
def replace (t : Table) (key : String) (v : Value) : Table :=
  { t with entries := t.entries.map fun e => if e.1 == key then (key, v) else e }

/-! ## Paths -/

/-- A path may lead through a table; a dotted key may not lead through a table with a header. -/
def isPassable (dotted : Bool) (origin : Origin) : Bool :=
  origin != .braces && !(dotted && origin == .header)

/-- Changes the table at the end of a path, if the path leads through nothing but tables.  Tables
that are not there are made; of an array of tables the last one counts. -/
def descend (dotted : Bool) (change : Table → Option Table) : List String → Table → Option Table
  | [], t => change t
  | key :: rest, t =>
    match t.find? key with
    | none =>
      (descend dotted change rest (new (if dotted then .dotted else .path))).map fun inner =>
        t.add key inner.value
    | some (.table origin entries) =>
      if isPassable dotted origin then
        (descend dotted change rest ⟨origin, entries⟩).map fun inner => t.replace key inner.value
      else none
    | some (.tables elements) =>
      match elements.getLast? with
      | some (.table origin entries) =>
        (descend dotted change rest ⟨origin, entries⟩).map fun inner =>
          t.replace key (.tables (elements.dropLast ++ [inner.value]))
      | _ => none
    | some _ => none

/-! ## Changes -/

/-- Gives a key that is not there a value. -/
def insertNew (key : String) (v : Value) (t : Table) : Option Table :=
  if (t.find? key).isSome then none else some (t.add key v)

/-- Gives the key at the end of a dotted one a value.  Tables written by dotted keys and others do
not mix. -/
def assign (path : List String) (v : Value) (t : Table) : Option Table :=
  match path.getLast? with
  | none => none
  | some key =>
    let way := path.dropLast
    descend true
      (fun t => if (t.origin == .dotted) == way.isEmpty then none else insertNew key v t) way t

/-- Opens the table of a header: it is new, or was only on the path to another one. -/
def openHeader (path : List String) (t : Table) : Option Table :=
  match path.getLast? with
  | none => none
  | some key =>
    descend false
      (fun t =>
        match t.find? key with
        | none => some (t.add key (new .header).value)
        | some (.table .path entries) => some (t.replace key (.table .header entries))
        | some _ => none)
      path.dropLast t

/-- Opens another table in an array of tables. -/
def openElement (path : List String) (t : Table) : Option Table :=
  match path.getLast? with
  | none => none
  | some key =>
    descend false
      (fun t =>
        match t.find? key with
        | none => some (t.add key (.tables [(new .header).value]))
        | some (.tables elements) =>
          some (t.replace key (.tables (elements ++ [(new .header).value])))
        | some _ => none)
      path.dropLast t

end Table
end Toml
end CommandGrove
