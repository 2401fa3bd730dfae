import CommandGrove.Proofs.Entry.Objects

/-!
# Variables that hold an entry

An entry may export a variable by default.  It tells what it would tell if it exported the initial
value of the variable itself, as long as the statement that declares the variable is no export: the
variables of exported declarations are not found.

## What is here

* `VariableDeclaration`, `variablesOf` — the variables that the top level of a module declares.
* `initialOf?_eq` — which of them are found.
* `DefaultExport.Holds` — an expression that is exported as it stands.
* `Indirection` — a module that exports a variable by default, and the one that exports its initial
  value.
* `EntryValues.ofSource_of_variable` — the main result;
  `EntryValues.ofSource_of_exported_variable` — an exported variable is not found.
-/

set_option autoImplicit false
namespace CommandGrove

open Script

/-! ## Declared variables -/

namespace Script

/-- A variable that a statement at the top level declares. -/
structure VariableDeclaration where
  name : String
  /-- The statement is an export itself. -/
  exported : Bool
  initial : Option Expr

/-- The variable that a declarator with a name declares. -/
def Declarator.declared? (exported : Bool) : Declarator → Option VariableDeclaration
  | ⟨.identifier name, initial⟩ => some ⟨name, exported, initial⟩
  | _ => none

/-- The variables that a declaration declares. -/
def Stmt.declaredVariables (exported : Bool) : Stmt → List VariableDeclaration
  | .variable _ _ declarators => declarators.filterMap (Declarator.declared? exported)
  | _ => []

/-- The variables that a statement at the top level declares. -/
def Stmt.variables : Stmt → List VariableDeclaration
  | .exportDeclaration _ _ declared => declared.declaredVariables true
  | s => s.declaredVariables false

/-- The variables of this name that the top level of a module declares. -/
def variablesOf (body : List Stmt) (name : String) : List VariableDeclaration :=
  (body.flatMap Stmt.variables).filter fun v => v.name == name

/-- The initial value of a variable, if the variable can be found. -/
def VariableDeclaration.visible? (v : VariableDeclaration) : Option Expr :=
  if v.exported then none else v.initial

end Script

section Found

variable {name : String}

theorem visible?_filter_exported (declarators : List Declarator) :
    ((declarators.filterMap (Declarator.declared? true)).filter (·.name == name)).filterMap
      VariableDeclaration.visible? = [] := by
  refine List.filterMap_eq_nil_iff.2 fun v hv => ?_
  obtain ⟨⟨pattern, initial⟩, -, hd⟩ := List.mem_filterMap.1 (List.mem_filter.1 hv).1
  match pattern with
  | .identifier declared =>
    obtain rfl := Option.some.inj hd
    rfl

/-- **The variable that is found** under a name is the first one of that name with an initial value,
where the variables of exported declarations are left out. -/
theorem initialOf?_eq (body : List Stmt) :
    initialOf? body name =
      ((variablesOf body name).filterMap VariableDeclaration.visible?).head? := by
  rw [initialOf?, variablesOf, List.filter_flatMap, List.filterMap_flatMap, List.head?_flatMap]
  congr 1
  funext s
  cases s with
  | «variable» start kind declarators =>
    simp only [Stmt.variables, Stmt.declaredVariables, List.filter_filterMap,
      List.filterMap_filterMap, List.head?_filterMap]
    congr 1
    funext d
    obtain ⟨pattern, initial⟩ := d
    cases pattern with
    | identifier declared =>
      rw [Declarator.declared?, Option.filter_some]
      change (if declared == name then initial else none) = _
      cases declared == name <;> rfl
    | _ => rfl
  | exportDeclaration start typeOnly declared =>
    cases declared with
    | «variable» start kind declarators =>
      exact (congrArg List.head? (visible?_filter_exported declarators)).symm
    | _ => rfl
  | _ => rfl

theorem initialOf?_of_variablesOf {body : List Stmt} {v : VariableDeclaration}
    (h : variablesOf body name = [v]) : initialOf? body name = v.visible? := by
  rw [initialOf?_eq, h, List.head?_filterMap, List.findSome?_singleton]

end Found

/-! ## Expressions that are exported -/

/-- The module exports this expression as it stands; functions and classes become declarations. -/
inductive Script.DefaultExport.Holds : Expr → DefaultExport → Prop
  | expression (e : Expr) : Holds e (.expression e)
  | function (f : Callable) : Holds (.function f) (.function f)
  | other (members : List Expr) : Holds (.compound .classBody members) (.other members)

theorem object?_of_holds {e : Expr} {value : DefaultExport} (h : value.Holds e)
    (hname : ∀ name, e ≠ .identifier name) (initial : String → Option Expr) :
    value.object? initial = objectOf? e := by
  cases h with
  | expression =>
    cases e with
    | identifier name => exact absurd rfl (hname name)
    | _ => rfl
  | function f => rfl
  | other members => rfl

/-! ## A variable in the place of its value -/

/-- The first module exports a variable by default that it declares once, and the second one is the
same, at other places perhaps, except that it exports the initial value itself. -/
structure Indirection (body body' : List Stmt) (v : VariableDeclaration) (initial : Expr) :
    Prop where
  once : variablesOf body v.name = [v]
  has_initial : v.initial = some initial
  not_identifier : ∀ name, initial ≠ .identifier name
  exchanged : ∃ front start back value,
    body = front ++ .exportDefault start (.expression (.identifier v.name)) :: back ∧
      (∀ s ∈ front ++ back, s.isDefaultExport = false) ∧ value.Holds initial ∧
        unplacedStmts body' = unplacedStmts (front ++ .exportDefault start value :: back)

namespace Indirection

variable {program program' : Program} {v : VariableDeclaration} {initial : Expr}

/-- The object of the module is the one in the initial value, if the variable is found. -/
theorem entryObject?_eq_ite (h : Indirection program.body program'.body v initial) :
    entryObject? program.body = if v.exported then none else objectOf? initial := by
  obtain ⟨front, start, back, value, hbody, hothers, -, -⟩ := h.exchanged
  have hfound := initialOf?_of_variablesOf h.once
  rw [VariableDeclaration.visible?, h.has_initial] at hfound
  rw [entryObject?_eq ⟨front, start, back, hbody, hothers⟩, DefaultExport.object?,
    hfound]
  cases v.exported <;> rfl

theorem ofProgram_of_exported (h : Indirection program.body program'.body v initial)
    (hv : v.exported = true) : EntryValues.ofProgram program = .error .noBase := by
  rw [EntryValues.ofProgram, h.entryObject?_eq_ite, if_pos hv]

theorem ofProgram_of_not_exported (h : Indirection program.body program'.body v initial)
    (hv : v.exported = false) : EntryValues.ofProgram program = EntryValues.ofProgram program' := by
  have hobject := h.entryObject?_eq_ite
  obtain ⟨front, start, back, value, -, hothers, hvalue, hsame⟩ := h.exchanged
  have hexchanged : entryObject? program.body =
      entryObject? (front ++ .exportDefault start value :: back) := by
    rw [hobject, entryObject?_eq ⟨front, start, back, rfl, hothers⟩,
      object?_of_holds hvalue h.not_identifier, hv, if_neg Bool.false_ne_true]
  calc EntryValues.ofProgram program
      = EntryValues.ofProgram ⟨front ++ .exportDefault start value :: back, []⟩ := by
        rw [EntryValues.ofProgram, hexchanged, EntryValues.ofProgram]
    _ = EntryValues.ofProgram program' := EntryValues.ofProgram_congr hsame.symm

end Indirection

namespace EntryValues

/-- **What an entry tells through a variable** is what its initial value tells, if the statement
that declares the variable is no export; if it is one, the variable is not found, and the entry does
not tell where the commands are. -/
theorem ofSource_of_variable {path source source' : String} {program program' : Program}
    {v : VariableDeclaration} {initial : Expr}
    (hread : readProgram (.ofPath true path.toList) source.toList = .ok program)
    (hread' : readProgram (.ofPath true path.toList) source'.toList = .ok program')
    (h : Indirection program.body program'.body v initial) :
    ofSource path source =
      if v.exported then .error (.load path .noBase) else ofSource path source' := by
  rw [ofSource_of_readProgram hread, ofSource_of_readProgram hread']
  cases hv : v.exported with
  | true =>
    rw [h.ofProgram_of_exported hv]
    rfl
  | false => rw [h.ofProgram_of_not_exported hv, if_neg Bool.false_ne_true]

/-- The object that both modules below export. -/
def sampleObject : Expr := .object [.keyed (.name "baseDir") (.string "x")]

/-- The declaration in both of them. -/
def sampleDeclaration : Stmt := .variable 0 .const [⟨.identifier "c", some sampleObject⟩]

/-- A module that exports a variable. -/
def variableSource : String := "const c=\x7bbaseDir:'x'\x7d;export default c"

/-- The module that exports the initial value of the variable. -/
def initialSource : String := "const c=\x7bbaseDir:'x'\x7d;export default\x7bbaseDir:'x'\x7d"

set_option maxRecDepth 4000 in
theorem readProgram_variableSource :
    readProgram (.ofPath true "fli.entry.ts".toList) variableSource.toList =
      .ok ⟨[sampleDeclaration, .exportDefault 22 (.expression (.identifier "c"))], []⟩ := by
  cbv

set_option maxRecDepth 4000 in
theorem readProgram_initialSource :
    readProgram (.ofPath true "fli.entry.ts".toList) initialSource.toList =
      .ok ⟨[sampleDeclaration, .exportDefault 22 (.expression sampleObject)], []⟩ := by
  cbv

theorem ofSource_of_variable_variableSource :
    ofSource "fli.entry.ts" variableSource = ofSource "fli.entry.ts" initialSource := by
  have h : Indirection [sampleDeclaration, .exportDefault 22 (.expression (.identifier "c"))]
      [sampleDeclaration, .exportDefault 22 (.expression sampleObject)]
      ⟨"c", false, some sampleObject⟩ sampleObject :=
    ⟨rfl, rfl, nofun, [sampleDeclaration], 22, [], .expression sampleObject, rfl,
      fun s hs => List.mem_singleton.1 hs ▸ rfl, .expression sampleObject, rfl⟩
  exact (ofSource_of_variable readProgram_variableSource readProgram_initialSource h).trans
    (if_neg Bool.false_ne_true)

/-- A variable of an exported declaration is not found. -/
theorem ofSource_of_exported_variable :
    ofSource "fli.entry.ts"
        "export const config = \x7b baseDir: 'src' \x7d;\nexport default config;\n" =
        .error (.load "fli.entry.ts" .noBase) ∧
      ofSource "fli.entry.ts"
        "export const config = \x7b baseDir: 'src' \x7d;\nexport default \x7b baseDir: 'src' \x7d;\n" =
        .ok ⟨some "src", none⟩ := by
  decide +kernel

end EntryValues
end CommandGrove
