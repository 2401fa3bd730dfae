import CommandGrove.Interface.OfSource
import Mathlib.Logic.Basic

/-!
# The names in an interface

The interface of a module is made from every exporting statement of its source, wherever it
stands.  What a statement outside of all others exports is exported by the module; what one inside
a namespace exports is not, and its functions are in the interface all the same.

## What is here

* `Stmt.exportedNames` — the names that an exporting statement introduces;
  `exportedNames` — those that a module exports.
* `outerExports`, `innerExports` — the exporting statements outside of all others, and the rest.
* `Stmt.recordedNames` — the names of the functions that are taken from a statement.
* `mem_names_ofProgram` — the names in the interface of a module, made from what one statement
  adds, `mem_names_addExport`.
-/

set_option autoImplicit false
namespace CommandGrove
namespace Script

/-! ## The names that are exported -/

mutual

/-- The names that a pattern binds. -/
def Pattern.names : Pattern → List String
  | .identifier name => [name]
  | .array elements rest => elementNames elements ++ optionalPatternNames rest
  | .object _ values => patternNames values
  | .withDefault target _ => target.names

/-- The names that a pattern binds that may be left out. -/
def optionalPatternNames : Option Pattern → List String
  | none => []
  | some p => p.names

/-- The names that the elements of a pattern bind. -/
def elementNames : List (Option Pattern) → List String
  | [] => []
  | p :: rest => optionalPatternNames p ++ elementNames rest

/-- The names that patterns bind. -/
def patternNames : List Pattern → List String
  | [] => []
  | p :: rest => p.names ++ patternNames rest

end

/-- The names that an exporting statement introduces, unless all that it exports is types.  In a list
of names one that is marked as that of a type counts as well.  The tree does not keep the names of
classes, enumerations and namespaces. -/
def Stmt.exportedNames : Stmt → List String
  | .exportDeclaration _ false (.function _ f) => f.name.toList
  | .exportDeclaration _ false (.variable _ _ declarators) =>
    declarators.flatMap fun d => d.pattern.names
  | .exportNames _ false names _ => names.map ExportName.exported
  | .exportDefault _ _ => [defaultName]
  | _ => []

/-- The statement exports something. -/
def Stmt.isExport : Stmt → Bool
  | .exportDeclaration _ _ _ | .exportNames _ _ _ _ | .exportDefault _ _ => true
  | _ => false

/-- The exporting statements that stand inside no other statement. -/
def outerExports (body : List Stmt) : List Stmt := body.filter Stmt.isExport

/-- The exporting statements that stand inside other statements. -/
def innerExports (body : List Stmt) : List Stmt :=
  (body.filter fun s => !s.isExport).flatMap Stmt.exports

/-- The names that a module exports. -/
def exportedNames (body : List Stmt) : List String := (outerExports body).flatMap Stmt.exportedNames

theorem stmtExports_eq_flatMap (body : List Stmt) :
    stmtExports body = body.flatMap Stmt.exports := by
  induction body with
  | nil => rfl
  | cons s rest ih => rw [stmtExports, ih, List.flatMap_cons]

theorem exports_of_isExport {s : Stmt} (h : s.isExport = true) : s.exports = [s] := by
  cases s <;> first | rfl | exact absurd h Bool.false_ne_true

/-- An exporting statement stands outside of all others or inside one. -/
theorem mem_stmtExports {body : List Stmt} {s : Stmt} :
    s ∈ stmtExports body ↔ s ∈ outerExports body ∨ s ∈ innerExports body := by
  rw [stmtExports_eq_flatMap, outerExports, innerExports, List.mem_flatMap, List.mem_flatMap]
  constructor
  · rintro ⟨r, hr, hs⟩
    by_cases hexport : r.isExport = true
    · rw [exports_of_isExport hexport, List.mem_singleton] at hs
      exact Or.inl (List.mem_filter.2 ⟨hs ▸ hr, hs ▸ hexport⟩)
    · exact Or.inr ⟨r, List.mem_filter.2 ⟨hr, by simpa using hexport⟩, hs⟩
  · rintro (hs | ⟨r, hr, hs⟩)
    · obtain ⟨hs, hexport⟩ := List.mem_filter.1 hs
      exact ⟨s, hs, by rw [exports_of_isExport hexport]; exact List.mem_singleton_self s⟩
    · exact ⟨r, (List.mem_filter.1 hr).1, hs⟩

end Script

open Script

/-! ## The names that are taken -/

/-- A name that begins with `_` is private. -/
def isPublicName (name : String) : Bool := name.toList.head? != some '_'

/-- What is exported under the name `default` is taken: a function, or a name or the result of a
call that may be one. -/
def Script.DefaultExport.isTaken : DefaultExport → Bool
  | .function _ | .expression (.arrow _) | .expression (.identifier _)
  | .expression (.call _ _) => true
  | _ => false

/-- The name in a list of exports is taken: a function that the module declares, or `default`. -/
def Script.ExportName.isTaken (locals : Locals) (item : ExportName) : Bool :=
  (locals.find? item.name).isSome || item.exported == defaultName

/-- The names that the functions of an exporting statement have before the private ones are left
out. -/
def Script.Stmt.functionNames (locals : Locals) : Stmt → List String
  | .exportDeclaration _ false (.function _ f) => if f.body.isSome then f.name.toList else []
  | .exportDeclaration _ false (.variable _ _ declarators) =>
    (declarators.filterMap Declarator.function?).map Prod.fst
  | .exportNames _ false names none =>
    (names.filter fun item => item.isTaken locals).map ExportName.exported
  | .exportDefault _ value => if value.isTaken then [defaultName] else []
  | _ => []

/-- The names of the functions that are taken from an exporting statement. -/
def Script.Stmt.recordedNames (locals : Locals) (s : Stmt) : List String :=
  (s.functionNames locals).filter isPublicName

namespace ModuleInterface

/-- The names of the functions in an interface. -/
def names (m : ModuleInterface) : List String := m.functions.map Prod.fst

theorem mem_map_put {name n : String} {value : Signature} {functions : List (String × Signature)} :
    n ∈ (put name value functions).map Prod.fst ↔ n = name ∨ n ∈ functions.map Prod.fst := by
  induction functions with
  | nil => rw [put, List.map_singleton, List.mem_singleton, List.map_nil]; simp
  | cons f rest ih =>
    rw [put]
    split
    · next h => rw [List.map_cons, List.mem_cons, List.map_cons, List.mem_cons, h, or_self_left]
    · rw [List.map_cons, List.mem_cons, ih, List.map_cons, List.mem_cons, or_left_comm]

theorem mem_names_record {m : ModuleInterface} {name n : String} {signature : Signature} :
    n ∈ (m.record name signature).names ↔ n ∈ m.names ∨ n = name ∧ isPublicName n = true := by
  rw [record, isPublicName, bne_iff_ne]
  split
  · next h =>
    refine ⟨Or.inl, ?_⟩
    rintro (hn | ⟨rfl, hpublic⟩)
    · exact hn
    · exact absurd (beq_iff_eq.1 h) hpublic
  · next h =>
    rw [names, insert, mem_map_put, names, or_comm]
    refine or_congr_right ⟨fun hn => ⟨hn, ?_⟩, And.left⟩
    rw [hn]
    exact mt beq_iff_eq.2 h

/-- Names that each step adds are all there after the last one. -/
theorem mem_names_foldl {α : Type} {step : ModuleInterface → α → ModuleInterface}
    {P : α → Prop} {n : String}
    (hstep : ∀ m x, n ∈ (step m x).names ↔ n ∈ m.names ∨ P x) (m : ModuleInterface)
    (xs : List α) : n ∈ (xs.foldl step m).names ↔ n ∈ m.names ∨ ∃ x ∈ xs, P x := by
  induction xs generalizing m with
  | nil => simp
  | cons x rest ih =>
    rw [List.foldl_cons, ih, hstep, or_assoc]
    simp only [List.mem_cons, exists_eq_or_imp]

theorem mem_names_addVariables {index : CommentIndex} {start : Nat} {m : ModuleInterface}
    {declarators : List Declarator} {n : String} :
    n ∈ (addVariables index start m declarators).names ↔ n ∈ m.names ∨
      n ∈ (declarators.filterMap Declarator.function?).map Prod.fst ∧ isPublicName n = true := by
  have hstep (m : ModuleInterface) (f : String × Callable) :
      n ∈ (m.record f.1 (describe index f.1 start f.2)).names ↔
        n ∈ m.names ∨ n = f.1 ∧ isPublicName n = true := mem_names_record
  rw [addVariables, mem_names_foldl hstep, List.mem_map]
  refine or_congr_right ⟨?_, ?_⟩
  · rintro ⟨f, hf, hn, hpublic⟩
    exact ⟨⟨f, hf, hn.symm⟩, hpublic⟩
  · rintro ⟨⟨f, hf, hn⟩, hpublic⟩
    exact ⟨f, hf, hn.symm, hpublic⟩

theorem mem_names_addName {index : CommentIndex} {locals : Locals} {start : Nat}
    {m : ModuleInterface} {item : ExportName} {n : String} :
    n ∈ (addName index locals start m item).names ↔
      n ∈ m.names ∨ item.isTaken locals = true ∧ n = item.exported ∧ isPublicName n = true := by
  rw [addName, ExportName.isTaken]
  split
  · next signature hfind =>
    rw [mem_names_record, hfind, Option.isSome_some, Bool.true_or, eq_self, true_and]
  · next hfind =>
    rw [hfind, Option.isSome_none, Bool.false_or]
    split
    · next h =>
      rw [mem_names_record, h, beq_iff_eq.1 h, eq_self, true_and]
    · next h =>
      rw [iff_false_intro h, false_and, or_false]

theorem mem_names_addNames {index : CommentIndex} {locals : Locals} {start : Nat}
    {m : ModuleInterface} {items : List ExportName} {n : String} :
    n ∈ (items.foldl (addName index locals start) m).names ↔ n ∈ m.names ∨
      n ∈ (items.filter fun item => item.isTaken locals).map ExportName.exported ∧
        isPublicName n = true := by
  have hstep (m : ModuleInterface) (item : ExportName) :
      n ∈ (addName index locals start m item).names ↔ n ∈ m.names ∨
        item.isTaken locals = true ∧ n = item.exported ∧ isPublicName n = true :=
    mem_names_addName
  rw [mem_names_foldl hstep, List.mem_map]
  refine or_congr_right ⟨?_, ?_⟩
  · rintro ⟨item, hitem, htaken, hn, hpublic⟩
    exact ⟨⟨item, List.mem_filter.2 ⟨hitem, htaken⟩, hn.symm⟩, hpublic⟩
  · rintro ⟨⟨item, hitem, hn⟩, hpublic⟩
    obtain ⟨hitem, htaken⟩ := List.mem_filter.1 hitem
    exact ⟨item, hitem, htaken, hn.symm, hpublic⟩

theorem isSome_defaultSignature {index : CommentIndex} {locals : Locals} {start : Nat}
    {value : DefaultExport} :
    (defaultSignature index locals start value).isSome = value.isTaken := by
  cases value with
  | function f => rfl
  | expression e => cases e <;> rfl
  | other parts => rfl

/-- **An exporting statement adds the names of its functions**, and takes none away. -/
theorem mem_names_addExport {index : CommentIndex} {locals : Locals} {m : ModuleInterface}
    {s : Stmt} {n : String} :
    n ∈ (addExport index locals m s).names ↔ n ∈ m.names ∨ n ∈ s.recordedNames locals := by
  rw [Stmt.recordedNames, List.mem_filter]
  fun_cases addExport index locals m s with
  | case1 start place f name body hname hbody =>
    rw [mem_names_record, Stmt.functionNames, hname, hbody]
    simp
  | case2 start place f h =>
    have hnone : (if f.body.isSome then f.name.toList else []) = [] := by
      cases hbody : f.body with
      | none => rfl
      | some body =>
        cases hname : f.name with
        | none => rfl
        | some name => exact (h name body hname hbody).elim
    rw [Stmt.functionNames, hnone]
    simp
  | case3 start place kind declarators => rw [mem_names_addVariables, Stmt.functionNames]
  | case4 start items => rw [mem_names_addNames, Stmt.functionNames]
  | case5 start value signature h =>
    rw [mem_names_record, Stmt.functionNames, ← isSome_defaultSignature, h]
    simp
  | case6 start value h =>
    rw [Stmt.functionNames, ← isSome_defaultSignature, h]
    simp
  | case7 s h₁ h₂ h₃ h₄ =>
    rw [Stmt.functionNames]
    · simp
    all_goals assumption

/-- **The interface of a module has the names of the functions that its exporting statements
export**, wherever those stand. -/
theorem mem_names_ofProgram {source : List Char} {program : Program} {n : String} :
    n ∈ (ofProgram source program).names ↔
      ∃ s ∈ stmtExports program.body,
        n ∈ s.recordedNames
          (localsOf (CommentIndex.ofPlaces source program.comments) program.body) := by
  refine (mem_names_foldl (P := fun s : Stmt => n ∈ s.recordedNames _) ?_ _ _).trans
    (or_iff_right List.not_mem_nil)
  exact fun m s => mem_names_addExport

end ModuleInterface

/-! ## The names that are taken and exported -/

theorem mem_names_of_function? {d : Declarator} {name : String} {f : Callable}
    (h : d.function? = some (name, f)) : name ∈ d.pattern.names := by
  rw [Declarator.function?] at h
  split at h
  · next g n _ hpattern =>
    rw [hpattern, Pattern.names, ← (Prod.mk.inj (Option.some.inj h)).1]
    exact List.mem_singleton_self n
  · exact absurd h (Option.some_ne_none _).symm

/-- What is taken from an exporting statement is exported by it. -/
theorem exportedNames_of_functionNames {locals : Locals} {s : Stmt} {name : String}
    (h : name ∈ s.functionNames locals) : name ∈ s.exportedNames := by
  revert h
  fun_cases Stmt.functionNames locals s with
  | case1 start place f hbody =>
    intro h
    exact h
  | case2 start place f hbody =>
    intro h
    exact absurd h List.not_mem_nil
  | case3 start place kind declarators =>
    intro h
    obtain ⟨⟨n, f⟩, hf, rfl⟩ := List.mem_map.1 h
    obtain ⟨d, hd, hfunction⟩ := List.mem_filterMap.1 hf
    exact List.mem_flatMap.2 ⟨d, hd, mem_names_of_function? hfunction⟩
  | case4 start names =>
    intro h
    obtain ⟨item, hitem, rfl⟩ := List.mem_map.1 h
    exact List.mem_map_of_mem (List.mem_filter.1 hitem).1
  | case5 start value htaken =>
    intro h
    exact h
  | case6 start value htaken =>
    intro h
    exact absurd h List.not_mem_nil
  | case7 s =>
    intro h
    exact absurd h List.not_mem_nil

theorem exportedNames_of_recordedNames {locals : Locals} {body : List Stmt} {s : Stmt}
    {name : String} (hs : s ∈ outerExports body) (h : name ∈ s.recordedNames locals) :
    name ∈ exportedNames body :=
  List.mem_flatMap.2 ⟨s, hs, exportedNames_of_functionNames (List.mem_filter.1 h).1⟩

theorem readProgram_of_ofSource {path source : String} {m : ModuleInterface}
    (h : ModuleInterface.ofSource path source = .ok m) :
    ∃ program, readProgram (.ofPath false path.toList) source.toList = .ok program ∧
      m = .ofProgram source.toList program := by
  unfold ModuleInterface.ofSource at h
  split at h
  · exact nomatch h
  · next program hread => exact ⟨program, hread, (Except.ok.inj h).symm⟩

/-- What is seen of a reading that succeeds is seen of an interface. -/
theorem ofSource_of_map (path source : String) {α : Type} {view : ModuleInterface → α} {a : α}
    (h : (ModuleInterface.ofSource path source).toOption.map view = some a) :
    ∃ m, ModuleInterface.ofSource path source = .ok m ∧ view m = a := by
  rcases hread : ModuleInterface.ofSource path source with fault | m
  · rw [hread] at h
    exact nomatch h
  · rw [hread] at h
    exact ⟨m, rfl, Option.some.inj h⟩

theorem ofSource_of_names (path source : String) {names : List String}
    (h : (ModuleInterface.ofSource path source).toOption.map ModuleInterface.names = some names) :
    ∃ m, ModuleInterface.ofSource path source = .ok m ∧ m.names = names :=
  ofSource_of_map path source h

/-- **A module is read with names that it does not export only through its inner exports**: the
names in its interface are those of the functions of its outer exports, which it exports, and
those of the functions of its inner exports.  So all of them are exported exactly if each of the
latter is exported as well.  The names that the tree does not keep are `others`. -/
theorem names_exported_iff (path source : String) (m : ModuleInterface)
    (h : ModuleInterface.ofSource path source = .ok m) :
    ∃ program, readProgram (.ofPath false path.toList) source.toList = .ok program ∧
      ∃ locals, locals = localsOf (.ofPlaces source.toList program.comments) program.body ∧
        (∀ name, name ∈ m.names ↔
          (∃ s ∈ outerExports program.body, name ∈ s.recordedNames locals) ∨
            ∃ s ∈ innerExports program.body, name ∈ s.recordedNames locals) ∧
        ∀ others : List String,
          (∀ name ∈ m.names, name ∈ exportedNames program.body ∨ name ∈ others) ↔
            ∀ s ∈ innerExports program.body, ∀ name ∈ s.recordedNames locals,
              name ∈ exportedNames program.body ∨ name ∈ others := by
  obtain ⟨program, hread, rfl⟩ := readProgram_of_ofSource h
  have hnames (name : String) :
      name ∈ (ModuleInterface.ofProgram source.toList program).names ↔
        (∃ s ∈ outerExports program.body, name ∈ s.recordedNames
          (localsOf (.ofPlaces source.toList program.comments) program.body)) ∨
        ∃ s ∈ innerExports program.body, name ∈ s.recordedNames
          (localsOf (.ofPlaces source.toList program.comments) program.body) := by
    rw [ModuleInterface.mem_names_ofProgram, ← exists_or]
    refine exists_congr fun s => ?_
    rw [mem_stmtExports, or_and_right]
  refine ⟨program, hread, _, rfl, hnames, fun others => ⟨?_, ?_⟩⟩
  · intro hall s hs name hname
    exact hall name ((hnames name).2 (Or.inr ⟨s, hs, hname⟩))
  · intro hinner name hname
    rcases (hnames name).1 hname with ⟨s, hs, hname⟩ | ⟨s, hs, hname⟩
    · exact Or.inl (exportedNames_of_recordedNames hs hname)
    · exact hinner s hs name hname

/-- One name is exported by the module and inside a namespace. -/
theorem names_exported_of_two_exports :
    ∃ (m : ModuleInterface) (program : Program),
      ModuleInterface.ofSource "mod.ts"
        "export function f() \x7b\x7d namespace N \x7b export function f() \x7b\x7d \x7d" = .ok m ∧
      m.names = ["f"] ∧ exportedNames program.body = ["f"] ∧
      (innerExports program.body).length = 1 ∧
      ∃ locals, ∀ s ∈ innerExports program.body, ∀ name ∈ s.recordedNames locals,
        name ∈ exportedNames program.body ∨ name ∈ [] := by
  have hnames : ((ModuleInterface.ofSource "mod.ts"
      "export function f() \x7b\x7d namespace N \x7b export function f() \x7b\x7d \x7d"
        ).toOption.map ModuleInterface.names) = some ["f"] := by
    decide +kernel
  obtain ⟨m, h, hnames⟩ := ofSource_of_names _ _ hnames
  obtain ⟨program, hread, locals, -, -, hiff⟩ := names_exported_iff _ _ _ h
  have hprogram : ((readProgram (.ofPath false "mod.ts".toList)
      "export function f() \x7b\x7d namespace N \x7b export function f() \x7b\x7d \x7d".toList
        ).toOption.map fun p => (exportedNames p.body, (innerExports p.body).length)) =
      some (["f"], 1) := by
    decide +kernel
  obtain ⟨hexported, hinner⟩ := Prod.mk.inj (Option.some.inj (hread ▸ hprogram))
  refine ⟨m, program, h, hnames, hexported, hinner, locals, (hiff []).1 fun name hname => ?_⟩
  rw [hexported, ← hnames]
  exact Or.inl hname

/-- A function inside a namespace is in the interface of the module, which does not export it. -/
theorem names_of_namespace :
    ((ModuleInterface.ofSource "mod.ts"
        "namespace N \x7b export function inner(a: number) \x7b\x7d \x7d").toOption.map
      ModuleInterface.names) = some ["inner"] ∧
    ((readProgram (.ofPath false "mod.ts".toList)
        "namespace N \x7b export function inner(a: number) \x7b\x7d \x7d".toList).toOption.map
      fun program => (outerExports program.body).length) = some 0 := by
  decide +kernel

end CommandGrove
