import CommandGrove.CommandTree.OfModules
import Mathlib.Data.List.Basic

/-!
# The commands that a list of modules asks for

Before any tree is built, a list of modules says in which order functions are bound to which paths.
What it says of each path is a matter of lists alone.

## What is here

* `CommandExport`, `commandExports` — the functions of a list of modules that become commands, in
  input order, with their paths.
* `placedOf`, `waysOf` — the modules that are placed, and the paths that a module opens.
* `lastBinding?` — the function that stays bound to a path.
* `takeover?`, `takeovers` — the functions that take the place of another one.
-/

set_option autoImplicit false
namespace CommandGrove

/-! ## What a list of modules asks for -/

/-- A function that becomes a command, and the path of the command. -/
structure CommandExport where
  path : List String
  binding : Binding

/-- The path of the command for an exported name; a name that cannot be a command has none. -/
def exportPath? (module : ModulePath) (name : String) : Option (List String) :=
  if name = defaultName then some (ownerTokens module)
  else if Naming.isCommand (Naming.token name) then
    some (ownerTokens module ++ [Naming.token name])
  else none

/-- The command for a function that a module exports. -/
def exportOf? (module : ModulePath) (function : String × Signature) : Option CommandExport :=
  (exportPath? module function.1).map fun path => ⟨path, ⟨module, function.1, function.2⟩⟩

/-- The commands for the functions of a module; a module that cannot be placed has none. -/
def exportsOf (module : ModulePath × ModuleInterface) : List CommandExport :=
  if isPlaceable module.1 then module.2.functions.filterMap (exportOf? module.1) else []

/-- The commands for the functions of modules, in input order. -/
def commandExports (modules : List (ModulePath × ModuleInterface)) : List CommandExport :=
  modules.flatMap exportsOf

/-- The paths that a module opens: its own and those of its functions. -/
def waysOf (module : ModulePath × ModuleInterface) : List (List String) :=
  if isPlaceable module.1 then
    ownerTokens module.1 :: (exportsOf module).map CommandExport.path
  else []

theorem mem_waysOf {module : ModulePath × ModuleInterface} {way : List String} :
    way ∈ waysOf module ↔ (isPlaceable module.1 = true ∧ way = ownerTokens module.1)
      ∨ ∃ e ∈ exportsOf module, way = e.path := by
  rw [waysOf]
  by_cases hplace : isPlaceable module.1 = true
  · rw [if_pos hplace, List.mem_cons, List.mem_map, and_iff_right hplace]
    exact or_congr_right (exists_congr fun e => and_congr_right fun _ => eq_comm)
  · rw [if_neg hplace, exportsOf, if_neg hplace]
    simp [hplace]

theorem mem_commandExports {modules : List (ModulePath × ModuleInterface)} {e : CommandExport} :
    e ∈ commandExports modules ↔ ∃ m ∈ modules, e ∈ exportsOf m := List.mem_flatMap

theorem exists_way_iff {modules : List (ModulePath × ModuleInterface)}
    {P : List String → Prop} :
    (∃ way ∈ modules.flatMap waysOf, P way) ↔
      (∃ m ∈ modules, isPlaceable m.1 = true ∧ P (ownerTokens m.1))
        ∨ ∃ e ∈ commandExports modules, P e.path := by
  constructor
  · rintro ⟨way, hway, hP⟩
    obtain ⟨m, hm, hway⟩ := List.mem_flatMap.1 hway
    rcases mem_waysOf.1 hway with ⟨hplace, rfl⟩ | ⟨e, he, rfl⟩
    · exact Or.inl ⟨m, hm, hplace, hP⟩
    · exact Or.inr ⟨e, mem_commandExports.2 ⟨m, hm, he⟩, hP⟩
  · rintro (⟨m, hm, hplace, hP⟩ | ⟨e, he, hP⟩)
    · exact ⟨_, List.mem_flatMap.2 ⟨m, hm, mem_waysOf.2 (Or.inl ⟨hplace, rfl⟩)⟩, hP⟩
    · obtain ⟨m, hm, he⟩ := mem_commandExports.1 he
      exact ⟨_, List.mem_flatMap.2 ⟨m, hm, mem_waysOf.2 (Or.inr ⟨e, he, rfl⟩)⟩, hP⟩

/-- The modules that are placed. -/
def placedOf (modules : List (ModulePath × ModuleInterface)) : List ModulePath :=
  (modules.map Prod.fst).filter isPlaceable

/-- The last function bound to a path. -/
def lastBinding? (exports : List CommandExport) (path : List String) : Option Binding :=
  (exports.reverse.find? fun e => e.path == path).map CommandExport.binding

/-- The path of a function with the old and the new source, if it takes the place of one bound
before it. -/
def takeover? (before : List CommandExport) (e : CommandExport) :
    Option (List String × String × String) :=
  (lastBinding? before e.path).map fun old => (e.path, old.source, e.binding.source)

/-- All functions that take the place of another, in input order. -/
def takeovers (exports : List CommandExport) : List (List String × String × String) :=
  exports.zipIdx.filterMap fun x => takeover? (exports.take x.2) x.1

theorem lastBinding?_concat (exports : List CommandExport) (e : CommandExport)
    (path : List String) :
    lastBinding? (exports ++ [e]) path
      = if e.path = path then some e.binding else lastBinding? exports path := by
  rw [lastBinding?, List.reverse_append, List.reverse_singleton, List.singleton_append,
    List.find?_cons]
  by_cases h : e.path = path
  · rw [if_pos h, beq_iff_eq.2 h]
    rfl
  · rw [if_neg h, beq_eq_false_iff_ne.2 h, lastBinding?]

theorem lastBinding?_eq_none {exports : List CommandExport} {path : List String}
    (h : ∀ e ∈ exports, e.path ≠ path) : lastBinding? exports path = none := by
  rw [lastBinding?, Option.map_eq_none_iff, List.find?_eq_none]
  intro e he
  rw [beq_iff_eq]
  exact h e (List.mem_reverse.1 he)

theorem takeovers_concat (exports : List CommandExport) (e : CommandExport) :
    takeovers (exports ++ [e]) = takeovers exports ++ (takeover? exports e).toList := by
  rw [takeovers, List.zipIdx_append, List.filterMap_append]
  refine congrArg₂ (· ++ ·) ?_ ?_
  · -- what comes later does not change what came before a place
    refine List.filterMap_congr fun x hx => ?_
    have hlt : x.2 < exports.length := by simpa using List.snd_lt_of_mem_zipIdx hx
    rw [List.take_append_of_le_length (Nat.le_of_lt hlt)]
  · rw [Nat.zero_add, List.zipIdx_singleton, List.filterMap_cons, List.filterMap_nil,
      List.take_left]
    cases takeover? exports e <;> rfl

end CommandGrove
