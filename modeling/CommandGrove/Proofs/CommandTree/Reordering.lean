import CommandGrove.Proofs.CommandTree.Segments
import Mathlib.Data.Finset.Card
import Mathlib.Data.List.Perm.Basic

/-!
# The order of modules

The numbers of the nodes, the order of children and the function that stays on a node depend on the
order in which modules are added.  What is said of paths does not: which paths there are, which of
them have a function, how many functions were replaced and where each module stands.  If no function
was replaced, the functions are the same as well.

## What is here

* `CommandTree.functionAt?`, `CommandTree.ownerPath?` — a tree looked at through its paths.
* `Reflects.functionAt?_eq`, `Reflects.ownerPath?_eq`, `Reflects.card_boundNodes` — what is seen
  that way, told from what was asked for.
* `lastBinding?_eq_some_iff` — if each path is asked for once, the last function is the only one.
* `ofModules_of_perm` — the main result.
-/

set_option autoImplicit false
namespace CommandGrove

/-! ## Functions asked for -/

/-- A path has a function just if one was asked for. -/
theorem lastBinding?_isSome_iff {exports : List CommandExport} {path : List String} :
    (lastBinding? exports path).isSome = true ↔ path ∈ exports.map CommandExport.path := by
  rw [lastBinding?, Option.isSome_map, List.find?_isSome, List.mem_map]
  simp only [List.mem_reverse, beq_iff_eq]

/-- Where no path is asked for twice, every function asked for stays. -/
theorem lastBinding?_eq_some_iff {exports : List CommandExport}
    (h : (exports.map CommandExport.path).Nodup) {path : List String} {b : Binding} :
    lastBinding? exports path = some b ↔ ⟨path, b⟩ ∈ exports := by
  rw [lastBinding?, Option.map_eq_some_iff]
  constructor
  · rintro ⟨e, he, rfl⟩
    have hpath : e.path = path := by simpa using List.find?_some he
    rw [← hpath]
    exact List.mem_reverse.1 (List.mem_of_find?_eq_some he)
  · intro hmem
    have hsome : (exports.reverse.find? fun e => e.path == path).isSome = true :=
      List.find?_isSome.2 ⟨_, List.mem_reverse.2 hmem, beq_iff_eq.2 rfl⟩
    obtain ⟨e, he⟩ := Option.isSome_iff_exists.1 hsome
    have hpath : e.path = path := by simpa using List.find?_some he
    have hsame := List.inj_on_of_nodup_map h (List.mem_reverse.1 (List.mem_of_find?_eq_some he))
      hmem hpath
    exact ⟨e, he, congrArg CommandExport.binding hsame⟩

/-- Functions asked for in another order are the same functions. -/
theorem lastBinding?_of_perm {exports exports' : List CommandExport}
    (hperm : exports.Perm exports') (h : (exports.map CommandExport.path).Nodup)
    (path : List String) : lastBinding? exports path = lastBinding? exports' path := by
  have h' : (exports'.map CommandExport.path).Nodup :=
    (hperm.map CommandExport.path).nodup_iff.1 h
  refine Option.ext fun b => ?_
  rw [lastBinding?_eq_some_iff h, lastBinding?_eq_some_iff h', hperm.mem_iff]

namespace CommandTree

/-! ## Looking along paths -/

/-- The function of the node that tokens lead to from the root. -/
def functionAt? (t : CommandTree) (tokens : List String) : Option Binding :=
  (t.walk? root tokens).bind t.binding?

/-- The tokens that lead to the node of a module. -/
def ownerPath? (t : CommandTree) (module : ModulePath) : Option (List String) :=
  (t.owner? module).map t.path

/-- Tokens that lead to a node are its path. -/
theorem WellFormed.path_of_walk? {t : CommandTree} (h : t.WellFormed) {tokens : List String}
    {i : Nat} (hwalk : t.walk? root tokens = some i) : i < t.nodes.size ∧ t.path i = tokens := by
  induction tokens using List.reverseRecOn generalizing i with
  | nil =>
    obtain rfl : root = i := Option.some.inj hwalk
    exact ⟨h.nonempty, h.path_root⟩
  | append_singleton front token ih =>
    rw [walk?_concat, Option.bind_eq_some_iff] at hwalk
    obtain ⟨p, hp, hchild⟩ := hwalk
    obtain ⟨hparent, htoken⟩ := h.findChild?_eq_some_iff.1 hchild
    exact ⟨lt_of_parent hparent, by rw [h.path_eq hparent htoken, (ih hp).2]⟩

section Reflects

variable {t : CommandTree} {ways : List (List String)} {placed : List ModulePath}
  {exports : List CommandExport} (h : t.Reflects ways placed exports)

include h

/-- **The function at a path is the last one asked for there.** -/
theorem Reflects.functionAt?_eq (tokens : List String) :
    t.functionAt? tokens = lastBinding? exports tokens := by
  cases hwalk : t.walk? root tokens with
  | some i =>
    obtain ⟨hi, rfl⟩ := h.reachable.wellFormed.path_of_walk? hwalk
    rw [functionAt?, hwalk, Option.bind_some, h.binding? i hi]
  | none =>
    rw [functionAt?, hwalk, Option.bind_none, lastBinding?_eq_none]
    rintro e he rfl
    obtain ⟨i, hi, hpath⟩ := h.exports_hasPath e he
    rw [← hpath, h.reachable.wellFormed.walk?_path hi] at hwalk
    exact Option.some_ne_none i hwalk

theorem Reflects.ownerPath?_eq (module : ModulePath) :
    t.ownerPath? module = if module ∈ placed then some (ownerTokens module) else none := by
  by_cases hm : module ∈ placed
  · obtain ⟨i, hi, hpath⟩ := h.owner? hm
    rw [ownerPath?, hi, Option.map_some, hpath, if_pos hm]
  · rw [if_neg hm, ownerPath?, CommandTree.owner?, Option.map_map, Option.map_eq_none_iff, List.find?_eq_none]
    intro o ho hsame
    have hentry : (o.1, t.path o.2) ∈ placed.map fun m => (m, ownerTokens m) := by
      rw [← h.owners]
      exact List.mem_map_of_mem ho
    obtain ⟨m, hmem, heq⟩ := List.mem_map.1 hentry
    rw [← beq_iff_eq.1 hsame, ← (Prod.mk.inj heq).1] at hm
    exact hm hmem

/-- The nodes that have a function are as many as the paths asked for. -/
theorem Reflects.card_boundNodes :
    t.boundNodes.card = (exports.map CommandExport.path).toFinset.card := by
  have hlt {i : Nat} (hi : i ∈ t.boundNodes) : i < t.nodes.size := by
    obtain ⟨b, hb⟩ := Option.isSome_iff_exists.1 (mem_boundNodes.1 hi)
    exact lt_of_binding hb
  have himage : t.boundNodes.image t.path = (exports.map CommandExport.path).toFinset := by
    ext tokens
    rw [Finset.mem_image, List.mem_toFinset, ← lastBinding?_isSome_iff]
    constructor
    · rintro ⟨i, hi, rfl⟩
      rw [← h.binding? i (hlt hi)]
      exact mem_boundNodes.1 hi
    · intro hsome
      rw [← h.functionAt?_eq] at hsome
      obtain ⟨b, hb⟩ := Option.isSome_iff_exists.1 hsome
      obtain ⟨i, hwalk, hi⟩ := Option.bind_eq_some_iff.1 hb
      refine ⟨i, mem_boundNodes.2 ?_, (h.reachable.wellFormed.path_of_walk? hwalk).2⟩
      rw [hi]
      rfl
  rw [← himage, Finset.card_image_of_injOn]
  intro i hi j hj
  exact h.reachable.wellFormed.path_injective (hlt hi) (hlt hj)

/-- If no function was replaced, no path was asked for twice. -/
theorem Reflects.nodup_of_collisions (hc : t.collisions = []) :
    (exports.map CommandExport.path).Nodup := by
  have hlength := h.length
  rw [hc, List.length_nil, Nat.add_zero, h.card_boundNodes, List.card_toFinset] at hlength
  rw [← List.dedup_eq_self]
  refine (List.dedup_sublist _).eq_of_length ?_
  rw [← hlength, List.length_map]

end Reflects

/-! ## Main result -/

/-- **The order of modules does not matter**, but for functions that ask for one path.  The trees of
a list of modules and of any permutation of it have the same paths, functions at the same paths, as
many collisions, and each module at the same place; and if there is no collision, they have the same
function at each path. -/
theorem ofModules_of_perm (modules modules' : List (ModulePath × ModuleInterface))
    (hperm : modules.Perm modules') :
    (∀ ts, (ofModules modules).HasPath ts ↔ (ofModules modules').HasPath ts) ∧
    (∀ ts, ((ofModules modules).functionAt? ts).isSome
      = ((ofModules modules').functionAt? ts).isSome) ∧
    (ofModules modules).collisions.length = (ofModules modules').collisions.length ∧
    (∀ m, (ofModules modules).ownerPath? m = (ofModules modules').ownerPath? m) ∧
    ((ofModules modules).collisions = [] →
      ∀ ts, (ofModules modules).functionAt? ts = (ofModules modules').functionAt? ts) := by
  have h := reflects_ofModules modules
  have h' := reflects_ofModules modules'
  have hexports : (commandExports modules).Perm (commandExports modules') :=
    hperm.flatMap_right exportsOf
  have hpaths := hexports.map CommandExport.path
  have hplaced : (placedOf modules).Perm (placedOf modules') :=
    (hperm.map Prod.fst).filter isPlaceable
  refine ⟨fun ts => ?_, fun ts => ?_, ?_, fun m => ?_, fun hc ts => ?_⟩
  · rw [h.hasPath, h'.hasPath]
    simp only [(hperm.flatMap_right waysOf).mem_iff]
  · rw [Bool.eq_iff_iff, h.functionAt?_eq, h'.functionAt?_eq, lastBinding?_isSome_iff,
      lastBinding?_isSome_iff, hpaths.mem_iff]
  · -- as many functions are asked for, and as many nodes have one
    have hbound : (ofModules modules).boundNodes.card = (ofModules modules').boundNodes.card := by
      rw [h.card_boundNodes, h'.card_boundNodes, List.toFinset_eq_of_perm _ _ hpaths]
    have hlength := h.length
    have hlength' := h'.length
    rw [hexports.length_eq] at hlength
    omega
  · rw [h.ownerPath?_eq, h'.ownerPath?_eq]
    simp only [hplaced.mem_iff]
  · rw [h.functionAt?_eq, h'.functionAt?_eq,
      lastBinding?_of_perm hexports (h.nodup_of_collisions hc)]

/-- Two modules in one directory: the other order changes their numbers and nothing else. -/
theorem ofModules_of_perm_of_two_modules :
    let interface : ModuleInterface := ⟨true, [("default", ⟨true, none, none, [], false⟩)]⟩
    let seed := (ModulePath.ofText "db/seed.ts", interface)
    let migrate := (ModulePath.ofText "db/migrate.ts", interface)
    (ofModules [seed, migrate]).owner? seed.1 = some 2 ∧
      (ofModules [migrate, seed]).owner? seed.1 = some 3 ∧
      (ofModules [migrate, seed]).ownerPath? seed.1 = some ["db", "seed"] ∧
      ∀ ts, (ofModules [seed, migrate]).functionAt? ts
        = (ofModules [migrate, seed]).functionAt? ts := by
  intro interface seed migrate
  obtain ⟨-, -, -, howner, hfunction⟩ :=
    ofModules_of_perm [seed, migrate] [migrate, seed] (.swap _ _ _)
  have hpath : (ofModules [seed, migrate]).ownerPath? seed.1 = some ["db", "seed"] := by
    decide +kernel
  exact ⟨by decide +kernel, by decide +kernel, (howner seed.1).symm.trans hpath,
    hfunction (by decide +kernel)⟩

end CommandTree
end CommandGrove
