import CommandGrove.Proofs.CommandTree.Exports
import CommandGrove.Proofs.CommandTree.Placement
import Mathlib.Data.Finset.Card

/-!
# What the tree of a list of modules holds

The tree is what is left of all that the list asks for: the paths, the last function of each of
them, and a note of every function that another one took the place of.

## What is here

* `CommandTree.Reflects` — a tree holds what was asked for so far: the paths opened, the modules
  placed and the functions bound.  `Reflects.adds`, `Reflects.own` and `Reflects.bind` are the
  steps that keep it.
* `reflects_ofModules` — the tree of a list of modules holds what the list asks for.
-/

set_option autoImplicit false
namespace CommandGrove
namespace CommandTree

/-- The nodes that have a function. -/
def boundNodes (t : CommandTree) : Finset Nat :=
  (Finset.range t.nodes.size).filter fun i => (t.binding? i).isSome

theorem mem_boundNodes {t : CommandTree} {i : Nat} :
    i ∈ t.boundNodes ↔ (t.binding? i).isSome := by
  rw [boundNodes, Finset.mem_filter, Finset.mem_range]
  refine ⟨fun h => h.2, fun h => ⟨?_, h⟩⟩
  obtain ⟨b, hb⟩ := Option.isSome_iff_exists.1 h
  exact lt_of_binding hb

theorem Grows.boundNodes {t s : CommandTree} (h : t.Grows s) : s.boundNodes = t.boundNodes := by
  ext i
  rw [mem_boundNodes, mem_boundNodes, h.binding?]

theorem boundNodes_bind {t : CommandTree} {n : Nat} (hn : n < t.nodes.size) (b : Binding) :
    (t.bind n b).boundNodes = insert n t.boundNodes := by
  ext i
  rw [mem_boundNodes, binding?_bind hn, Finset.mem_insert, mem_boundNodes]
  by_cases hi : i = n
  · simp [hi]
  · simp [hi]

/-! ## What a tree holds -/

/-- The tree is what is left of opening the paths `ways`, placing the modules `placed` and binding
the functions `exports`, each of them in this order. -/
structure Reflects (t : CommandTree) (ways : List (List String)) (placed : List ModulePath)
    (exports : List CommandExport) : Prop where
  reachable : t.Reachable
  hasPath : ∀ ts, t.HasPath ts ↔ ts = [] ∨ ∃ way ∈ ways, ts <+: way
  owners_lt : ∀ o ∈ t.owners, o.2 < t.nodes.size
  owners : t.owners.map (fun o => (o.1, t.path o.2)) = placed.map fun m => (m, ownerTokens m)
  exports_hasPath : ∀ e ∈ exports, t.HasPath e.path
  binding? : ∀ i, i < t.nodes.size → t.binding? i = lastBinding? exports (t.path i)
  collisions_lt : ∀ c ∈ t.collisions, c.node < t.nodes.size
  collisions : t.collisions.map (fun c => (t.path c.node, c.replaced, c.kept))
    = takeovers exports
  /-- Every function bound is on its node still, or was replaced. -/
  length : exports.length = t.boundNodes.card + t.collisions.length

theorem reflects_empty : empty.Reflects [] [] [] where
  reachable := .empty
  hasPath ts := by
    have hroot := wellFormed_empty.path_root
    constructor
    · rintro ⟨i, hi, rfl⟩
      rw [Nat.lt_one_iff.1 hi]
      exact Or.inl hroot
    · rintro (rfl | ⟨way, hway, -⟩)
      · exact ⟨root, wellFormed_empty.nonempty, hroot⟩
      · exact absurd hway List.not_mem_nil
  owners_lt o ho := absurd ho List.not_mem_nil
  owners := rfl
  exports_hasPath e he := absurd he List.not_mem_nil
  binding? i hi := by rw [Nat.lt_one_iff.1 hi]; rfl
  collisions_lt c hc := absurd hc List.not_mem_nil
  collisions := rfl
  length := rfl

section Steps

variable {t : CommandTree} {ways : List (List String)} {placed : List ModulePath}
  {exports : List CommandExport} (h : t.Reflects ways placed exports)

include h

/-- What numbers of nodes are noted with keeps its meaning when nodes are added. -/
theorem Reflects.map_path {s : CommandTree} (hk : t.Keeps s) (hs : s.WellFormed) {α β : Type}
    {node : α → Nat} {f : α → List String → β} {l : List α}
    (hl : ∀ x ∈ l, node x < t.nodes.size) :
    l.map (fun x => f x (s.path (node x))) = l.map fun x => f x (t.path (node x)) := by
  refine List.map_congr_left fun x hx => ?_
  rw [hk.path h.reachable.wellFormed hs (hl x hx)]

theorem Reflects.owners_of_keeps {s : CommandTree} (hk : t.Keeps s) (hs : s.WellFormed) :
    t.owners.map (fun o => (o.1, s.path o.2)) = placed.map fun m => (m, ownerTokens m) := by
  rw [← h.owners]
  exact h.map_path hk hs (f := fun o ts => (o.1, ts)) h.owners_lt

theorem Reflects.collisions_of_keeps {s : CommandTree} (hk : t.Keeps s) (hs : s.WellFormed) :
    t.collisions.map (fun c => (s.path c.node, c.replaced, c.kept)) = takeovers exports := by
  rw [← h.collisions]
  exact h.map_path hk hs (f := fun c ts => (ts, c.replaced, c.kept)) h.collisions_lt

/-- A path is opened. -/
theorem Reflects.adds {s : CommandTree} {way : List String} {i : Nat} (ha : t.Adds way s i) :
    s.Reflects (ways ++ [way]) placed exports where
  reachable := ha.reachable
  hasPath ts := by
    rw [ha.hasPath, h.hasPath, or_assoc]
    simp only [List.mem_append, List.mem_singleton, or_and_right, exists_or, exists_eq_left]
  owners_lt o ho := by
    rw [ha.grows.owners] at ho
    exact Nat.lt_of_lt_of_le (h.owners_lt o ho) ha.grows.size_le
  owners := by
    rw [ha.grows.owners]
    exact h.owners_of_keeps ha.grows.toKeeps ha.reachable.wellFormed
  exports_hasPath e he := (ha.hasPath e.path).2 (Or.inl (h.exports_hasPath e he))
  binding? j hj := by
    rw [ha.grows.binding?]
    by_cases hold : j < t.nodes.size
    · rw [h.binding? j hold, ha.grows.path h.reachable.wellFormed ha.reachable.wellFormed hold]
    · -- a new node has no function, and no function has its path: that would be an old node
      rw [lastBinding?_eq_none, CommandTree.binding?,
        Array.getElem?_eq_none (Nat.le_of_not_lt hold)]
      · rfl
      · intro e he hpath
        obtain ⟨k, hk, hek⟩ := h.exports_hasPath e he
        rw [← ha.grows.path h.reachable.wellFormed ha.reachable.wellFormed hk, hpath] at hek
        have hkj := ha.reachable.wellFormed.path_injective
          (Nat.lt_of_lt_of_le hk ha.grows.size_le) hj hek
        exact hold (hkj ▸ hk)
  collisions_lt c hc := by
    rw [ha.grows.collisions] at hc
    exact Nat.lt_of_lt_of_le (h.collisions_lt c hc) ha.grows.size_le
  collisions := by
    rw [ha.grows.collisions]
    exact h.collisions_of_keeps ha.grows.toKeeps ha.reachable.wellFormed
  length := by rw [ha.grows.boundNodes, ha.grows.collisions, h.length]

/-- A module takes a node for its own. -/
theorem Reflects.own {i : Nat} (hi : i < t.nodes.size) {module : ModulePath}
    (hpath : t.path i = ownerTokens module) :
    (t.own module i).Reflects ways (placed ++ [module]) exports := by
  have hreach := h.reachable.own hi module
  have hk := keeps_own t module i
  have hkeep : ∀ {j}, j < t.nodes.size → _ := hk.path h.reachable.wellFormed hreach.wellFormed
  have hhas := hk.hasPath_iff h.reachable.wellFormed hreach.wellFormed rfl
  refine ⟨hreach, fun ts => (hhas ts).trans (h.hasPath ts), ?_, ?_,
    fun e he => (hhas e.path).2 (h.exports_hasPath e he), ?_, h.collisions_lt,
    h.collisions_of_keeps hk hreach.wellFormed, h.length⟩
  · intro o ho
    rcases List.mem_append.1 ho with ho | ho
    · exact h.owners_lt o ho
    · rw [List.mem_singleton.1 ho]
      exact hi
  · rw [CommandTree.own, List.map_append, List.map_append, List.map_singleton,
      List.map_singleton, ← CommandTree.own, hkeep hi, hpath]
    exact congrArg (· ++ _) (h.owners_of_keeps hk hreach.wellFormed)
  · intro j hj
    rw [hkeep hj]
    exact h.binding? j hj

/-- A function is bound to a node. -/
theorem Reflects.bind {i : Nat} (hi : i < t.nodes.size) (b : Binding) :
    (t.bind i b).Reflects ways placed (exports ++ [⟨t.path i, b⟩]) := by
  have hreach := h.reachable.bind hi b
  have hk := keeps_bind t i b
  have hkeep : ∀ {j}, j < t.nodes.size → _ := hk.path h.reachable.wellFormed hreach.wellFormed
  have hhas := hk.hasPath_iff h.reachable.wellFormed hreach.wellFormed size_bind
  refine ⟨hreach, fun ts => (hhas ts).trans (h.hasPath ts), ?_, ?_, ?_, ?_, ?_, ?_, ?_⟩
  · intro o ho
    rw [size_bind]
    exact h.owners_lt o ho
  · rw [owners_bind]
    exact h.owners_of_keeps hk hreach.wellFormed
  · intro e he
    rcases List.mem_append.1 he with he | he
    · exact (hhas e.path).2 (h.exports_hasPath e he)
    · rw [List.mem_singleton.1 he]
      exact (hhas _).2 ⟨i, hi, rfl⟩
  · intro j hj
    rw [size_bind] at hj
    rw [binding?_bind hi, lastBinding?_concat, hkeep hj, h.binding? j hj]
    by_cases hji : j = i
    · rw [if_pos hji, if_pos (congrArg t.path hji.symm)]
    · rw [if_neg hji, if_neg]
      exact fun hpath => hji (h.reachable.wellFormed.path_injective hi hj hpath).symm
  · intro c hc
    rw [size_bind]
    rw [collisions_bind] at hc
    rcases List.mem_append.1 hc with hc | hc
    · exact h.collisions_lt c hc
    · obtain ⟨old, -, rfl⟩ := Option.map_eq_some_iff.1 (Option.mem_toList.1 hc)
      exact hi
  · rw [collisions_bind, List.map_append, takeovers_concat, takeover?, ← h.binding? i hi]
    refine congrArg₂ (· ++ ·) ?_ ?_
    · exact h.collisions_of_keeps hk hreach.wellFormed
    · cases t.binding? i with
      | none => rfl
      | some old => exact congrArg (fun ts => [(ts, old.source, b.source)]) (hkeep hi)
  · rw [boundNodes_bind hi, collisions_bind, List.length_append, List.length_append, h.length]
    cases hold : t.binding? i with
    | none =>
      rw [Finset.card_insert_of_notMem]
      · simp only [List.length_singleton, Option.map_none, Option.toList_none, List.length_nil]
        omega
      · rw [mem_boundNodes, hold]
        exact Bool.false_ne_true
    | some old =>
      rw [Finset.insert_eq_of_mem]
      · rfl
      · rw [mem_boundNodes, hold]
        rfl

end Steps

/-! ## Adding a module -/

/-- The node for an exported function ends the path of its command. -/
theorem target?_adds {t : CommandTree} (h : t.Reachable) {module : ModulePath} {owner : Nat}
    (hlt : owner < t.nodes.size) (hpath : t.path owner = ownerTokens module) {name : String}
    {path : List String} (hname : exportPath? module name = some path) :
    ∃ s i, t.target? owner name = some (s, i) ∧ t.Adds path s i := by
  rw [exportPath?] at hname
  rw [target?]
  split at hname
  · next hdefault =>
    rw [Option.some_inj] at hname
    rw [if_pos (beq_iff_eq.2 hdefault)]
    exact ⟨t, owner, rfl, hname ▸ hpath ▸ .refl h hlt⟩
  · next hdefault =>
    rw [if_neg (mt beq_iff_eq.1 hdefault)]
    split at hname
    · next hcommand =>
      rw [Option.some_inj] at hname
      exact ⟨_, _, if_pos hcommand, hname ▸ hpath ▸ child_adds h hlt _⟩
    · exact absurd hname.symm (Option.some_ne_none path)

theorem target?_eq_none (t : CommandTree) (module : ModulePath) (owner : Nat) {name : String}
    (hname : exportPath? module name = none) : t.target? owner name = none := by
  rw [exportPath?] at hname
  rw [target?]
  split at hname
  · exact absurd hname (Option.some_ne_none _)
  · next hdefault =>
    rw [if_neg (mt beq_iff_eq.1 hdefault)]
    split at hname
    · exact absurd hname (Option.some_ne_none _)
    · next hcommand => exact if_neg hcommand

/-- Adding a function binds it to its path, if it has one; nodes are only added. -/
theorem Reflects.addFunction {t : CommandTree} {ways : List (List String)}
    {placed : List ModulePath} {exports : List CommandExport}
    (h : t.Reflects ways placed exports) {module : ModulePath} {owner : Nat}
    (hlt : owner < t.nodes.size) (hpath : t.path owner = ownerTokens module)
    (function : String × Signature) :
    (t.addFunction module owner function).Reflects
        (ways ++ (exportOf? module function).toList.map CommandExport.path) placed
        (exports ++ (exportOf? module function).toList)
      ∧ t.Keeps (t.addFunction module owner function) := by
  cases hname : exportPath? module function.1 with
  | none =>
    rw [CommandTree.addFunction, target?_eq_none t module owner hname, exportOf?, hname]
    simp only [Option.map_none, Option.toList_none, List.map_nil, List.append_nil]
    exact ⟨h, .refl t⟩
  | some path =>
    obtain ⟨s, i, htarget, ha⟩ := target?_adds h.reachable hlt hpath hname
    rw [CommandTree.addFunction, htarget, exportOf?, hname]
    have hbound := (h.adds ha).bind ha.lt ⟨module, function.1, function.2⟩
    rw [ha.path] at hbound
    exact ⟨hbound, ha.grows.toKeeps.trans (keeps_bind s i _)⟩

/-- Adding the functions of a module one after the other. -/
theorem Reflects.addFunctions {t : CommandTree} {ways : List (List String)}
    {placed : List ModulePath} {exports : List CommandExport}
    (h : t.Reflects ways placed exports) {module : ModulePath} {owner : Nat}
    (hlt : owner < t.nodes.size) (hpath : t.path owner = ownerTokens module)
    (functions : List (String × Signature)) :
    (functions.foldl (CommandTree.addFunction module owner) t).Reflects
      (ways ++ (functions.filterMap (exportOf? module)).map CommandExport.path) placed
      (exports ++ functions.filterMap (exportOf? module)) := by
  induction functions generalizing t ways exports with
  | nil =>
    rw [List.filterMap_nil, List.map_nil, List.append_nil, List.append_nil]
    exact h
  | cons function rest ih =>
    obtain ⟨hfirst, hk⟩ := h.addFunction hlt hpath function
    have hrest := ih hfirst (Nat.lt_of_lt_of_le hlt hk.size_le)
      ((hk.path h.reachable.wellFormed hfirst.reachable.wellFormed hlt).trans hpath)
    have hcons : (function :: rest).filterMap (exportOf? module)
        = (exportOf? module function).toList ++ rest.filterMap (exportOf? module) := by
      rw [List.filterMap_cons]
      cases exportOf? module function <;> rfl
    rw [hcons, List.map_append, ← List.append_assoc, ← List.append_assoc]
    exact hrest

theorem addModule_eq (t : CommandTree) {module : ModulePath × ModuleInterface}
    (hplace : isPlaceable module.1 = true) {s : CommandTree} {i : Nat}
    (hdescend : t.descend root (ownerTokens module.1) = (s, i)) :
    t.addModule module
      = module.2.functions.foldl (CommandTree.addFunction module.1 i) (s.own module.1 i) := by
  rw [CommandTree.addModule, if_pos hplace, place, hdescend]
  rfl

/-- Adding a module places it and binds its functions, or leaves it out. -/
theorem Reflects.addModule {t : CommandTree} {ways : List (List String)}
    {placed : List ModulePath} {exports : List CommandExport}
    (h : t.Reflects ways placed exports) (module : ModulePath × ModuleInterface) :
    (t.addModule module).Reflects (ways ++ waysOf module) (placed ++ placedOf [module])
      (exports ++ exportsOf module) := by
  rw [waysOf, placedOf, exportsOf]
  by_cases hplace : isPlaceable module.1 = true
  · have ha := descend_adds h.reachable h.reachable.wellFormed.nonempty (ownerTokens module.1)
    rw [h.reachable.wellFormed.path_root, List.nil_append] at ha
    rcases hdescend : t.descend root (ownerTokens module.1) with ⟨s, i⟩
    rw [hdescend] at ha
    have hown := (h.adds ha).own ha.lt ha.path
    have hpath := (keeps_own s module.1 i).path ha.reachable.wellFormed
      hown.reachable.wellFormed ha.lt
    have hall := hown.addFunctions ha.lt (hpath.trans ha.path) module.2.functions
    rw [List.append_assoc, List.singleton_append] at hall
    rw [addModule_eq t hplace hdescend, if_pos hplace, if_pos hplace, List.map_singleton,
      List.filter_cons_of_pos hplace, List.filter_nil]
    exact hall
  · rw [CommandTree.addModule, if_neg hplace, if_neg hplace, if_neg hplace, List.map_singleton,
      List.filter_cons_of_neg hplace, List.filter_nil, List.append_nil, List.append_nil,
      List.append_nil]
    exact h

/-- **The tree of a list of modules holds what the list asks for.** -/
theorem reflects_ofModules (modules : List (ModulePath × ModuleInterface)) :
    (ofModules modules).Reflects (modules.flatMap waysOf) (placedOf modules)
      (commandExports modules) := by
  suffices hfold : ∀ {t : CommandTree} {ways placed exports}, t.Reflects ways placed exports →
      (modules.foldl CommandTree.addModule t).Reflects (ways ++ modules.flatMap waysOf)
        (placed ++ placedOf modules) (exports ++ commandExports modules) by
    rw [ofModules]
    simpa only [List.nil_append] using hfold reflects_empty
  induction modules with
  | nil =>
    intro t ways placed exports h
    simpa [placedOf, commandExports] using h
  | cons module rest ih =>
    intro t ways placed exports h
    have hrest := ih (h.addModule module)
    have hplaced : placedOf (module :: rest) = placedOf [module] ++ placedOf rest := by
      rw [placedOf, placedOf, placedOf, ← List.filter_append, ← List.map_append]
      rfl
    have hexports : commandExports (module :: rest) = exportsOf module ++ commandExports rest :=
      List.flatMap_cons
    rw [List.foldl_cons, List.flatMap_cons, hplaced, hexports, ← List.append_assoc,
      ← List.append_assoc, ← List.append_assoc]
    exact hrest

/-! ## Main results -/

/-- **Every tree that can be made is a tree indeed**, that of a list of modules among them: only
the root has no parent, parents come before their children, the children of a node are the nodes
below it in the order of their numbers, and no two of them have one token.  So the way up from
every node ends, the way down along its path leads back to it, and no two nodes have one path. -/
theorem shape_of_reachable :
    (∀ modules, (ofModules modules).Reachable) ∧
    ∀ t : CommandTree, t.Reachable →
      root < t.nodes.size ∧
      (∀ i, i < t.nodes.size → (t.parent? i = none ↔ i = root)) ∧
      (∀ i p, t.parent? i = some p → p < i) ∧
      (∀ p, (t.children p).Pairwise (· < ·) ∧ ∀ i, i ∈ t.children p ↔ t.parent? i = some p) ∧
      (∀ p, ∀ i ∈ t.children p, ∀ j ∈ t.children p, t.token? i = t.token? j → i = j) ∧
      (∀ i, i < t.nodes.size → t.Ascent i (t.path i) ∧ t.walk? root (t.path i) = some i) ∧
      ∀ i j, i < t.nodes.size → j < t.nodes.size → t.path i = t.path j → i = j := by
  refine ⟨fun modules => (reflects_ofModules modules).reachable, fun t ht => ?_⟩
  have h := ht.wellFormed
  refine ⟨h.nonempty, fun i hi => h.parent?_eq_none_iff hi, fun i p => h.lt_of_parent_eq,
    fun p => ⟨h.children_sorted p, h.mem_children p⟩, fun p i hi j hj => ?_,
    fun i hi => ⟨h.ascent_path hi, h.walk?_path hi⟩, fun i j hi hj => h.path_injective hi hj⟩
  exact h.token_inj p i j ((h.mem_children p i).1 hi) ((h.mem_children p j).1 hj)

/-- Two nodes below each other, the second of them found again. -/
theorem shape_of_reachable_twice :
    let t := (((empty.child root "db").1.child 1 "seed").1.child 1 "seed").1
    t.Reachable ∧ t.path 2 = ["db", "seed"] ∧ t.walk? root (t.path 2) = some 2 := by
  intro t
  have hdb : (empty.child root "db").1.Reachable := Reachable.empty.child (by decide) "db"
  have hseed : ((empty.child root "db").1.child 1 "seed").1.Reachable :=
    hdb.child (by decide) "seed"
  have ht : t.Reachable := hseed.child (by decide) "seed"
  obtain ⟨-, -, -, -, -, hwalk, -⟩ := shape_of_reachable.2 t ht
  exact ⟨ht, by decide +kernel, (hwalk 2 (by decide)).2⟩

/-- **What the tree of a list of modules holds.**  Its paths are the beginnings of the paths that
the modules and their commands ask for; a node has the last function bound to its path; the
collisions are the functions that took the place of another, in input order; and every function
is on a node or was replaced. -/
theorem ofModules_holds (modules : List (ModulePath × ModuleInterface)) :
    (∀ ts, (ofModules modules).HasPath ts ↔
      ts = [] ∨ (∃ m ∈ modules, isPlaceable m.1 = true ∧ ts <+: ownerTokens m.1)
        ∨ ∃ e ∈ commandExports modules, ts <+: e.path) ∧
    (∀ i, i < (ofModules modules).nodes.size →
      (ofModules modules).binding? i
        = lastBinding? (commandExports modules) ((ofModules modules).path i)) ∧
    (∀ c ∈ (ofModules modules).collisions, c.node < (ofModules modules).nodes.size) ∧
    (ofModules modules).collisions.map
        (fun c => ((ofModules modules).path c.node, c.replaced, c.kept))
      = takeovers (commandExports modules) ∧
    (commandExports modules).length
      = (ofModules modules).boundNodes.card + (ofModules modules).collisions.length := by
  have h := reflects_ofModules modules
  refine ⟨fun ts => ?_, h.binding?, h.collisions_lt, h.collisions, h.length⟩
  rw [h.hasPath, exists_way_iff]

-- a module and the index of the directory of the same name have one node
example :
    let bare : Signature := ⟨false, none, none, [], false⟩
    let t := ofModules [(.ofText "db.ts", ⟨true, [("default", bare)]⟩),
      (.ofText "db/index.ts", ⟨true, [("default", bare)]⟩),
      (.ofText "db/Tools.ts", ⟨false, [("seedAll", bare)]⟩)]
    (List.range t.nodes.size).map t.path =
        [[], ["db"], ["db", "tools"], ["db", "tools", "seed-all"]] ∧
      t.boundNodes = {1, 3} ∧ t.collisions = [⟨1, "db.ts#default", "db/index.ts#default"⟩] := by
  decide +kernel

end CommandTree
end CommandGrove
