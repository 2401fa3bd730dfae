import CommandGrove.Proofs.CommandTree.WellFormed
import CommandGrove.Proofs.Plan.Identifiers

/-!
# The scope of a plan

A plan names its commands and its imports, and its commands and actions refer to those names.  The
plan for a tree has one command for each node, in the order of the nodes, so what a command refers
to stands before it; and it has one import for each module that a function comes from.

## What is here

* `mem_boundModules`, `pairwise_boundModules` — which modules are imported, and in which order.
* `Plan.commands_ofTree`, `planAction_eq_some` — the command for a node, and what it does.
* `Plan.WellScoped` — every name of a plan is an identifier, is given once, and is given before it
  is used, and everything in the plan is what the tree says.
* `Plan.wellScoped_ofTree` — the main result.
-/

set_option autoImplicit false
namespace CommandGrove

/-! ## The modules that are imported -/

theorem mem_insertModule {m x : ModulePath} {modules : List ModulePath} :
    x ∈ insertModule m modules ↔ x = m ∨ x ∈ modules := by
  fun_induction insertModule m modules with
  | case1 => simp
  | case2 rest => simp
  | case3 first rest => simp
  | case4 first rest _ _ ih => rw [List.mem_cons, ih, List.mem_cons, or_left_comm]

/-- Two modules differ in their paths, so one of them comes first. -/
theorem ModulePath.lt_of_not_lt {m x : ModulePath} (hne : m ≠ x) (hlt : ¬ m.text < x.text) :
    x.text < m.text := by
  by_contra hle
  refine hne ?_
  obtain ⟨text, _⟩ := m
  obtain ⟨text', _⟩ := x
  obtain rfl : text = text' := String.le_antisymm hle hlt
  rfl

theorem pairwise_insertModule {m : ModulePath} {modules : List ModulePath}
    (h : modules.Pairwise fun a b => a.text < b.text) :
    (insertModule m modules).Pairwise fun a b => a.text < b.text := by
  fun_induction insertModule m modules with
  | case1 => exact List.pairwise_singleton _ _
  | case2 rest => exact h
  | case3 first rest _ hlt =>
    refine List.pairwise_cons.2 ⟨fun x hx => ?_, h⟩
    rcases List.mem_cons.1 hx with rfl | hx
    · exact hlt
    · exact String.lt_trans hlt ((List.pairwise_cons.1 h).1 x hx)
  | case4 first rest hne hlt ih =>
    obtain ⟨hfirst, hrest⟩ := List.pairwise_cons.1 h
    refine List.pairwise_cons.2 ⟨fun x hx => ?_, ih hrest⟩
    rcases mem_insertModule.1 hx with rfl | hx
    · exact ModulePath.lt_of_not_lt hne hlt
    · exact hfirst x hx

/-- The modules that are imported stand in the order of their paths, each one once. -/
theorem pairwise_boundModules (t : CommandTree) :
    (boundModules t).Pairwise fun a b => a.text < b.text := by
  rw [boundModules]
  generalize t.nodes.toList.filterMap _ = modules
  induction modules with
  | nil => exact List.Pairwise.nil
  | cons m rest ih => exact pairwise_insertModule ih

/-- The modules that are imported are those that the functions of the nodes come from. -/
theorem mem_boundModules {t : CommandTree} {m : ModulePath} :
    m ∈ boundModules t ↔ ∃ i b, t.binding? i = some b ∧ b.module = m := by
  have hfoldr (modules : List ModulePath) : m ∈ modules.foldr insertModule [] ↔ m ∈ modules := by
    induction modules with
    | nil => rfl
    | cons x rest ih => rw [List.foldr_cons, mem_insertModule, ih, List.mem_cons]
  rw [boundModules, hfoldr, List.mem_filterMap]
  constructor
  · rintro ⟨node, hnode, hmodule⟩
    obtain ⟨b, hb, rfl⟩ := Option.map_eq_some_iff.1 hmodule
    obtain ⟨i, hi⟩ := List.mem_iff_getElem?.1 hnode
    rw [Array.getElem?_toList] at hi
    exact ⟨i, b, by rw [CommandTree.binding?, hi]; exact hb, rfl⟩
  · rintro ⟨i, b, hb, rfl⟩
    obtain ⟨node, hnode, hb⟩ := Option.bind_eq_some_iff.1 hb
    rw [← Array.getElem?_toList] at hnode
    exact ⟨node, List.mem_of_getElem? hnode, by rw [hb]; rfl⟩

/-! ## Names by place -/

/-- Names that tell the place they stand at differ. -/
theorem nodup_map_zipIdx {α β : Type} {f : α × Nat → β} (hf : ∀ x y, f x = f y → x.2 = y.2)
    (xs : List α) : (xs.zipIdx.map f).Nodup := by
  have hplaces : (xs.zipIdx.map Prod.snd).Nodup := by
    rw [List.zipIdx_map_snd]
    exact List.nodup_range'
  rw [List.Nodup, List.pairwise_map] at hplaces ⊢
  exact hplaces.imp fun hne heq => hne (hf _ _ heq)

theorem map_module_importsFor (base : String) (modules : List ModulePath) :
    (importsFor base modules).map Import.module = modules := by
  rw [importsFor, List.map_map]
  exact List.zipIdx_map_fst 0 modules

theorem map_binding_importsFor (base : String) (modules : List ModulePath) :
    (importsFor base modules).map Import.binding
      = modules.zipIdx.map fun x => importBinding x.2 x.1 := by
  rw [importsFor, List.map_map]
  rfl

/-! ## Commands -/

/-- The command at a place is the one for the node with that number. -/
theorem Plan.commands_ofTree (name base : String) (t : CommandTree) (i : Nat) :
    (Plan.ofTree name base t).commands[i]?
      = t.nodes[i]?.map fun node => planCommand (importsFor base (boundModules t)) node i := by
  rw [Plan.ofTree, List.getElem?_map, List.getElem?_zipIdx, Array.getElem?_toList, Option.map_map,
    Nat.zero_add]
  rfl

theorem Plan.map_identifier_ofTree (name base : String) (t : CommandTree) :
    (Plan.ofTree name base t).commands.map Command.identifier
      = t.nodes.toList.zipIdx.map fun x => identifierFor x.2 := by
  rw [Plan.ofTree, List.map_map]
  rfl

/-- A function of an imported module is called by the name of that import. -/
theorem planAction_eq_some {imports : List Import} {b : Binding}
    (h : b.module ∈ imports.map Import.module) :
    ∃ x ∈ imports, x.module = b.module ∧
      ∃ a, planAction imports b = some a ∧ a.binding = x.binding ∧ a.name = b.name := by
  obtain ⟨y, hy, hmodule⟩ := List.mem_map.1 h
  have hsome : (imports.find? fun x => x.module == b.module).isSome :=
    List.find?_isSome.2 ⟨y, hy, beq_iff_eq.2 hmodule⟩
  obtain ⟨x, hx⟩ := Option.isSome_iff_exists.1 hsome
  have hsame : (x.module == b.module) = true := by simpa using List.find?_some hx
  refine ⟨x, List.mem_of_find?_eq_some hx, beq_iff_eq.1 hsame, ?_⟩
  rw [planAction, hx]
  exact ⟨_, rfl, rfl, rfl⟩

/-! ## Plans in scope -/

/-- Every name of the plan is an identifier, is given once, and is given before it is used; and
commands, imports and actions are those of the tree. -/
structure Plan.WellScoped (p : Plan) (t : CommandTree) : Prop where
  /-- There is a command for each node. -/
  length_commands : p.commands.length = t.nodes.size
  /-- They are in the order of the nodes. -/
  token : ∀ (i : Nat) (c : Command), p.commands[i]? = some c → t.token? i = some c.token
  root : ∃ c, p.commands[0]? = some c ∧ c.identifier = rootIdentifier ∧ c.parent = none
  /-- The parent of any other command stands before it. -/
  parent : ∀ (i : Nat) (c : Command), p.commands[i]? = some c → i ≠ 0 →
    ∃ j d, j < i ∧ t.parent? i = some j ∧ p.commands[j]? = some d ∧ c.parent = some d.identifier
  names_nodup : (p.commands.map Command.identifier ++ p.imports.map Import.binding).Nodup
  isIdentifier : ∀ name ∈ p.commands.map Command.identifier ++ p.imports.map Import.binding,
    isIdentifier name = true
  /-- No two commands share parent and token. -/
  siblings : ∀ (i j : Nat) (c d : Command), p.commands[i]? = some c → p.commands[j]? = some d →
    c.parent = d.parent → c.token = d.token → i = j
  imports_sorted : p.imports.Pairwise fun x y => x.module.text < y.module.text
  mem_imports : ∀ m, m ∈ p.imports.map Import.module ↔ ∃ i b, t.binding? i = some b ∧ b.module = m
  /-- A command does something exactly if its node has a function. -/
  action_eq_none : ∀ (i : Nat) (c : Command), p.commands[i]? = some c →
    (c.action = none ↔ t.binding? i = none)
  /-- It calls that function, of the import of the module that the function comes from. -/
  action : ∀ (i : Nat) (c : Command) (b : Binding), p.commands[i]? = some c → t.binding? i = some b →
    ∃ x ∈ p.imports, x.module = b.module ∧
      ∃ a, c.action = some a ∧ a.binding = x.binding ∧ a.name = b.name

section OfTree

variable {name base : String} {t : CommandTree}

/-- The command at a place is made from the node with that number. -/
theorem Plan.exists_node {i : Nat} {c : Command}
    (h : (Plan.ofTree name base t).commands[i]? = some c) :
    ∃ node, t.nodes[i]? = some node ∧ planCommand (importsFor base (boundModules t)) node i = c := by
  rw [Plan.commands_ofTree] at h
  exact Option.map_eq_some_iff.1 h

theorem Plan.token_of_command {i : Nat} {c : Command}
    (h : (Plan.ofTree name base t).commands[i]? = some c) : t.token? i = some c.token := by
  obtain ⟨node, hnode, rfl⟩ := exists_node h
  rw [CommandTree.token?, hnode]
  rfl

theorem Plan.parent_of_command {i : Nat} {c : Command}
    (h : (Plan.ofTree name base t).commands[i]? = some c) :
    c.parent = (t.parent? i).map identifierFor := by
  obtain ⟨node, hnode, rfl⟩ := exists_node h
  rw [CommandTree.parent?, hnode]
  rfl

theorem Plan.action_of_command {i : Nat} {c : Command}
    (h : (Plan.ofTree name base t).commands[i]? = some c) :
    c.action = (t.binding? i).bind (planAction (importsFor base (boundModules t))) := by
  obtain ⟨node, hnode, rfl⟩ := exists_node h
  rw [CommandTree.binding?, hnode]
  rfl

theorem Plan.imports_ofTree :
    (Plan.ofTree name base t).imports = importsFor base (boundModules t) := rfl

/-- The name of a command tells the number of its node. -/
theorem Plan.exists_command (name base : String) {i : Nat} (hi : i < t.nodes.size) :
    ∃ c, (Plan.ofTree name base t).commands[i]? = some c ∧ c.identifier = identifierFor i := by
  rw [Plan.commands_ofTree, Array.getElem?_eq_getElem hi]
  exact ⟨_, rfl, rfl⟩

/-- The command that another one is below stands before it. -/
theorem Plan.exists_parent (h : t.WellFormed) {i : Nat} {c : Command}
    (hc : (Plan.ofTree name base t).commands[i]? = some c) (hi : i ≠ 0) :
    ∃ j d, j < i ∧ t.parent? i = some j ∧ (Plan.ofTree name base t).commands[j]? = some d ∧
      c.parent = some d.identifier := by
  have hlt := CommandTree.lt_of_token (token_of_command hc)
  obtain ⟨j, hj, hji⟩ := h.parent_lt i hlt hi
  obtain ⟨d, hd, hidentifier⟩ := exists_command name base (Nat.lt_trans hji hlt)
  refine ⟨j, d, hji, hj, hd, ?_⟩
  rw [parent_of_command hc, hj, hidentifier]
  rfl

/-- A command is told by its parent and its token. -/
theorem Plan.eq_of_parent_of_token (h : t.WellFormed) {i j : Nat} {c d : Command}
    (hc : (Plan.ofTree name base t).commands[i]? = some c)
    (hd : (Plan.ofTree name base t).commands[j]? = some d)
    (hparent : c.parent = d.parent) (htoken : c.token = d.token) : i = j := by
  have hci := token_of_command hc
  have hdj := token_of_command hd
  rw [parent_of_command hc, parent_of_command hd] at hparent
  have hsame : t.parent? i = t.parent? j :=
    Option.map_injective (fun _ _ => identifierFor_inj) hparent
  cases hp : t.parent? i with
  | none =>
    -- Only the root has no parent.
    rw [hp] at hsame
    rw [(h.parent?_eq_none_iff (CommandTree.lt_of_token hci)).1 hp,
      (h.parent?_eq_none_iff (CommandTree.lt_of_token hdj)).1 hsame.symm]
  | some p =>
    refine h.token_inj p i j hp (hsame.symm.trans hp) ?_
    rw [hci, hdj, htoken]

theorem Plan.action_of_binding {i : Nat} {c : Command} {b : Binding}
    (h : (Plan.ofTree name base t).commands[i]? = some c) (hb : t.binding? i = some b) :
    ∃ x ∈ (Plan.ofTree name base t).imports, x.module = b.module ∧
      ∃ a, c.action = some a ∧ a.binding = x.binding ∧ a.name = b.name := by
  rw [action_of_command h, hb, Option.bind_some]
  refine planAction_eq_some ?_
  rw [imports_ofTree, map_module_importsFor]
  exact mem_boundModules.2 ⟨i, b, hb, rfl⟩

theorem Plan.names_nodup_ofTree :
    ((Plan.ofTree name base t).commands.map Command.identifier ++
      (Plan.ofTree name base t).imports.map Import.binding).Nodup := by
  rw [map_identifier_ofTree, imports_ofTree, map_binding_importsFor]
  refine List.nodup_append.2 ⟨nodup_map_zipIdx (fun x y => identifierFor_inj) _,
    nodup_map_zipIdx (fun x y => importBinding_inj) _, fun a ha b hb => ?_⟩
  obtain ⟨x, -, rfl⟩ := List.mem_map.1 ha
  obtain ⟨y, -, rfl⟩ := List.mem_map.1 hb
  exact identifierFor_ne_importBinding _ _ _

theorem Plan.isIdentifier_of_mem_names {s : String}
    (h : s ∈ (Plan.ofTree name base t).commands.map Command.identifier ++
      (Plan.ofTree name base t).imports.map Import.binding) : CommandGrove.isIdentifier s = true := by
  rw [map_identifier_ofTree, imports_ofTree, map_binding_importsFor] at h
  rcases List.mem_append.1 h with h | h
  · obtain ⟨x, -, rfl⟩ := List.mem_map.1 h
    exact isIdentifier_identifierFor _
  · obtain ⟨x, -, rfl⟩ := List.mem_map.1 h
    exact isIdentifier_importBinding _ _

/-- **The plan for a tree is well scoped**, whatever the name of the program, the directory of the
modules and the characters in their paths. -/
theorem Plan.wellScoped_ofTree (t : CommandTree) (h : t.Reachable) (name base : String) :
    (Plan.ofTree name base t).WellScoped t where
  length_commands := by
    rw [Plan.ofTree, List.length_map, List.length_zipIdx, Array.length_toList]
  token i c hc := token_of_command hc
  root := by
    obtain ⟨c, hc, hidentifier⟩ := exists_command name base h.wellFormed.nonempty
    refine ⟨c, hc, hidentifier, ?_⟩
    rw [parent_of_command hc, h.wellFormed.root_parent]
    rfl
  parent i c hc hi := exists_parent h.wellFormed hc hi
  names_nodup := names_nodup_ofTree
  isIdentifier _ := isIdentifier_of_mem_names
  siblings i j c d hc hd := eq_of_parent_of_token h.wellFormed hc hd
  imports_sorted := by
    have hsorted := pairwise_boundModules t
    rw [← map_module_importsFor base (boundModules t), List.pairwise_map] at hsorted
    exact hsorted
  mem_imports m := by
    rw [imports_ofTree, map_module_importsFor]
    exact mem_boundModules
  action_eq_none i c hc := by
    cases hb : t.binding? i with
    | none =>
      rw [action_of_command hc, hb]
      exact iff_of_true rfl rfl
    | some b =>
      obtain ⟨-, -, -, a, ha, -⟩ := action_of_binding hc hb
      rw [ha]
      exact iff_of_false (Option.some_ne_none a) (Option.some_ne_none b)
  action i c b hc hb := action_of_binding hc hb

end OfTree

/-- A node whose function comes from a module with characters beyond ASCII, below one without a
function. -/
theorem Plan.wellScoped_ofTree_of_two_nodes :
    ∃ t : CommandTree, t.Reachable ∧ (Plan.ofTree "tool" "/work" t).WellScoped t ∧
      (Plan.ofTree "tool" "/work" t).commands.map Command.identifier
        = ["program", "cmd_1", "cmd_2"] ∧
      (Plan.ofTree "tool" "/work" t).imports.map Import.binding = ["mod_0_2DPTSeedUsers"] := by
  let b : Binding := ⟨.ofText "2-dépôt/seed users.ts", "run", ⟨false, none, none, [], false⟩⟩
  let t := (((CommandTree.empty.child 0 "2-dépôt").1.child 1 "seed-users").1.bind 2 b)
  have h : t.Reachable := by
    refine .bind (.child (.child .empty (by decide) _) ?_ _) ?_ b
    · decide
    · decide
  exact ⟨t, h, wellScoped_ofTree t h "tool" "/work", by decide +kernel, by decide +kernel⟩

end CommandGrove
