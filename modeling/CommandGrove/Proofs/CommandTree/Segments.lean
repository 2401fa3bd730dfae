import CommandGrove.Proofs.CommandTree.OfModules

/-!
# Tokens that were checked and tokens that are placed

A module is checked by the tokens of its path, which leave out empty pieces, and placed by its
directories and its stem, which do not.  The two agree just where no piece is empty: a slash at
the front or at the end, or two next to each other, leave an empty token on the way to the module.

## What is here

* `ownerTokens_eq` — where a module stands, in terms of the pieces of its path.
* `ownerTokens_eq_pathTokens_iff` — when a module stands where it was checked.
* `WellFormed.forall_token_iff` — the tokens of the nodes are the tokens on the paths.
-/

set_option autoImplicit false
namespace CommandGrove

open Naming

/-! ## The pieces of a path -/

theorem stemPieces_ne_nil (module : ModulePath) : module.stemPieces ≠ [] := by
  rw [ModulePath.stemPieces, pieces, Ne, List.map_eq_nil_iff]
  exact Text.splitOn_ne_nil _ _

theorem token_empty : token "" = "" := rfl

theorem isCommand_empty : isCommand "" = false := rfl

/-- A module stands at the tokens for all pieces of its path but a final `index`. -/
theorem ownerTokens_eq (module : ModulePath) :
    ownerTokens module = (dropFinal indexStem module.stemPieces).map token := by
  obtain ⟨front, last, hpieces⟩ := (List.eq_nil_or_concat' module.stemPieces).resolve_left
    (stemPieces_ne_nil module)
  have hlast : module.stem = last := by rw [ModulePath.stem, hpieces]; simp
  rw [ownerTokens, ModulePath.isIndex, hlast, ModulePath.directories, hpieces, dropFinal,
    List.getLast?_concat, List.dropLast_concat]
  by_cases h : last = indexStem
  · simp [h]
  · simp [h]

theorem pathTokens_eq (module : ModulePath) :
    pathTokens module.text
      = (dropFinal indexStem (module.stemPieces.filter fun s => !s.isEmpty)).map token := rfl

/-- Dropping a final `index` drops no other piece. -/
theorem mem_dropFinal {last x : String} {parts : List String} (hx : x ∈ parts) (hne : x ≠ last) :
    x ∈ dropFinal last parts := by
  rw [dropFinal]
  split
  · next h =>
    obtain ⟨front, rfl⟩ := List.getLast?_eq_some_iff.1 (beq_iff_eq.1 h)
    rw [List.dropLast_concat]
    exact (List.mem_append.1 hx).resolve_right fun hl => hne (List.mem_singleton.1 hl)
  · exact hx

theorem length_dropFinal_le (last : String) (parts : List String) :
    (dropFinal last parts).length ≤ parts.length := by
  rw [dropFinal]
  split
  · rw [List.length_dropLast]
    exact Nat.sub_le _ _
  · exact Nat.le_refl _

/-- Empty pieces are missing among the tokens that are checked. -/
theorem length_dropFinal_filter_lt {parts : List String} (h : "" ∈ parts) :
    (dropFinal indexStem (parts.filter fun s => !s.isEmpty)).length
      < (dropFinal indexStem parts).length := by
  have hlt : ∀ {l : List String}, "" ∈ l → (l.filter fun s => !s.isEmpty).length < l.length :=
    fun hl => List.length_filter_lt_length_iff_exists.2 ⟨"", hl, by decide⟩
  by_cases hlast : parts.getLast? = some indexStem
  · obtain ⟨front, rfl⟩ := List.getLast?_eq_some_iff.1 hlast
    have hfront : "" ∈ front :=
      (List.mem_append.1 h).resolve_right fun hl => absurd (List.mem_singleton.1 hl) (by decide)
    rw [List.filter_append, List.filter_cons_of_pos (by decide), List.filter_nil, dropFinal,
      dropFinal, List.getLast?_concat, List.getLast?_concat, if_pos (beq_self_eq_true _),
      if_pos (beq_self_eq_true _), List.dropLast_concat, List.dropLast_concat]
    exact hlt hfront
  · have hkeep : dropFinal indexStem parts = parts := if_neg (mt beq_iff_eq.1 hlast)
    rw [hkeep]
    exact Nat.lt_of_le_of_lt (length_dropFinal_le _ _) (hlt h)

/-- **A module stands where it was checked just if no piece of its path is empty.** -/
theorem ownerTokens_eq_pathTokens_iff (module : ModulePath) :
    ownerTokens module = pathTokens module.text ↔ "" ∉ module.stemPieces := by
  rw [ownerTokens_eq, pathTokens_eq]
  constructor
  · intro h hempty
    have hlength := congrArg List.length h
    rw [List.length_map, List.length_map] at hlength
    exact Nat.ne_of_gt (length_dropFinal_filter_lt hempty) hlength
  · intro h
    have hall : module.stemPieces.filter (fun s => !s.isEmpty) = module.stemPieces := by
      rw [List.filter_eq_self]
      intro s hs
      rw [Bool.not_eq_true', String.isEmpty_eq_false_iff]
      rintro rfl
      exact h hs
    rw [hall]

/-- The tokens on the way to a module that was found sound can all name commands, just if no
piece of its path is empty. -/
theorem ownerTokens_isCommand_iff {module : ModulePath} (hplace : isPlaceable module = true) :
    (∀ tok ∈ ownerTokens module, isCommand tok = true) ↔ "" ∉ module.stemPieces := by
  constructor
  · intro h hempty
    have hmem : "" ∈ ownerTokens module := by
      rw [ownerTokens_eq, ← token_empty]
      exact List.mem_map_of_mem (mem_dropFinal hempty (by decide))
    exact Bool.false_ne_true (isCommand_empty.symm.trans (h "" hmem))
  · intro h
    rw [(ownerTokens_eq_pathTokens_iff module).2 h]
    exact List.all_eq_true.1 hplace

/-- The commands of a module end in tokens that can name commands. -/
theorem mem_path_of_mem_exportsOf {module : ModulePath × ModuleInterface} {e : CommandExport}
    (he : e ∈ exportsOf module) {tok : String} (htok : tok ∈ e.path) :
    (isPlaceable module.1 = true ∧ tok ∈ ownerTokens module.1) ∨ isCommand tok = true := by
  rw [exportsOf] at he
  split at he
  · next hplace =>
    obtain ⟨function, -, he⟩ := List.mem_filterMap.1 he
    obtain ⟨path, hpath, rfl⟩ := Option.map_eq_some_iff.1 he
    rw [exportPath?] at hpath
    split at hpath
    · rw [← Option.some_inj.1 hpath] at htok
      exact Or.inl ⟨hplace, htok⟩
    · split at hpath
      · next hcommand =>
        rw [← Option.some_inj.1 hpath] at htok
        rcases List.mem_append.1 htok with htok | htok
        · exact Or.inl ⟨hplace, htok⟩
        · rw [List.mem_singleton.1 htok]
          exact Or.inr hcommand
      · exact absurd hpath.symm (Option.some_ne_none path)
  · exact absurd he List.not_mem_nil

namespace CommandTree

/-! ## Tokens of a tree -/

/-- The tokens of the nodes below the root are the tokens on the paths. -/
theorem WellFormed.forall_token_iff {t : CommandTree} (h : t.WellFormed) {Q : String → Prop} :
    (∀ i tok, i ≠ root → t.token? i = some tok → Q tok)
      ↔ ∀ ts, t.HasPath ts → ∀ tok ∈ ts, Q tok := by
  constructor
  · rintro hall _ ⟨i, hi, rfl⟩
    refine h.induction (P := fun i => ∀ tok ∈ t.path i, Q tok) ?_ ?_ hi
    · rw [h.path_root]
      exact fun tok htok => absurd htok List.not_mem_nil
    · intro i p tok hp htok hup x hx
      rw [h.path_eq hp htok, List.mem_append, List.mem_singleton] at hx
      rcases hx with hx | rfl
      · exact hup x hx
      · refine hall i x ?_ htok
        rintro rfl
        exact Option.some_ne_none p (hp.symm.trans h.root_parent)
  · intro hall i tok hne htok
    obtain ⟨p, hp, -⟩ := h.parent_lt i (lt_of_token htok) hne
    refine hall (t.path i) ⟨i, lt_of_token htok, rfl⟩ tok ?_
    rw [h.path_eq hp htok]
    exact List.mem_concat_self

/-- A module that is placed has its node at the end of its tokens. -/
theorem Reflects.owner? {t : CommandTree} {ways : List (List String)} {placed : List ModulePath}
    {exports : List CommandExport} (h : t.Reflects ways placed exports) {module : ModulePath}
    (hm : module ∈ placed) :
    ∃ i, t.owner? module = some i ∧ t.path i = ownerTokens module := by
  have hmem : (module, ownerTokens module) ∈ t.owners.map fun o => (o.1, t.path o.2) := by
    rw [h.owners]
    exact List.mem_map_of_mem hm
  obtain ⟨o, ho, heq⟩ := List.mem_map.1 hmem
  have hsome : (t.owners.find? fun o => o.1 == module).isSome := by
    rw [List.find?_isSome]
    exact ⟨o, ho, beq_iff_eq.2 (congrArg Prod.fst heq)⟩
  obtain ⟨found, hfound⟩ := Option.isSome_iff_exists.1 hsome
  have hbeq := List.find?_some hfound
  have hfirst : found.1 = module := beq_iff_eq.1 hbeq
  have hentry : (found.1, t.path found.2) ∈ placed.map fun m => (m, ownerTokens m) := by
    rw [← h.owners]
    exact List.mem_map_of_mem (List.mem_of_find?_eq_some hfound)
  obtain ⟨m, -, hm⟩ := List.mem_map.1 hentry
  rw [Prod.mk.injEq] at hm
  refine ⟨found.2, by rw [CommandTree.owner?, hfound]; rfl, ?_⟩
  rw [← hm.2, hm.1, hfirst]

/-! ## Main results -/

/-- **When the tokens placed are those that were checked.**  All nodes of the tree of a list of
modules have tokens that can name commands just if no module that was found sound has an empty
piece in its path; and such a module stands at the tokens it was checked by just if it has none
itself. -/
theorem token_isCommand_iff (modules : List (ModulePath × ModuleInterface)) :
    ((∀ i tok, i ≠ root → (ofModules modules).token? i = some tok → isCommand tok = true)
      ↔ ∀ m ∈ modules, isPlaceable m.1 = true → "" ∉ m.1.stemPieces) ∧
    ∀ m ∈ modules, isPlaceable m.1 = true →
      ∃ i, (ofModules modules).owner? m.1 = some i ∧
        ((ofModules modules).path i = pathTokens m.1.text ↔ "" ∉ m.1.stemPieces) := by
  have h := reflects_ofModules modules
  constructor
  · rw [h.reachable.wellFormed.forall_token_iff]
    constructor
    · intro hall m hm hplace
      refine (ownerTokens_isCommand_iff hplace).1 (hall (ownerTokens m.1) ?_)
      exact (h.hasPath _).2
        (Or.inr (exists_way_iff.2 (Or.inl ⟨m, hm, hplace, List.prefix_rfl⟩)))
    · intro hclean ts hts tok htok
      have howner : ∀ m ∈ modules, isPlaceable m.1 = true → tok ∈ ownerTokens m.1 →
          isCommand tok = true := fun m hm hplace =>
        (ownerTokens_isCommand_iff hplace).2 (hclean m hm hplace) tok
      rw [h.hasPath, exists_way_iff] at hts
      rcases hts with rfl | ⟨m, hm, hplace, hf⟩ | ⟨e, he, hf⟩
      · exact absurd htok List.not_mem_nil
      · exact howner m hm hplace (hf.subset htok)
      · obtain ⟨m, hm, he⟩ := mem_commandExports.1 he
        rcases mem_path_of_mem_exportsOf he (hf.subset htok) with ⟨hplace, howned⟩ | hcommand
        · exact howner m hm hplace howned
        · exact hcommand
  · intro m hm hplace
    have hplaced : m.1 ∈ placedOf modules := List.mem_filter.2 ⟨List.mem_map_of_mem hm, hplace⟩
    obtain ⟨i, hi, hpath⟩ := h.owner? hplaced
    refine ⟨i, hi, ?_⟩
    rw [hpath]
    exact ownerTokens_eq_pathTokens_iff m.1

/-- Two slashes next to each other make a node that cannot be a command, on the way to a module
that was found sound. -/
theorem token_of_two_slashes :
    let module := ModulePath.ofText "tools\\/lint.ts"
    let t := ofModules [(module, .empty)]
    isPlaceable module = true ∧ t.token? 2 = some "" ∧ isCommand "" = false ∧
      t.owner? module = some 3 ∧ t.path 3 = ["tools", "", "lint"] ∧
      pathTokens module.text = ["tools", "lint"] := by
  decide +kernel

end CommandTree
end CommandGrove
