import CommandGrove.Discovery
import CommandGrove.Proofs.Attempts
import CommandGrove.Proofs.Files.WellFormed

/-!
# The ways to modules

What is found below a directory are ways down: the names of the directories that are gone through
and, at the end, the name of a file that holds a module.  Whether the search gets to its end
depends on links; what it has found then does not depend on how it went.

## What is here

* `IsModuleWay` — the names lead down from a path to a module.
* `itemWays` — what is found for one name in a directory; `modulesBelow_succ`.
* `resolve_of_enter` — where a name in a directory leads.
* `mem_modulesBelow_iff`, `nodup_modulesBelow` — what is found are the ways to modules, each once.
* `exists_modulesBelow` — without links the search gets to its end.
* `modulesBelow_depthLimit` — with links it may fail, but never because of how deep it is.
-/

set_option autoImplicit false
namespace CommandGrove

open FileTree

/-! ## Ways -/

/-- The names lead down from the directory at a path to a file that holds a module, and nothing on
the way is left out. -/
structure IsModuleWay (files : FileTree) (skip : List Char → Bool) (path : List Char)
    (names : List (List Char)) : Prop where
  isItemName : ∀ name ∈ names, isItemName name = true
  isPublic : ∀ name ∈ names, isPrivateName (FileName.shown name) = false
  isEntered : ∀ name ∈ names.dropLast, skippedDirectories.contains (FileName.shown name) = false
  isModule : ∃ name, names.getLast? = some name ∧ isModuleFileName (FileName.shown name) = true
  isFile : files.isFile (descend path names) = true
  isKept : skip (descend path names) = false

section Ways

variable {files : FileTree} {skip : List Char → Bool} {path : List Char}

theorem IsModuleWay.ne_nil {names : List (List Char)} (h : IsModuleWay files skip path names) :
    names ≠ [] := by
  rintro rfl
  obtain ⟨name, hlast, -⟩ := h.isModule
  exact nomatch hlast

theorem isModuleWay_singleton_iff {name : List Char} :
    IsModuleWay files skip path [name] ↔ isItemName name = true ∧
      isPrivateName (FileName.shown name) = false ∧
      isModuleFileName (FileName.shown name) = true ∧ files.isFile (Path.join path name) = true ∧
      skip (Path.join path name) = false := by
  constructor
  · intro h
    obtain ⟨last, hlast, hmodule⟩ := h.isModule
    rw [← Option.some.inj hlast] at hmodule
    exact ⟨h.isItemName name List.mem_cons_self, h.isPublic name List.mem_cons_self, hmodule,
      h.isFile, h.isKept⟩
  · rintro ⟨hname, hpublic, hmodule, hfile, hkept⟩
    exact ⟨fun n hn => List.mem_singleton.1 hn ▸ hname, fun n hn => List.mem_singleton.1 hn ▸ hpublic,
      fun n hn => absurd hn List.not_mem_nil, ⟨name, rfl, hmodule⟩, hfile, hkept⟩

theorem isModuleWay_cons_iff {name : List Char} {rest : List (List Char)} (hrest : rest ≠ []) :
    IsModuleWay files skip path (name :: rest) ↔ isItemName name = true ∧
      isPrivateName (FileName.shown name) = false ∧
      skippedDirectories.contains (FileName.shown name) = false ∧
      IsModuleWay files skip (Path.join path name) rest := by
  have hlast : (name :: rest).getLast? = rest.getLast? := by
    obtain ⟨next, others, rfl⟩ := List.exists_cons_of_ne_nil hrest
    exact List.getLast?_cons_cons
  have hdrop : (name :: rest).dropLast = name :: rest.dropLast :=
    List.dropLast_cons_of_ne_nil hrest
  constructor
  · rintro ⟨hname, hpublic, hentered, hmodule, hfile, hkept⟩
    rw [hdrop] at hentered
    rw [hlast] at hmodule
    exact ⟨hname name List.mem_cons_self, hpublic name List.mem_cons_self,
      hentered name List.mem_cons_self, fun n hn => hname n (List.mem_cons_of_mem _ hn),
      fun n hn => hpublic n (List.mem_cons_of_mem _ hn),
      fun n hn => hentered n (List.mem_cons_of_mem _ hn), hmodule, hfile, hkept⟩
  · rintro ⟨hname, hpublic, hentered, hway⟩
    refine ⟨?_, ?_, ?_, hlast ▸ hway.isModule, hway.isFile, hway.isKept⟩
    · exact List.forall_mem_cons.2 ⟨hname, hway.isItemName⟩
    · exact List.forall_mem_cons.2 ⟨hpublic, hway.isPublic⟩
    · rw [hdrop]
      exact List.forall_mem_cons.2 ⟨hentered, hway.isEntered⟩

end Ways

/-! ## One name -/

/-- The ways that begin with one of the names in the first of the visited directories. -/
def itemWays (files : FileTree) (skip : List Char → Bool) (depth : Nat) (above : List Visit)
    (dir : Visit) (x : List Char × Item) : Except Error (List (List (List Char))) := do
  let (place, isDirectory) ← enter files (dir :: above) dir x.1 x.2
  let path := Path.join dir.path x.1
  let text := FileName.shown x.1
  if isPrivateName text then return []
  if isDirectory then
    if skippedDirectories.contains text then return []
    let below ← modulesBelow files skip depth (dir :: above) ⟨place, path⟩
    return below.map (x.1 :: ·)
  if isModuleFileName text && !skip path then return [[x.1]]
  return []

theorem modulesBelow_succ (files : FileTree) (skip : List Char → Bool) (depth : Nat)
    (above : List Visit) (dir : Visit) :
    modulesBelow files skip (depth + 1) above dir = do
      let found ← ((files.children dir.place).mergeSort nameLE).mapM
        (itemWays files skip depth above dir)
      return found.flatten := by
  rfl

/-! ## Where a name leads -/

/-- The path of a visit leads to the directory where it is. -/
structure Visit.IsAt (files : FileTree) (dir : Visit) : Prop where
  ne_nil : dir.path ≠ []
  resolve : files.resolve .follow dir.path = .ok dir.place
  isDirectory : files.item? dir.place = some .directory

section Visit

variable {files : FileTree} {skip : List Char → Bool} {dir : Visit}

/-- **A name leads** to the item that has it, or to what the item is a link to. -/
theorem resolve_of_enter (h : files.WellFormed) (hdir : dir.IsAt files) {visits : List Visit}
    {name : List Char} {item : Item} (hitem : files.item? (dir.place ++ [name]) = some item)
    {place : Location} {isDirectory : Bool}
    (henter : enter files visits dir name item = .ok (place, isDirectory)) :
    files.resolve .follow (Path.join dir.path name) = .ok place ∧
      (isDirectory = true ↔ files.item? place = some .directory) := by
  have hname := h.isItemName_of_item? hitem
  have hrelative := Path.isAbsolute_of_notMem (slash_notMem_of_isItemName hname)
  have hdown (hlink : item.isLink = false) :
      files.resolve .follow (Path.join dir.path name) = .ok (dir.place ++ [name]) := by
    obtain ⟨left, hleft⟩ := resolve_eq_ok_iff.1 hdir.resolve
    refine resolve_eq_ok_iff.2
      ⟨left, (resolves_join_iff hdir.ne_nil hrelative).2 ⟨left, _, hleft, ?_⟩⟩
    rw [split_of_isItemName hname]
    exact walks_name hdir.isDirectory hname hitem hlink
  cases item with
  | file content =>
    obtain ⟨rfl, rfl⟩ := Prod.mk.inj (Except.ok.inj henter)
    exact ⟨hdown rfl, by simp [hitem]⟩
  | directory =>
    obtain ⟨rfl, rfl⟩ := Prod.mk.inj (Except.ok.inj henter)
    exact ⟨hdown rfl, by simp [hitem]⟩
  | link target =>
    rw [enter] at henter
    split at henter
    · exact nomatch henter
    · next goal hgoal =>
      split at henter
      · next hgoalDir =>
        split at henter
        · exact nomatch henter
        · obtain ⟨rfl, rfl⟩ := Prod.mk.inj (Except.ok.inj henter)
          exact ⟨hgoal, by simp [hgoalDir]⟩
      · next hgoalDir =>
        obtain ⟨rfl, rfl⟩ := Prod.mk.inj (Except.ok.inj henter)
        exact ⟨hgoal, by simp [hgoalDir]⟩

/-- What a way leads to is there from its first name on. -/
theorem resolve_of_isFile_descend {path name : List Char} {rest : List (List Char)}
    (hpath : path ≠ []) (hnames : ∀ n ∈ name :: rest, isItemName n = true)
    (hfile : files.isFile (descend path (name :: rest)) = true) :
    ∃ place, files.resolve .follow (Path.join path name) = .ok place ∧
      (rest ≠ [] → files.item? place = some .directory) := by
  obtain ⟨goal, content, hgoal, -⟩ := isFile_iff.1 hfile
  obtain ⟨left, hleft⟩ := resolve_eq_ok_iff.1 hgoal
  obtain ⟨hname, hrest⟩ := List.forall_mem_cons.1 hnames
  obtain ⟨k, place, hplace, hwalks⟩ := (resolves_descend_iff (join_ne_nil hpath) hrest).1 hleft
  refine ⟨place, resolve_eq_ok_iff.2 ⟨k, hplace⟩, fun hne => ?_⟩
  obtain ⟨next, others, rfl⟩ := List.exists_cons_of_ne_nil hne
  exact hwalks.item?_place

/-- A name that leads somewhere is the one of an item. -/
theorem exists_item_of_resolve_join (hdir : dir.IsAt files) {name : List Char}
    (hname : isItemName name = true) {place : Location}
    (hplace : files.resolve .follow (Path.join dir.path name) = .ok place) :
    ∃ item, files.item? (dir.place ++ [name]) = some item := by
  have hrelative := Path.isAbsolute_of_notMem (slash_notMem_of_isItemName hname)
  obtain ⟨left, hleft⟩ := resolve_eq_ok_iff.1 hplace
  obtain ⟨k, mid, hmid, hwalks⟩ := (resolves_join_iff hdir.ne_nil hrelative).1 hleft
  have hsame := hdir.resolve.symm.trans (resolve_eq_ok_iff.2 ⟨k, hmid⟩)
  rw [← Except.ok.inj hsame, split_of_isItemName hname] at hwalks
  cases hwalks with
  | void _ hpiece => exact nomatch hpiece.symm.trans (component?_of_isItemName hname)
  | up _ hpiece => exact nomatch hpiece.symm.trans (component?_of_isItemName hname)
  | item _ _ _ hitem => exact ⟨_, hitem⟩
  | link _ _ _ hitem => exact ⟨_, hitem⟩

/-- A name that does not lead to a directory leads to a file. -/
theorem isFile_of_enter (h : files.WellFormed) (hdir : dir.IsAt files) {visits : List Visit}
    {name : List Char} {item : Item} (hitem : files.item? (dir.place ++ [name]) = some item)
    {place : Location} (henter : enter files visits dir name item = .ok (place, false)) :
    files.isFile (Path.join dir.path name) = true := by
  obtain ⟨hplace, hiff⟩ := resolve_of_enter h hdir hitem henter
  obtain ⟨left, hleft⟩ := resolve_eq_ok_iff.1 hplace
  rcases hleft.exists_item h with hplaceDir | ⟨content, hcontent⟩
  · exact nomatch hiff.2 hplaceDir
  · exact isFile_iff.2 ⟨place, content, hplace, hcontent⟩

/-- The first name of a way leads to a directory just if the way goes on. -/
theorem isDirectory_iff_of_isModuleWay (h : files.WellFormed) (hdir : dir.IsAt files)
    {visits : List Visit} {name : List Char} {item : Item}
    (hitem : files.item? (dir.place ++ [name]) = some item) {place : Location}
    {isDirectory : Bool} (henter : enter files visits dir name item = .ok (place, isDirectory))
    {rest : List (List Char)} (hway : IsModuleWay files skip dir.path (name :: rest)) :
    isDirectory = true ↔ rest ≠ [] := by
  obtain ⟨hplace, hiff⟩ := resolve_of_enter h hdir hitem henter
  rw [hiff]
  constructor
  · rintro hplaceDir rfl
    obtain ⟨place', content, hplace', hcontent⟩ := isFile_iff.1 hway.isFile
    rw [← Except.ok.inj (hplace.symm.trans hplace'), hplaceDir] at hcontent
    exact nomatch hcontent
  · intro hne
    obtain ⟨place', hplace', hplaceDir⟩ :=
      resolve_of_isFile_descend hdir.ne_nil hway.isItemName hway.isFile
    rw [Except.ok.inj (hplace.symm.trans hplace')]
    exact hplaceDir hne

/-! ## What is found -/

/-- How the search goes on with a name: it is left out, its directory is gone through, or it is the
one of a module or of nothing. -/
theorem itemWays_eq_ok {above : List Visit} {depth : Nat} {x : List Char × Item}
    {ways : List (List (List Char))} (h : itemWays files skip depth above dir x = .ok ways) :
    ∃ place isDirectory, enter files (dir :: above) dir x.1 x.2 = .ok (place, isDirectory) ∧
      ((isPrivateName (FileName.shown x.1) = true ∧ ways = []) ∨
        (isPrivateName (FileName.shown x.1) = false ∧ isDirectory = true ∧
          skippedDirectories.contains (FileName.shown x.1) = true ∧ ways = []) ∨
        (isPrivateName (FileName.shown x.1) = false ∧ isDirectory = true ∧
          skippedDirectories.contains (FileName.shown x.1) = false ∧
          ∃ below, modulesBelow files skip depth (dir :: above) ⟨place, Path.join dir.path x.1⟩ =
            .ok below ∧ ways = below.map (x.1 :: ·)) ∨
        (isPrivateName (FileName.shown x.1) = false ∧ isDirectory = false ∧
          ways = if isModuleFileName (FileName.shown x.1) && !skip (Path.join dir.path x.1)
            then [[x.1]] else [])) := by
  obtain ⟨⟨place, isDirectory⟩, henter, hrest⟩ := Attempt.bind_eq_ok_iff.1 h
  refine ⟨place, isDirectory, henter, ?_⟩
  cases hprivate : isPrivateName (FileName.shown x.1) with
  | true =>
    simp only [hprivate, if_true] at hrest
    exact Or.inl ⟨rfl, (Except.ok.inj hrest).symm⟩
  | false =>
    cases isDirectory with
    | false =>
      simp only [hprivate, Bool.false_eq_true, if_false] at hrest
      refine Or.inr (Or.inr (Or.inr ⟨rfl, rfl, ?_⟩))
      split at hrest
      · next hkept => rw [if_pos hkept, Except.ok.inj hrest]
      · next hkept => rw [if_neg hkept, Except.ok.inj hrest]
    | true =>
      cases hskipped : skippedDirectories.contains (FileName.shown x.1) with
      | true =>
        simp only [hprivate, hskipped, Bool.false_eq_true, if_false, if_true] at hrest
        exact Or.inr (Or.inl ⟨rfl, rfl, rfl, (Except.ok.inj hrest).symm⟩)
      | false =>
        simp only [hprivate, hskipped, Bool.false_eq_true, if_false, if_true] at hrest
        obtain ⟨below, hbelow, hways⟩ := Attempt.bind_eq_ok_iff.1 hrest
        exact Or.inr (Or.inr (Or.inl ⟨rfl, rfl, rfl, below, hbelow, (Except.ok.inj hways).symm⟩))

/-- **The ways that are found for a name** are the ways to modules that begin with it, if the same
holds one directory further down. -/
theorem mem_itemWays_iff (h : files.WellFormed) (hdir : dir.IsAt files) {depth : Nat}
    {above : List Visit} {x : List Char × Item}
    (hitem : files.item? (dir.place ++ [x.1]) = some x.2)
    (hbelow : ∀ sub : Visit, sub.IsAt files → ∀ found,
      modulesBelow files skip depth (dir :: above) sub = .ok found →
        ∀ names, names ∈ found ↔ IsModuleWay files skip sub.path names)
    {ways : List (List (List Char))} (hways : itemWays files skip depth above dir x = .ok ways)
    (names : List (List Char)) :
    names ∈ ways ↔ ∃ rest, names = x.1 :: rest ∧ IsModuleWay files skip dir.path names := by
  have hname := h.isItemName_of_item? hitem
  obtain ⟨place, isDirectory, henter, hcases⟩ := itemWays_eq_ok hways
  have hiff {rest : List (List Char)} (hway : IsModuleWay files skip dir.path (x.1 :: rest)) :
      isDirectory = true ↔ rest ≠ [] :=
    isDirectory_iff_of_isModuleWay h hdir hitem henter hway
  rcases hcases with ⟨hprivate, rfl⟩ | ⟨-, rfl, hskipped, rfl⟩ |
    ⟨hpublic, rfl, hentered, below, hfound, rfl⟩ | ⟨hpublic, rfl, rfl⟩
  · refine iff_of_false List.not_mem_nil ?_
    rintro ⟨rest, rfl, hway⟩
    exact nomatch hprivate.symm.trans (hway.isPublic x.1 List.mem_cons_self)
  · refine iff_of_false List.not_mem_nil ?_
    rintro ⟨rest, rfl, hway⟩
    have hentered := ((isModuleWay_cons_iff ((hiff hway).1 rfl)).1 hway).2.2.1
    exact nomatch hskipped.symm.trans hentered
  · obtain ⟨hplace, hplaceDir⟩ := resolve_of_enter h hdir hitem henter
    have hsub := hbelow ⟨place, _⟩ ⟨join_ne_nil hdir.ne_nil, hplace, hplaceDir.1 rfl⟩ below hfound
    rw [List.mem_map]
    constructor
    · rintro ⟨rest, hrest, rfl⟩
      have hway := (hsub rest).1 hrest
      exact ⟨rest, rfl, (isModuleWay_cons_iff hway.ne_nil).2 ⟨hname, hpublic, hentered, hway⟩⟩
    · rintro ⟨rest, rfl, hway⟩
      have hrest := ((isModuleWay_cons_iff ((hiff hway).1 rfl)).1 hway).2.2.2
      exact ⟨rest, (hsub rest).2 hrest, rfl⟩
  · have hmem : names ∈ (if isModuleFileName (FileName.shown x.1) && !skip (Path.join dir.path x.1)
        then [[x.1]] else []) ↔ names = [x.1] ∧ isModuleFileName (FileName.shown x.1) = true ∧
          skip (Path.join dir.path x.1) = false := by
      simp [← and_assoc, and_comm]
    rw [hmem]
    constructor
    · rintro ⟨rfl, hmodule, hkept⟩
      have hfile := isFile_of_enter h hdir hitem henter
      exact ⟨[], rfl, isModuleWay_singleton_iff.2 ⟨hname, hpublic, hmodule, hfile, hkept⟩⟩
    · rintro ⟨rest, rfl, hway⟩
      have hrest : rest = [] := Decidable.not_not.1 fun hne => nomatch (hiff hway).2 hne
      subst hrest
      obtain ⟨-, -, hmodule, -, hkept⟩ := isModuleWay_singleton_iff.1 hway
      exact ⟨rfl, hmodule, hkept⟩

/-- The names in a directory, as they are gone through. -/
theorem mem_sorted_children_iff (h : files.WellFormed) {place : Location} {x : List Char × Item} :
    x ∈ (files.children place).mergeSort nameLE ↔ files.item? (place ++ [x.1]) = some x.2 :=
  (List.mergeSort_perm _ _).mem_iff.trans (WellFormed.mem_children_iff h)

/-- **What is found are the ways to modules**, whatever links were followed. -/
theorem mem_modulesBelow_iff (h : files.WellFormed) (hdir : dir.IsAt files) {depth : Nat}
    {above : List Visit} {found : List (List (List Char))}
    (hfound : modulesBelow files skip depth above dir = .ok found) (names : List (List Char)) :
    names ∈ found ↔ IsModuleWay files skip dir.path names := by
  induction depth generalizing above dir found names with
  | zero => exact nomatch hfound
  | succ depth ih =>
    rw [modulesBelow_succ, Attempt.bind_eq_ok_iff] at hfound
    obtain ⟨lists, hlists, hflatten⟩ := hfound
    rw [← Except.ok.inj hflatten, List.mem_flatten]
    have hbelow (sub : Visit) (hsub : sub.IsAt files) (found : List (List (List Char)))
        (hfound : modulesBelow files skip depth (dir :: above) sub = .ok found) :=
      ih hsub hfound
    constructor
    · rintro ⟨ways, hways, hmem⟩
      obtain ⟨x, hx, hstep⟩ := Attempt.exists_of_mem_result hlists hways
      have hitem := (mem_sorted_children_iff h).1 hx
      obtain ⟨rest, -, hway⟩ := (mem_itemWays_iff h hdir hitem hbelow hstep names).1 hmem
      exact hway
    · intro hway
      obtain ⟨name, rest, rfl⟩ := List.exists_cons_of_ne_nil hway.ne_nil
      obtain ⟨place, hplace, -⟩ :=
        resolve_of_isFile_descend hdir.ne_nil hway.isItemName hway.isFile
      obtain ⟨item, hitem⟩ :=
        exists_item_of_resolve_join hdir (hway.isItemName name List.mem_cons_self) hplace
      obtain ⟨ways, hways, hstep⟩ := Attempt.exists_of_mem_steps hlists
        ((mem_sorted_children_iff h (x := (name, item))).2 hitem)
      exact ⟨ways, hways, (mem_itemWays_iff h hdir hitem hbelow hstep _).2 ⟨rest, rfl, hway⟩⟩

/-- What is found for a name begins with it. -/
theorem exists_cons_of_mem_itemWays {above : List Visit} {depth : Nat} {x : List Char × Item}
    {ways : List (List (List Char))} (hways : itemWays files skip depth above dir x = .ok ways)
    {names : List (List Char)} (hnames : names ∈ ways) : ∃ rest, names = x.1 :: rest := by
  obtain ⟨place, isDirectory, -, ⟨-, rfl⟩ | ⟨-, -, -, rfl⟩ | ⟨-, -, -, below, -, rfl⟩ | ⟨-, -, rfl⟩⟩ :=
    itemWays_eq_ok hways
  · exact absurd hnames List.not_mem_nil
  · exact absurd hnames List.not_mem_nil
  · obtain ⟨rest, -, rfl⟩ := List.mem_map.1 hnames
    exact ⟨rest, rfl⟩
  · split at hnames
    · exact ⟨[], List.mem_singleton.1 hnames⟩
    · exact absurd hnames List.not_mem_nil

/-- **No way is found twice.** -/
theorem nodup_modulesBelow (h : files.WellFormed) {depth : Nat} {above : List Visit}
    {found : List (List (List Char))}
    (hfound : modulesBelow files skip depth above dir = .ok found) : found.Nodup := by
  induction depth generalizing above dir found with
  | zero => exact nomatch hfound
  | succ depth ih =>
    rw [modulesBelow_succ, Attempt.bind_eq_ok_iff] at hfound
    obtain ⟨lists, hlists, hflatten⟩ := hfound
    rw [← Except.ok.inj hflatten, List.nodup_flatten]
    constructor
    · intro ways hways
      obtain ⟨x, -, hstep⟩ := Attempt.exists_of_mem_result hlists hways
      obtain ⟨place, isDirectory, -,
        ⟨-, rfl⟩ | ⟨-, -, -, rfl⟩ | ⟨-, -, -, below, hbelow, rfl⟩ | ⟨-, -, rfl⟩⟩ :=
        itemWays_eq_ok hstep
      · exact List.nodup_nil
      · exact List.nodup_nil
      · exact (ih hbelow).map fun _ _ heq => (List.cons.inj heq).2
      · split
        · exact List.nodup_singleton _
        · exact List.nodup_nil
    · -- the names in a directory differ, so what begins with them does
      have hnames : ((files.children dir.place).mergeSort nameLE).Pairwise (·.1 ≠ ·.1) :=
        List.pairwise_map.1 (((List.mergeSort_perm _ _).map _).nodup_iff.2 (h.nodup_children _))
      refine Attempt.pairwise_results hlists hnames fun x x' ways ways' hne hways hways' => ?_
      intro names hmem hmem'
      obtain ⟨rest, rfl⟩ := exists_cons_of_mem_itemWays hways hmem
      obtain ⟨rest', heq⟩ := exists_cons_of_mem_itemWays hways' hmem'
      exact hne (List.cons.inj heq).1

/-! ## Getting to the end -/

/-- The search fails for a name only where it goes on. -/
theorem exists_itemWays {above : List Visit} {depth : Nat} {x : List Char × Item}
    {place : Location} {isDirectory : Bool}
    (henter : enter files (dir :: above) dir x.1 x.2 = .ok (place, isDirectory))
    (hbelow : isDirectory = true → ∃ below,
      modulesBelow files skip depth (dir :: above) ⟨place, Path.join dir.path x.1⟩ = .ok below) :
    ∃ ways, itemWays files skip depth above dir x = .ok ways := by
  simp only [itemWays, henter, bind, Except.bind]
  split
  · exact ⟨[], rfl⟩
  · split
    · next hdirectory =>
      split
      · exact ⟨[], rfl⟩
      · obtain ⟨below, hok⟩ := hbelow hdirectory
        rw [hok]
        exact ⟨_, rfl⟩
    · split
      · exact ⟨[[x.1]], rfl⟩
      · exact ⟨[], rfl⟩

/-- **Without links the search gets to its end**: it never goes deeper than there are items. -/
theorem exists_modulesBelow (h : files.WellFormed) (hdir : dir.IsAt files)
    (hfree : files.IsLinkFree dir.place) {depth : Nat} {above : List Visit}
    (hdepth : files.items.length < depth + dir.place.length) :
    ∃ found, modulesBelow files skip depth above dir = .ok found := by
  induction depth generalizing above dir with
  | zero =>
    have hlength := h.length_le_of_item? hdir.isDirectory
    omega
  | succ depth ih =>
    rw [modulesBelow_succ]
    suffices hsteps : ∃ lists, ((files.children dir.place).mergeSort nameLE).mapM
        (itemWays files skip depth above dir) = .ok lists by
      obtain ⟨lists, hlists⟩ := hsteps
      exact ⟨lists.flatten, Attempt.bind_eq_ok_iff.2 ⟨lists, hlists, rfl⟩⟩
    refine Attempt.exists_mapM_eq_ok_iff.2 fun x hx => ?_
    have hitem := (mem_sorted_children_iff h).1 hx
    cases hkind : x.2 with
    | file content =>
      have henter : enter files (dir :: above) dir x.1 x.2 = .ok (dir.place ++ [x.1], false) := by
        rw [hkind]
        rfl
      exact exists_itemWays henter fun heq => nomatch heq
    | directory =>
      have henter : enter files (dir :: above) dir x.1 x.2 = .ok (dir.place ++ [x.1], true) := by
        rw [hkind]
        rfl
      refine exists_itemWays henter fun _ => ?_
      obtain ⟨hplace, hplaceDir⟩ := resolve_of_enter h hdir hitem henter
      refine ih ⟨join_ne_nil hdir.ne_nil, hplace, hplaceDir.1 rfl⟩ (hfree.below x.1) ?_
      rw [List.length_append, List.length_singleton]
      omega
    | link target =>
      rw [hkind] at hitem
      exact nomatch hfree.isLink_eq_false (List.cons_ne_nil _ _) hitem

/-! ## How deep the search goes -/

/-- The search can go on from a directory for this depth: every link that is still followed leads to
another way down, and no way down without links is longer than there are items. -/
def Visit.Fits (files : FileTree) (dir : Visit) (depth : Nat) : Prop :=
  ∀ left, files.Resolves dir.path left dir.place →
    left * (files.items.length + 1) + files.items.length < depth + dir.place.length

theorem Visit.Fits.pos (h : files.WellFormed) (hdir : dir.IsAt files) {depth : Nat}
    (hfits : dir.Fits files depth) : 0 < depth := by
  obtain ⟨left, hleft⟩ := resolve_eq_ok_iff.1 hdir.resolve
  have hbound := hfits left hleft
  have hlength := h.length_le_of_item? hdir.isDirectory
  omega

/-- What is below a directory fits, with one step less. -/
theorem Visit.Fits.below (h : files.WellFormed) (hdir : dir.IsAt files) {depth : Nat}
    (hfits : dir.Fits files (depth + 1)) {name : List Char} (hname : isItemName name = true)
    (place : Location) : Visit.Fits files ⟨place, Path.join dir.path name⟩ depth := by
  intro left hleft
  have hrelative := Path.isAbsolute_of_notMem (slash_notMem_of_isItemName hname)
  obtain ⟨k, mid, hmid, hwalks⟩ := (resolves_join_iff hdir.ne_nil hrelative).1 hleft
  obtain rfl := Except.ok.inj (hdir.resolve.symm.trans (resolve_eq_ok_iff.2 ⟨k, hmid⟩))
  have hbound := hfits k hmid
  rw [split_of_isItemName hname] at hwalks
  cases hwalks with
  | void _ hpiece => exact nomatch hpiece.symm.trans (component?_of_isItemName hname)
  | up _ hpiece => exact nomatch hpiece.symm.trans (component?_of_isItemName hname)
  | item _ _ _ _ _ hrest =>
    -- one name further down, with the same links
    cases hrest
    change _ < depth + (dir.place ++ [name]).length
    rw [List.length_append, List.length_singleton]
    omega
  | @link links _ _ _ _ _ target _ _ _ _ hrest =>
    -- a link less, so the way down can be as long as any
    have hlength := h.length_le_of_item? hdir.isDirectory
    have hlinks := Nat.mul_le_mul_right (files.items.length + 1) hrest.left_le
    rw [Nat.succ_mul] at hbound
    dsimp only
    omega

/-- The depth makes no difference where the search can go on for it. -/
theorem modulesBelow_congr_depth (h : files.WellFormed) (hdir : dir.IsAt files)
    {above : List Visit} {depth depth' : Nat} (hfits : dir.Fits files depth)
    (hfits' : dir.Fits files depth') :
    modulesBelow files skip depth above dir = modulesBelow files skip depth' above dir := by
  induction depth generalizing above dir depth' with
  | zero => exact absurd (hfits.pos h hdir) (Nat.lt_irrefl 0)
  | succ depth ih =>
    cases depth' with
    | zero => exact absurd (hfits'.pos h hdir) (Nat.lt_irrefl 0)
    | succ depth' =>
      rw [modulesBelow_succ, modulesBelow_succ]
      refine congrArg (· >>= _) (Attempt.mapM_congr fun x hx => ?_)
      have hitem := (mem_sorted_children_iff h).1 hx
      have hname := h.isItemName_of_item? hitem
      cases henter : enter files (dir :: above) dir x.1 x.2 with
      | error e => simp only [itemWays, henter, bind, Except.bind]
      | ok reached =>
        obtain ⟨place, isDirectory⟩ := reached
        cases isDirectory with
        | false => simp only [itemWays, henter, bind, Except.bind, Bool.false_eq_true, if_false]
        | true =>
          obtain ⟨hplace, hplaceDir⟩ := resolve_of_enter h hdir hitem henter
          have hbelow :
              modulesBelow files skip depth (dir :: above) ⟨place, Path.join dir.path x.1⟩ =
                modulesBelow files skip depth' (dir :: above) ⟨place, Path.join dir.path x.1⟩ :=
            ih ⟨join_ne_nil hdir.ne_nil, hplace, hplaceDir.1 rfl⟩
              (hfits.below h hdir hname place) (hfits'.below h hdir hname place)
          simp only [itemWays, henter, bind, Except.bind, hbelow]

/-- **The depth limit is never reached**: whatever links there are, the search ends in the same way
with a larger one. -/
theorem modulesBelow_depthLimit (h : files.WellFormed) (hdir : dir.IsAt files)
    {above : List Visit} {depth : Nat} (hdepth : depthLimit files ≤ depth) :
    modulesBelow files skip depth above dir =
      modulesBelow files skip (depthLimit files) above dir := by
  have hfits (depth : Nat) (hdepth : depthLimit files ≤ depth) : dir.Fits files depth := by
    intro left hleft
    have hlinks := Nat.mul_le_mul_right (files.items.length + 1) hleft.walks.left_le
    rw [depthLimit, Nat.succ_mul] at hdepth
    omega
  exact modulesBelow_congr_depth h hdir (hfits depth hdepth) (hfits _ (Nat.le_refl _))

end Visit

end CommandGrove
