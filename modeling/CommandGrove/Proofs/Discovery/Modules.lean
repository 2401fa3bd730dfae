import CommandGrove.Proofs.Discovery.Ways
import CommandGrove.Proofs.Files.Names

/-!
# The modules that are found

The modules below a directory are told by the ways to them, each written with slashes.  In a tree
without links they are told by what is stored below the directory, and if all names there are texts
without backslashes, their paths are the ways themselves.

## What is here

* `wayPath` — the path of the module at the end of a way; `findModules_eq_ok_iff` — what is found,
  and how it is ordered.
* `Spells` — a text means the file at a location; `sameFile_eq_true_iff`.
* `IsModuleBelow` — the names lead down to a file that is found; `isModuleWay_iff`.
* `exists_found`, `exists_findModules` — all such files are found, and nothing else is;
  `findModules_strayFiles`, what comes of names that are no texts.
-/

set_option autoImplicit false
namespace CommandGrove

open FileTree

/-! ## Paths of ways -/

/-- The path of the module at the end of a way. -/
def wayPath (names : List (List Char)) : ModulePath :=
  ModulePath.ofText (String.ofList (Path.unsplit (names.map FileName.shown)))

/-- What is left out: the paths of a file that is excluded. -/
def excludes (files : FileTree) (exclude : Option String) (path : List Char) : Bool :=
  exclude.any fun text => files.sameFile text.toList path

/-- **What is found** are the paths of ways from a directory, in their order. -/
theorem findModules_eq_ok_iff {files : FileTree} {base : String} {exclude : Option String}
    {modules : List ModulePath} :
    findModules files base exclude = .ok modules ↔
      ∃ place, files.resolve .follow base.toList = .ok place ∧
        files.item? place = some .directory ∧
        ∃ found, modulesBelow files (excludes files exclude) (depthLimit files) []
          ⟨place, base.toList⟩ = .ok found ∧ modules = (found.map wayPath).mergeSort ModulePath.le := by
  unfold findModules
  dsimp only
  split
  · next fault hfault =>
    refine iff_of_false (fun h => nomatch h) ?_
    rintro ⟨place, hplace, -⟩
    exact nomatch hfault.symm.trans hplace
  · next place hplace =>
    split
    · next hdir =>
      rw [Attempt.bind_eq_ok_iff]
      constructor
      · rintro ⟨found, hfound, hmodules⟩
        exact ⟨place, hplace, hdir, found, hfound, (Except.ok.inj hmodules).symm⟩
      · rintro ⟨place', hplace', -, found, hfound, rfl⟩
        obtain rfl := Except.ok.inj (hplace.symm.trans hplace')
        exact ⟨found, hfound, rfl⟩
    · next hdir =>
      refine iff_of_false (fun h => nomatch h) ?_
      rintro ⟨place', hplace', hdir', -⟩
      rw [← Except.ok.inj (hplace.symm.trans hplace')] at hdir'
      exact hdir hdir'

/-! ## Order -/

theorem ModulePath.text_injective {a b : ModulePath} (h : a.text = b.text) : a = b := by
  obtain ⟨text, _⟩ := a
  obtain ⟨text', _⟩ := b
  obtain rfl : text = text' := h
  rfl

theorem pairwise_mergeSort_le (modules : List ModulePath) :
    (modules.mergeSort ModulePath.le).Pairwise (fun a b => a.text ≤ b.text) := by
  have htrans (a b c : ModulePath) (hab : a.le b = true) (hbc : b.le c = true) : a.le c = true :=
    decide_eq_true (le_trans (of_decide_eq_true hab) (of_decide_eq_true hbc))
  have htotal (a b : ModulePath) : (a.le b || b.le a) = true := by
    simpa [ModulePath.le] using le_total a.text b.text
  exact (List.pairwise_mergeSort htrans htotal modules).imp fun hle => of_decide_eq_true hle

/-- Paths that differ come in the strict order of their bytes. -/
theorem pairwise_bytes_lt {modules : List ModulePath} (h : modules.Nodup) :
    (modules.mergeSort ModulePath.le).Pairwise
      (fun a b => Text.bytes a.text < Text.bytes b.text) := by
  have hnodup := (List.mergeSort_perm modules ModulePath.le).nodup_iff.2 h
  refine List.Pairwise.imp₂ (fun a b hle hne => ?_) (pairwise_mergeSort_le modules) hnodup
  exact Text.bytes_lt_bytes_iff.2 (lt_of_le_of_ne hle fun heq => hne (ModulePath.text_injective heq))

theorem toList_text_wayPath (names : List (List Char)) :
    (wayPath names).text.toList = (Path.unsplit (names.map FileName.shown)).map slashed := by
  simp [wayPath, ModulePath.ofText]

/-- The path of a module is a text. -/
theorem mark_notMem_text_wayPath (names : List (List Char)) :
    FileName.mark ∉ (wayPath names).text.toList := by
  rw [toList_text_wayPath, List.mem_map]
  rintro ⟨c, hc, hslashed⟩
  unfold slashed at hslashed
  split at hslashed
  · exact absurd hslashed (by decide)
  · rw [hslashed, Path.unsplit, Text.mem_joinWith_iff (by decide)] at hc
    obtain ⟨_, hname, hmark⟩ := hc
    obtain ⟨name, -, rfl⟩ := List.mem_map.1 hname
    exact FileName.mark_notMem_shown name hmark

/-- The path of texts without backslashes is written as they are. -/
theorem text_wayPath {names : List (List Char)}
    (h : ∀ name ∈ names, '\\' ∉ name ∧ FileName.isText name = true) :
    (wayPath names).text = String.ofList (Path.unsplit names) := by
  have hshown : names.map FileName.shown = names := by
    conv => rhs; rw [← List.map_id names]
    exact List.map_congr_left fun name hname => FileName.shown_of_isText (h name hname).2
  have hplain : '\\' ∉ (String.ofList (Path.unsplit names)).toList := by
    rw [String.toList_ofList, Path.unsplit, Text.mem_joinWith_iff (by decide)]
    rintro ⟨name, hname, hmem⟩
    exact (h name hname).1 hmem
  rw [wayPath, hshown]
  exact congrArg ModulePath.text (ModulePath.ofText_text ⟨_, hplain⟩)

theorem unsplit_injective {names names' : List (List Char)} (hne : names ≠ []) (hne' : names' ≠ [])
    (h : ∀ name ∈ names, isItemName name = true) (h' : ∀ name ∈ names', isItemName name = true)
    (heq : Path.unsplit names = Path.unsplit names') : names = names' := by
  have hsplit := congrArg (Text.splitOn '/') heq
  rwa [Path.unsplit, Path.unsplit,
    Text.splitOn_joinWith hne fun name hname => slash_notMem_of_isItemName (h name hname),
    Text.splitOn_joinWith hne' fun name hname => slash_notMem_of_isItemName (h' name hname)]
    at hsplit

/-- Ways that differ have paths that differ, if their names are texts without backslashes. -/
theorem nodup_map_wayPath {ways : List (List (List Char))} (hnodup : ways.Nodup)
    (hnames : ∀ names ∈ ways, names ≠ [] ∧ ∀ name ∈ names, isItemName name = true)
    (hplain : ∀ names ∈ ways, ∀ name ∈ names, '\\' ∉ name ∧ FileName.isText name = true) :
    (ways.map wayPath).Nodup := by
  refine hnodup.map_on fun names hmem names' hmem' heq => ?_
  have htexts := congrArg ModulePath.text heq
  rw [text_wayPath (hplain names hmem), text_wayPath (hplain names' hmem')] at htexts
  obtain ⟨hne, hitems⟩ := hnames names hmem
  obtain ⟨hne', hitems'⟩ := hnames names' hmem'
  exact unsplit_injective hne hne' hitems hitems' (String.ofList_injective htexts)

/-! ## What is left out -/

/-- The text means the file at the end of a path: it leads there or, if it leads nowhere, it has
the components of the path. -/
def Spells (files : FileTree) (text path : List Char) (place : Location) : Prop :=
  files.resolve .follow text = .ok place ∨
    (∀ goal, files.resolve .follow text ≠ .ok goal) ∧ Path.components text = Path.components path

theorem sameFile_eq_true_iff {files : FileTree} {text path : List Char} {place : Location}
    (hpath : files.resolve .follow path = .ok place) :
    files.sameFile text path = true ↔ Spells files text path place := by
  unfold FileTree.sameFile Spells
  rw [hpath]
  cases hgoal : files.resolve .follow text with
  | ok goal => simp
  | error fault => simp [Path.same]

theorem excludes_eq_false_iff {files : FileTree} {exclude : Option String} {path : List Char}
    {place : Location} (hpath : files.resolve .follow path = .ok place) :
    excludes files exclude path = false ↔
      ∀ text, exclude = some text → ¬Spells files text.toList path place := by
  simp only [← sameFile_eq_true_iff hpath]
  cases exclude with
  | none => simp [excludes]
  | some text => simp [excludes]

/-! ## What is found -/

/-- The names lead from the directory at a location down to a file that holds a module.  Neither is
private nor in a directory that is not entered, and it is not the file that is excluded. -/
structure IsModuleBelow (files : FileTree) (base : String) (exclude : Option String)
    (place : Location) (names : List (List Char)) : Prop where
  isFile : ∃ content, files.item? (place ++ names) = some (.file content)
  isModule : ∃ name, names.getLast? = some name ∧ isModuleFileName (FileName.shown name) = true
  isPublic : ∀ name ∈ names, name.head? ≠ some '.' ∧ name.head? ≠ some '_'
  isEntered : ∀ name ∈ names.dropLast, name ≠ "node_modules".toList
  isKept : ∀ text, exclude = some text →
    ¬Spells files text.toList (Path.join base.toList (Path.unsplit names)) (place ++ names)

theorem isPrivateName_eq_false_iff {name : List Char} :
    isPrivateName name = false ↔ name.head? ≠ some '.' ∧ name.head? ≠ some '_' := by
  simp [isPrivateName]

theorem isPrivateName_shown_eq_false_iff {name : List Char} :
    isPrivateName (FileName.shown name) = false ↔
      name.head? ≠ some '.' ∧ name.head? ≠ some '_' := by
  rw [isPrivateName_eq_false_iff, Ne, Ne, FileName.head?_shown (by decide) (by decide),
    FileName.head?_shown (by decide) (by decide)]

theorem skippedDirectories_contains_shown_eq_false_iff {name : List Char} :
    skippedDirectories.contains (FileName.shown name) = false ↔ name ≠ "node_modules".toList := by
  have hshown : FileName.shown name = "node_modules".toList ↔ name = "node_modules".toList :=
    FileName.shown_eq_iff (by decide) (by decide)
  simpa [skippedDirectories] using not_congr hshown

section Below

variable {files : FileTree} (h : files.WellFormed) {base : String} {place : Location}
  (hresolve : files.resolve .follow base.toList = .ok place)

include h hresolve

/-- The path down to a file leads to it. -/
theorem resolve_descend_of_item? {names : List (List Char)} {content : Content}
    (hitem : files.item? (place ++ names) = some (.file content)) :
    files.resolve .follow (descend base.toList names) = .ok (place ++ names) := by
  obtain ⟨left, hleft⟩ := resolve_eq_ok_iff.1 hresolve
  have hnames : ∀ name ∈ names, isItemName name = true := by
    intro name hname
    have hne := List.append_ne_nil_of_right_ne_nil place (List.ne_nil_of_mem hname)
    exact h.isItemName _ (mem_items_of_item? hne hitem) name (List.mem_append_right _ hname)
  exact resolve_eq_ok_iff.2 ⟨left, (resolves_descend_iff hleft.ne_nil hnames).2
    ⟨left, place, hleft, h.walks_of_item? hitem rfl⟩⟩

omit h in
/-- Without links the path down leads where its names tell. -/
theorem eq_append_of_resolve_descend (hfree : files.IsLinkFree place) {names : List (List Char)}
    (hnames : ∀ name ∈ names, isItemName name = true) {goal : Location}
    (hgoal : files.resolve .follow (descend base.toList names) = .ok goal) :
    goal = place ++ names := by
  obtain ⟨left, hleft⟩ := resolve_eq_ok_iff.1 hresolve
  obtain ⟨left', hleft'⟩ := resolve_eq_ok_iff.1 hgoal
  obtain ⟨k, mid, hmid, hwalks⟩ := (resolves_descend_iff hleft.ne_nil hnames).1 hleft'
  obtain rfl := Except.ok.inj (hresolve.symm.trans (resolve_eq_ok_iff.2 ⟨k, hmid⟩))
  exact hwalks.goal_of_isLinkFree hnames hfree

/-- **Without links the ways are the locations** of what is stored below the directory. -/
theorem isModuleWay_iff (hfree : files.IsLinkFree place) {exclude : Option String}
    {names : List (List Char)} :
    IsModuleWay files (excludes files exclude) base.toList names ↔
      IsModuleBelow files base exclude place names := by
  constructor
  · intro hway
    obtain ⟨goal, content, hgoal, hcontent⟩ := isFile_iff.1 hway.isFile
    obtain rfl := eq_append_of_resolve_descend hresolve hfree hway.isItemName hgoal
    have hkept := hway.isKept
    rw [excludes_eq_false_iff hgoal, descend_eq_join hway.ne_nil hway.isItemName] at hkept
    exact ⟨⟨content, hcontent⟩, hway.isModule,
      fun name hname => isPrivateName_shown_eq_false_iff.1 (hway.isPublic name hname),
      fun name hname =>
        skippedDirectories_contains_shown_eq_false_iff.1 (hway.isEntered name hname),
      hkept⟩
  · rintro ⟨⟨content, hcontent⟩, ⟨last, hlast, hmodule⟩, hpublic, hentered, hkept⟩
    have hne : names ≠ [] := by
      rintro rfl
      exact nomatch hlast
    have hnames : ∀ name ∈ names, isItemName name = true := fun name hname =>
      h.isItemName _ (mem_items_of_item? (List.append_ne_nil_of_right_ne_nil place hne) hcontent)
        name (List.mem_append_right _ hname)
    have hgoal := resolve_descend_of_item? h hresolve hcontent
    rw [← descend_eq_join hne hnames, ← excludes_eq_false_iff hgoal] at hkept
    exact ⟨hnames, fun name hname => isPrivateName_shown_eq_false_iff.2 (hpublic name hname),
      fun name hname => skippedDirectories_contains_shown_eq_false_iff.2 (hentered name hname),
      ⟨last, hlast, hmodule⟩, isFile_iff.2 ⟨_, content, hgoal, hcontent⟩, hkept⟩

/-- Without links the search gets to its end, and what it finds is told by what is stored. -/
theorem exists_found (hdir : files.item? place = some .directory)
    (hfree : files.IsLinkFree place) (exclude : Option String) :
    ∃ found : List (List (List Char)),
      findModules files base exclude = .ok ((found.map wayPath).mergeSort ModulePath.le) ∧
      found.Nodup ∧ ∀ names, names ∈ found ↔ IsModuleBelow files base exclude place names := by
  obtain ⟨left, hleft⟩ := resolve_eq_ok_iff.1 hresolve
  have hat : Visit.IsAt files ⟨place, base.toList⟩ := ⟨hleft.ne_nil, hresolve, hdir⟩
  have hdepth : files.items.length < depthLimit files + place.length := by
    rw [depthLimit, linkLimit]
    omega
  obtain ⟨found, hfound⟩ : ∃ found, modulesBelow files (excludes files exclude) (depthLimit files) []
      ⟨place, base.toList⟩ = .ok found := exists_modulesBelow h hat hfree hdepth
  refine ⟨found, findModules_eq_ok_iff.2 ⟨place, hresolve, hdir, found, hfound, rfl⟩,
    nodup_modulesBelow h hfound, fun names => ?_⟩
  exact (mem_modulesBelow_iff h hat hfound names).trans (isModuleWay_iff h hresolve hfree)

/-- **All modules are found, and nothing else is**: below a directory without links, where all names
are texts without backslashes, the search gets to its end, and its result is told by what is
stored there.  The paths are in the strict order of their bytes, so none is there twice. -/
theorem exists_findModules (hdir : files.item? place = some .directory)
    (hfree : files.IsLinkFree place) (hplain : files.IsPlain place)
    (htextual : files.IsTextual place) (exclude : Option String) :
    ∃ modules, findModules files base exclude = .ok modules ∧
      modules.Pairwise (fun a b => Text.bytes a.text < Text.bytes b.text) ∧
      ∀ text, text ∈ modules.map ModulePath.text ↔
        ∃ names, IsModuleBelow files base exclude place names ∧
          text = String.ofList (Path.unsplit names) := by
  obtain ⟨found, hmodules, hnodup, hfound⟩ := exists_found h hresolve hdir hfree exclude
  have hnames : ∀ names ∈ found, ∀ name ∈ names, '\\' ∉ name ∧ FileName.isText name = true := by
    intro names hmem name hname
    obtain ⟨content, hcontent⟩ := ((hfound names).1 hmem).isFile
    exact ⟨hplain.of_item? hcontent name hname, htextual.of_item? hcontent name hname⟩
  refine ⟨_, hmodules, ?_, fun text => ?_⟩
  · refine pairwise_bytes_lt (nodup_map_wayPath hnodup (fun names hmem => ?_) hnames)
    have hway := (isModuleWay_iff h hresolve hfree).2 ((hfound names).1 hmem)
    exact ⟨hway.ne_nil, hway.isItemName⟩
  · rw [((List.mergeSort_perm _ _).map _).mem_iff, List.map_map, List.mem_map]
    refine exists_congr fun names => ?_
    rw [hfound]
    refine and_congr_right fun hbelow => ?_
    rw [Function.comp_apply, text_wayPath (hnames names ((hfound names).2 hbelow))]
    exact eq_comm

end Below

/-- A directory of commands with an entry file, a private file, and a package below it. -/
def commandFiles : FileTree := ⟨[
  (["cmds".toList], .directory),
  (["cmds".toList, "db".toList], .directory),
  (["cmds".toList, "db".toList, "migrate.ts".toList], .file (.text "export function up() \x7b\x7d")),
  (["cmds".toList, "_shared.ts".toList], .file (.text "")),
  (["cmds".toList, "entry.ts".toList], .file (.text "")),
  (["cmds".toList, "node_modules".toList], .directory),
  (["cmds".toList, "node_modules".toList, "index.ts".toList], .file (.text ""))]⟩

/-- The entry file can be spelled in another way than its path. -/
theorem exists_findModules_commandFiles :
    ∃ modules, findModules commandFiles "/cmds" (some "/cmds/db/../entry.ts") = .ok modules ∧
      modules.Pairwise (fun a b => Text.bytes a.text < Text.bytes b.text) ∧
      ∀ text, text ∈ modules.map ModulePath.text ↔
        ∃ names, IsModuleBelow commandFiles "/cmds" (some "/cmds/db/../entry.ts") ["cmds".toList]
          names ∧ text = String.ofList (Path.unsplit names) := by
  have hwellFormed : commandFiles.WellFormed := ⟨by decide, by decide, by decide⟩
  have hdir : commandFiles.item? ["cmds".toList] = some .directory := by decide
  have hresolve : commandFiles.resolve .follow "/cmds".toList = .ok ["cmds".toList] :=
    hwellFormed.resolve_pathOf (List.cons_ne_nil _ _) hdir rfl
  exact exists_findModules hwellFormed hresolve hdir (by decide) (by decide) (by decide) _

/-- The name `a?.ts`, with a byte that is no text in the place of the question mark. -/
def strayName (b : UInt8) : List Char := 'a' :: FileName.stray [b] ++ ".ts".toList

example : FileName.ofBytes [0x61, 0xFF, 0x2E, 0x74, 0x73] = strayName 0xFF := by cbv

/-- Two modules whose names are no texts. -/
def strayFiles : FileTree := ⟨[
  (["cmds".toList], .directory),
  (["cmds".toList, strayName 0xFE], .file (.text "export function first() \x7b\x7d")),
  (["cmds".toList, strayName 0xFF], .file (.text "export function second() \x7b\x7d"))]⟩

/-- The same path is given for both of them, and it is the path of neither. -/
theorem findModules_strayFiles :
    strayFiles.WellFormed ∧ strayFiles.IsLinkFree ["cmds".toList] ∧
      strayFiles.IsPlain ["cmds".toList] ∧
      ∃ modules, findModules strayFiles "/cmds" none = .ok modules ∧
        ¬modules.Pairwise (fun a b => Text.bytes a.text < Text.bytes b.text) ∧
        ∃ m ∈ modules, ¬∃ names, IsModuleBelow strayFiles "/cmds" none ["cmds".toList] names ∧
          m.text = String.ofList (Path.unsplit names) := by
  have hwellFormed : strayFiles.WellFormed := ⟨by decide, by decide, by decide⟩
  have hdir : strayFiles.item? ["cmds".toList] = some .directory := by decide
  have hresolve : strayFiles.resolve .follow "/cmds".toList = .ok ["cmds".toList] :=
    hwellFormed.resolve_pathOf (List.cons_ne_nil _ _) hdir rfl
  obtain ⟨found, hmodules, hnodup, hfound⟩ :=
    exists_found hwellFormed hresolve hdir (by decide) none
  have hfirst : [strayName 0xFE] ∈ found :=
    (hfound _).2 ⟨⟨.text "export function first() \x7b\x7d", by decide⟩, ⟨_, rfl, by decide⟩,
      by decide, by decide, fun _ h => absurd h.symm (Option.some_ne_none _)⟩
  have hsecond : [strayName 0xFF] ∈ found :=
    (hfound _).2 ⟨⟨.text "export function second() \x7b\x7d", by decide⟩, ⟨_, rfl, by decide⟩,
      by decide, by decide, fun _ h => absurd h.symm (Option.some_ne_none _)⟩
  have hperm := List.mergeSort_perm (found.map wayPath) ModulePath.le
  refine ⟨hwellFormed, by decide, by decide, _, hmodules, fun hsorted => ?_,
    wayPath [strayName 0xFE], hperm.mem_iff.2 (List.mem_map_of_mem hfirst), ?_⟩
  · have hpaths : (found.map wayPath).Nodup := by
      refine hperm.nodup_iff.1 (hsorted.imp fun hlt heq => ?_)
      exact List.lt_irrefl _ (heq ▸ hlt)
    have hsame : [strayName 0xFE] = [strayName 0xFF] :=
      List.inj_on_of_nodup_map hpaths hfirst hsecond (by decide)
    exact absurd hsame (by decide)
  · rintro ⟨names, hbelow, htext⟩
    obtain ⟨content, hcontent⟩ := hbelow.isFile
    have hnames : ∃ b, names = [strayName b] := by
      have hmem := mem_items_of_item? (List.cons_ne_nil _ _) hcontent
      simp only [strayFiles, List.mem_cons, Prod.mk.injEq, List.not_mem_nil, or_false,
        reduceCtorEq, and_false, false_or, List.cons.injEq, true_and] at hmem
      rcases hmem with ⟨rfl, -⟩ | ⟨rfl, -⟩
      · exact ⟨_, rfl⟩
      · exact ⟨_, rfl⟩
    obtain ⟨b, rfl⟩ := hnames
    refine mark_notMem_text_wayPath [strayName 0xFE] (htext ▸ ?_)
    simp [Path.unsplit, Text.joinWith, strayName, FileName.stray]

end CommandGrove
