import CommandGrove.Config
import CommandGrove.Proofs.Discovery.Modules

/-!
# Back to the file

The path of a module is read again: it is joined to the path of the directory, and the file at the
end of that path is the module.  So it should be the file that was visited.  A backslash in a name
is a character like others for the search, but counts as a slash in the path of a module; and where
the bytes of a name are no text, the path of the module has another character for them.

## What is here

* `visitedPath` — the path of the file at the end of a way, as the search comes to it.
* `LeadsBack` — a path has proper pieces and leads back to the file that was visited;
  `leadsBack_wayPath_iff`.
* `exists_ways_of_findModules` — the paths that are found lead back just if the names on their ways
  are texts without backslashes; `findModules_outsideFiles` — one that leads out of the directory.
-/

set_option autoImplicit false
namespace CommandGrove

open FileTree

/-! ## Reading a path again -/

/-- The path of the file at the end of a way, as the search comes to it. -/
def visitedPath (base : String) (names : List (List Char)) : String :=
  joinPath base (String.ofList (Path.unsplit names))

/-- The path of a module leads back to the file that was visited: no piece of it is empty or
private, and joined to the path of the directory it is the path that was visited. -/
structure LeadsBack (base : String) (names : List (List Char)) (m : ModulePath) : Prop where
  isPublic : ∀ segment ∈ Path.split m.text.toList, segment ≠ [] ∧ isPrivateName segment = false
  path : joinPath base m.text = visitedPath base names

/-- A path that is the one that was visited has all the characters of the names on the way. -/
theorem notMem_of_joinPath_wayPath {base : String} {names : List (List Char)}
    (hnames : ∀ name ∈ names, isItemName name = true)
    (heq : joinPath base (wayPath names).text = visitedPath base names) {c : Char} (hc : c ≠ '/')
    (hnone : c ∉ (wayPath names).text.toList) : ∀ name ∈ names, c ∉ name := by
  have hpaths : Path.join base.toList (wayPath names).text.toList =
      Path.join base.toList (Path.unsplit names) := by
    have hlists := congrArg String.toList heq
    simpa only [joinPath, visitedPath, String.toList_ofList] using hlists
  have hunsplit : c ∉ Path.unsplit names := by
    obtain ⟨front, hfront⟩ := exists_join_eq base.toList
    rw [hfront _ (isAbsolute_unsplit hnames)] at hpaths
    intro hmem
    by_cases habsolute : Path.isAbsolute (wayPath names).text.toList = true
    · -- nothing of the directory is left, but the names are all there
      rw [Path.join, if_pos habsolute] at hpaths
      exact hnone (hpaths ▸ List.mem_append_right _ hmem)
    · rw [hfront _ (Bool.eq_false_iff.2 habsolute)] at hpaths
      exact hnone (List.append_cancel_left hpaths ▸ hmem)
  intro name hname hmem
  have hsep : c ∉ ['/'] := fun h => hc (List.mem_singleton.1 h)
  exact hunsplit ((Text.mem_joinWith_iff hsep).2 ⟨name, hname, hmem⟩)

/-- Names with backslashes and names that are no texts are not written as they are. -/
theorem joinPath_wayPath_eq_iff {base : String} {names : List (List Char)}
    (hnames : ∀ name ∈ names, isItemName name = true) :
    joinPath base (wayPath names).text = visitedPath base names ↔
      ∀ name ∈ names, '\\' ∉ name ∧ FileName.isText name = true := by
  constructor
  · intro heq name hname
    have hbackslash :=
      notMem_of_joinPath_wayPath hnames heq (by decide) (wayPath names).noBackslash name hname
    have hmark :=
      notMem_of_joinPath_wayPath hnames heq (by decide) (mark_notMem_text_wayPath names) name hname
    exact ⟨hbackslash, FileName.isText_iff.2 hmark⟩
  · intro hplain
    rw [text_wayPath hplain, visitedPath]

/-- **A path leads back** just if all names on the way are texts without backslashes. -/
theorem leadsBack_wayPath_iff {base : String} {names : List (List Char)} (hne : names ≠ [])
    (hnames : ∀ name ∈ names, isItemName name = true)
    (hpublic : ∀ name ∈ names, isPrivateName name = false) :
    LeadsBack base names (wayPath names) ↔
      ∀ name ∈ names, '\\' ∉ name ∧ FileName.isText name = true := by
  refine ⟨fun h => (joinPath_wayPath_eq_iff hnames).1 h.path, fun hplain => ?_⟩
  refine ⟨fun segment hsegment => ?_, (joinPath_wayPath_eq_iff hnames).2 hplain⟩
  rw [text_wayPath hplain, String.toList_ofList, Path.split, Path.unsplit,
    Text.splitOn_joinWith hne fun name hname => slash_notMem_of_isItemName (hnames name hname)]
    at hsegment
  exact ⟨ne_nil_of_isItemName (hnames segment hsegment), hpublic segment hsegment⟩

/-! ## What is found -/

/-- The way to a file that was visited. -/
structure IsVisited (files : FileTree) (base : String) (names : List (List Char)) : Prop where
  isItemName : ∀ name ∈ names, isItemName name = true
  isPublic : ∀ name ∈ names, isPrivateName name = false
  isFile : files.isFile (visitedPath base names).toList = true
  /-- Without links the file is below the directory. -/
  isBelow : ∀ place, files.resolve .follow base.toList = .ok place → files.IsLinkFree place →
    files.resolve .follow (visitedPath base names).toList = .ok (place ++ names)

theorem IsModuleWay.isPrivateName_eq_false {files : FileTree} {skip : List Char → Bool}
    {path : List Char} {names : List (List Char)} (h : IsModuleWay files skip path names) :
    ∀ name ∈ names, isPrivateName name = false := fun name hname =>
  isPrivateName_eq_false_iff.2 (isPrivateName_shown_eq_false_iff.1 (h.isPublic name hname))

theorem IsModuleWay.isVisited {files : FileTree} {skip : List Char → Bool} {base : String}
    {names : List (List Char)} (h : IsModuleWay files skip base.toList names) :
    IsVisited files base names := by
  have hpath : (visitedPath base names).toList = descend base.toList names := by
    rw [descend_eq_join h.ne_nil h.isItemName, visitedPath, joinPath, String.toList_ofList,
      String.toList_ofList]
  refine ⟨h.isItemName, h.isPrivateName_eq_false, hpath ▸ h.isFile, fun place hplace hfree => ?_⟩
  obtain ⟨goal, content, hgoal, -⟩ := isFile_iff.1 h.isFile
  rw [hpath, hgoal, eq_append_of_resolve_descend hplace hfree h.isItemName hgoal]

/-- **What is found and where it leads**: each path that is found is the one of a way of its own to
a file that was visited.  Whatever bytes the names on the way are, it leads back to this file just
if all of them are texts without backslashes; and if all paths lead back, no two are equal. -/
theorem exists_ways_of_findModules {files : FileTree} (h : files.WellFormed) {base : String}
    {exclude : Option String} {modules : List ModulePath}
    (hmodules : findModules files base exclude = .ok modules) :
    ∃ ways : List (List (List Char)), ways.Nodup ∧ modules.Perm (ways.map wayPath) ∧
      (∀ names ∈ ways, IsVisited files base names ∧
        (LeadsBack base names (wayPath names) ↔
          ∀ name ∈ names, '\\' ∉ name ∧ FileName.isText name = true)) ∧
      ((∀ names ∈ ways, LeadsBack base names (wayPath names)) →
        modules.Pairwise fun a b => Text.bytes a.text < Text.bytes b.text) := by
  obtain ⟨place, hplace, hdir, found, hfound, rfl⟩ := findModules_eq_ok_iff.1 hmodules
  obtain ⟨left, hleft⟩ := resolve_eq_ok_iff.1 hplace
  have hat : Visit.IsAt files ⟨place, base.toList⟩ := ⟨hleft.ne_nil, hplace, hdir⟩
  have hways : ∀ names ∈ found, IsModuleWay files (excludes files exclude) base.toList names :=
    fun names => (mem_modulesBelow_iff h hat hfound names).1
  have hleads : ∀ names ∈ found,
      (LeadsBack base names (wayPath names) ↔
        ∀ name ∈ names, '\\' ∉ name ∧ FileName.isText name = true) :=
    fun names hnames => leadsBack_wayPath_iff (hways names hnames).ne_nil
      (hways names hnames).isItemName (hways names hnames).isPrivateName_eq_false
  have hnodup := nodup_modulesBelow h hfound
  refine ⟨found, hnodup, List.mergeSort_perm _ _,
    fun names hnames => ⟨(hways names hnames).isVisited, hleads names hnames⟩, fun hback => ?_⟩
  refine pairwise_bytes_lt (nodup_map_wayPath hnodup (fun names hnames => ?_) fun names hnames => ?_)
  · exact ⟨(hways names hnames).ne_nil, (hways names hnames).isItemName⟩
  · exact (hleads names hnames).1 (hback names hnames)

/-- A file whose name leads out of its directory once backslashes count as slashes. -/
def outsideFiles : FileTree := ⟨[
  (["cmds".toList], .directory),
  (["cmds".toList, "x".toList], .directory),
  (["cmds".toList, "x\\..\\..\\out.ts".toList], .file (.text "export function inside() \x7b\x7d")),
  (["out.ts".toList], .file (.text "export function outside() \x7b\x7d"))]⟩

theorem wellFormed_outsideFiles : outsideFiles.WellFormed :=
  ⟨by decide, by decide, by decide⟩

theorem exists_found_outsideFiles :
    ∃ found : List (List (List Char)),
      findModules outsideFiles "/cmds" none = .ok ((found.map wayPath).mergeSort ModulePath.le) ∧
        ["x\\..\\..\\out.ts".toList] ∈ found := by
  have hdir : outsideFiles.item? ["cmds".toList] = some .directory := by decide
  have hresolve : outsideFiles.resolve .follow "/cmds".toList = .ok ["cmds".toList] :=
    wellFormed_outsideFiles.resolve_pathOf (List.cons_ne_nil _ _) hdir rfl
  obtain ⟨found, hmodules, -, hfound⟩ :=
    exists_found wellFormed_outsideFiles hresolve hdir (by decide) none
  refine ⟨found, hmodules, (hfound _).2 ?_⟩
  exact ⟨⟨.text "export function inside() \x7b\x7d", by decide⟩, ⟨_, rfl, by decide⟩, by decide,
    by decide, fun _ h => absurd h.symm (Option.some_ne_none _)⟩

theorem exists_ways_outsideFiles :
    ∃ modules, findModules outsideFiles "/cmds" none = .ok modules ∧
      ∃ ways : List (List (List Char)), ways.Nodup ∧ modules.Perm (ways.map wayPath) ∧
        (∀ names ∈ ways, IsVisited outsideFiles "/cmds" names ∧
          (LeadsBack "/cmds" names (wayPath names) ↔
            ∀ name ∈ names, '\\' ∉ name ∧ FileName.isText name = true)) ∧
        ((∀ names ∈ ways, LeadsBack "/cmds" names (wayPath names)) →
          modules.Pairwise fun a b => Text.bytes a.text < Text.bytes b.text) := by
  obtain ⟨found, hmodules, -⟩ := exists_found_outsideFiles
  exact ⟨_, hmodules, exists_ways_of_findModules wellFormed_outsideFiles hmodules⟩

/-- A path with private pieces is found, and it leads to a file outside of the directory. -/
theorem findModules_outsideFiles :
    ∃ modules m, findModules outsideFiles "/cmds" none = .ok modules ∧ m ∈ modules ∧
      "..".toList ∈ Path.split m.text.toList ∧
      outsideFiles.readText (joinPath "/cmds" m.text).toList =
        .ok "export function outside() \x7b\x7d" := by
  obtain ⟨found, hmodules, hfound⟩ := exists_found_outsideFiles
  refine ⟨_, wayPath ["x\\..\\..\\out.ts".toList], hmodules, ?_, by decide, ?_⟩
  · exact (List.mergeSort_perm _ _).mem_iff.2 (List.mem_map_of_mem hfound)
  · have hdir : outsideFiles.item? ["cmds".toList] = some .directory := by decide
    have hsub : outsideFiles.item? ["cmds".toList, "x".toList] = some .directory := by decide
    have hout : outsideFiles.item? ["out.ts".toList] =
        some (.file (.text "export function outside() \x7b\x7d")) := by decide
    have hwalks : outsideFiles.Walks linkLimit []
        [[], "cmds".toList, "x".toList, ['.', '.'], ['.', '.'], "out.ts".toList] linkLimit
        ["out.ts".toList] := by
      refine .void item?_root rfl (.item item?_root (by decide) (by decide) hdir rfl ?_)
      refine .item hdir (by decide) (by decide) hsub rfl (.up hsub rfl (.up hdir rfl ?_))
      exact .item item?_root (by decide) (by decide) hout rfl .arrived
    have hsplit : Path.split (joinPath "/cmds" (wayPath ["x\\..\\..\\out.ts".toList]).text).toList =
        [[], "cmds".toList, "x".toList, ['.', '.'], ['.', '.'], "out.ts".toList] := by decide
    exact readText_eq_ok (resolve_eq_ok_iff.2 ⟨linkLimit, by decide, hsplit ▸ hwalks⟩) hout

end CommandGrove
