import CommandGrove.Proofs.Attempts
import CommandGrove.Proofs.Files.Spellings
import CommandGrove.Proofs.Tool.Bundling
import Mathlib

/-!
# Requests

What is compiled can be told by options, by an entry file that is named, or by an entry file that is
found.  The three ways come down to the same, unless an entry file is named together with options.
The name of the program is any text that is not blank and has no separators in it.

## What is here

* `IsProgramName`, `checkName_eq_ok_iff` — the texts that are accepted as names.
* `TellsEntry` — what the entry file at a path tells; `TellsEntry.of_spelling` — it tells the same
  under each spelling of the path.
* `SameOutcome` — two requests come down to the same.
* `Request.modes_agree` — options and the two kinds of entry files do.
* `Config.ComesFrom`, `Request.comesFrom_of_resolve` — where the parts of what a request comes down
  to are from.
* `Request.resolve_confined` — the directory of the commands has an absolute path, and the
  executable is made in the working directory unless its name is `.` or `..`;
  `Request.resolve_up` — such a name is accepted.
-/

set_option autoImplicit false
namespace CommandGrove

/-! ## Names of programs -/

/-- The texts that are accepted as the name of a program. -/
structure IsProgramName (name : String) : Prop where
  visible : ∃ c ∈ name.toList, Text.isBlank c = false
  slash : '/' ∉ name.toList
  backslash : '\\' ∉ name.toList

theorem checkName_eq_ok_iff {name : String} : checkName name = .ok () ↔ IsProgramName name := by
  have hblank : name.toList.all Text.isBlank = true ↔
      ¬∃ c ∈ name.toList, Text.isBlank c = false := by
    simp [List.all_eq_true]
  have hseparators : (name.toList.any fun c => c == '/' || c == '\\') = true ↔
      '/' ∈ name.toList ∨ '\\' ∈ name.toList := by
    simp [List.any_eq_true, and_or_left, exists_or]
  unfold checkName
  split
  · next h => exact iff_of_false (fun h => nomatch h) fun hname => hblank.1 h hname.visible
  · next hvisible =>
    split
    · next h =>
      refine iff_of_false (fun h => nomatch h) fun hname => ?_
      exact (hseparators.1 h).elim hname.slash hname.backslash
    · next h =>
      rw [hseparators, not_or] at h
      rw [hblank, Decidable.not_not] at hvisible
      exact iff_of_true rfl ⟨hvisible, h.1, h.2⟩

/-- The names that are no names of files are `.` and `..`. -/
theorem IsProgramName.component?_eq_name_iff {name : String} (h : IsProgramName name) :
    Path.component? name.toList = some (.name name.toList) ↔ name ≠ "." ∧ name ≠ ".." := by
  have hne : name.toList ≠ [] := by
    obtain ⟨c, hc, -⟩ := h.visible
    exact List.ne_nil_of_mem hc
  have hlist (text : String) : name = text ↔ name.toList = text.toList :=
    String.toList_inj.symm
  rw [Ne, Ne, hlist ".", hlist ".."]
  constructor
  · intro hname
    obtain ⟨hvoid, hup⟩ := Path.ne_of_component?_eq_name hname
    exact ⟨fun hdot => hvoid (Or.inr hdot), hup⟩
  · rintro ⟨hdot, hup⟩
    exact Path.component?_eq_name (fun hvoid => hvoid.elim hne hdot) hup

/-! ## Entry files -/

namespace FileTree

theorem isFile_of_readText {t : FileTree} {path : List Char} {text : String}
    (h : t.readText path = .ok text) : t.isFile path = true := by
  rw [isFile_iff]
  unfold readText read at h
  cases hplace : t.resolve .follow path with
  | error fault =>
    rw [hplace] at h
    exact nomatch h
  | ok place =>
    rw [hplace] at h
    dsimp only at h
    cases hitem : t.item? place with
    | none =>
      rw [hitem] at h
      exact nomatch h
    | some item =>
      rw [hitem] at h
      cases item with
      | file content => exact ⟨place, content, rfl, hitem⟩
      | directory | link target => exact nomatch h

end FileTree

/-- The entry file at a path is there and tells these values. -/
def TellsEntry (files : FileTree) (path : String) (values : EntryValues) : Prop :=
  ∃ text, files.readText path.toList = .ok text ∧ EntryValues.ofText path text = .ok values

namespace EntryValues

theorem ofSource_eq_ok_iff {path source : String} {values : EntryValues} :
    ofSource path source = .ok values ↔ ∃ program,
      Script.readProgram (.ofPath true path.toList) source.toList = .ok program ∧
        ofProgram program = .ok values := by
  unfold ofSource
  cases Script.readProgram (.ofPath true path.toList) source.toList with
  | error faults => exact iff_of_false (fun h => nomatch h) fun ⟨_, h, _⟩ => nomatch h
  | ok program =>
    refine Attempt.mapError_eq_ok_iff.trans ⟨fun h => ⟨program, rfl, h⟩, ?_⟩
    rintro ⟨_, ⟨⟩, h⟩
    exact h

/-- How an entry file is read is told by its extension alone. -/
theorem ofText_eq_ok_congr {path path' : String}
    (hpath : Path.extension? path'.toList = Path.extension? path.toList) (text : String)
    (values : EntryValues) : ofText path' text = .ok values ↔ ofText path text = .ok values := by
  have hdialect : Script.Dialect.ofPath true path'.toList = .ofPath true path.toList := by
    rw [Script.Dialect.ofPath, hpath, Script.Dialect.ofPath]
  unfold ofText
  rw [hpath]
  dsimp only
  split
  · cases (Toml.Table.ofDocument text.toList).bind ofTable with
    | none => exact iff_of_false (fun h => nomatch h) fun h => nomatch h
    | some _ => exact Iff.rfl
  · split
    · rw [ofSource_eq_ok_iff, ofSource_eq_ok_iff, hdialect]
    · exact iff_of_false (fun h => nomatch h) fun h => nomatch h

end EntryValues

/-- **An entry file tells the same under each spelling of its path.** -/
theorem TellsEntry.of_spelling {files : FileTree} {path path' dir : String} {name : List Char}
    {values : EntryValues} (h : TellsEntry files path values)
    (hpath : Path.LiesIn dir.toList name path.toList)
    (hpath' : Path.LiesIn dir.toList name path'.toList) (hfile : files.isFile path'.toList = true) :
    TellsEntry files path' values := by
  obtain ⟨text, htext, hvalues⟩ := h
  refine ⟨text, ?_, (EntryValues.ofText_eq_ok_congr ?_ text values).2 hvalues⟩
  · rw [← htext]
    exact FileTree.readText_congr hfile (FileTree.isFile_of_readText htext)
      (hpath'.trans hpath.symm)
  · rw [hpath.extension?_eq, hpath'.extension?_eq]

/-! ## Ways to ask -/

/-- Two requests come down to the same: both fail, or both give the same directories, as paths, and
the same name. -/
inductive SameOutcome : Except Error Config → Except Error Config → Prop
  | failed (e e' : Error) : SameOutcome (.error e) (.error e')
  | resolved {config config' : Config}
      (base : Path.same config.baseDir.toList config'.baseDir.toList = true)
      (name : config.name = config'.name) (dir : config.workingDir = config'.workingDir) :
      SameOutcome (.ok config) (.ok config')

/-- The first entry file that is found in a directory has this name. -/
def IsFirstEntry (files : FileTree) (workingDir name : String) : Prop :=
  ∃ before after, defaultEntries = before ++ name :: after ∧
    files.isFile (joinPath workingDir name).toList = true ∧
    ∀ other ∈ before, files.isFile (joinPath workingDir other).toList = false

namespace Request

variable {files : FileTree} {workingDir : String}

/-- What an entry file comes down to, told by what it tells. -/
theorem resolveEntry_of_tells {path base : String} {name : Option String}
    (h : TellsEntry files path ⟨some base, name⟩) (hbase : base ≠ "") :
    resolveEntry files workingDir path =
      match checkName (name.getD defaultProgramName) with
      | .error fault => .error (.load path (.badName fault))
      | .ok _ =>
        .ok ⟨joinPath (entryDir workingDir path) base, name.getD defaultProgramName, some path,
          workingDir⟩ := by
  obtain ⟨text, htext, hvalues⟩ := h
  have hfile := FileTree.isFile_of_readText htext
  have hempty : base.isEmpty = false := Bool.eq_false_iff.2 (mt String.isEmpty_iff.1 hbase)
  have hread : EntryValues.ofFile files path = .ok ⟨some base, name⟩ := by
    simp [EntryValues.ofFile, htext, hvalues, hempty, bind, Except.bind, pure, Except.pure]
  simp only [resolveEntry, hfile, hread, Bool.not_true, Bool.false_eq_true, if_false, bind,
    Except.bind, pure, Except.pure, Option.getD_some]
  rfl

/-- The directory that an entry file is in has the components of the one that it lies in. -/
theorem components_entryDir {path : String} {leaf : List Char}
    (h : Path.LiesIn workingDir.toList leaf path.toList) :
    Path.components (entryDir workingDir path).toList = Path.components workingDir.toList := by
  obtain ⟨parent, hparent, hcomponents⟩ := h.exists_parent?
  rw [entryDir, hparent]
  exact (congrArg Path.components String.toList_ofList).trans hcomponents

/-- **Options and an entry file** that lies in the working directory come down to the same, if they
tell the same. -/
theorem sameOutcome_resolveEntry {path base : String} {name : Option String} {leaf : List Char}
    (h : TellsEntry files path ⟨some base, name⟩) (hbase : base ≠ "")
    (hlies : Path.LiesIn workingDir.toList leaf path.toList) :
    SameOutcome (resolve ⟨none, some base, name⟩ files workingDir)
      (resolveEntry files workingDir path) := by
  have hoptions : resolve ⟨none, some base, name⟩ files workingDir =
      match checkName (name.getD defaultProgramName) with
      | .error fault => .error (.usage (.badName fault))
      | .ok _ =>
        .ok ⟨joinPath workingDir base, name.getD defaultProgramName, none, workingDir⟩ := rfl
  rw [hoptions, resolveEntry_of_tells h hbase]
  cases checkName (name.getD defaultProgramName) with
  | error fault => exact .failed _ _
  | ok _ =>
    refine .resolved ?_ rfl rfl
    rw [Path.same, beq_iff_eq, toList_joinPath, toList_joinPath]
    exact Path.components_join_congr (components_entryDir hlies).symm base.toList

/-- The entry files that are looked for have names of files. -/
theorem liesIn_defaultEntry {name : String} (h : name ∈ defaultEntries) (workingDir : String) :
    Path.LiesIn workingDir.toList name.toList (joinPath workingDir name).toList := by
  have hnames : ∀ name ∈ defaultEntries,
      Path.component? name.toList = some (.name name.toList) ∧ '/' ∉ name.toList := by decide
  rw [toList_joinPath]
  exact Path.liesIn_join _ (hnames name h).1 (hnames name h).2

/-- A request for nothing comes down to the first entry file that is found. -/
theorem resolve_empty_of_isFirstEntry {name : String} (h : IsFirstEntry files workingDir name) :
    resolve empty files workingDir = resolveEntry files workingDir (joinPath workingDir name) := by
  obtain ⟨before, after, hsplit, hfile, hbefore⟩ := h
  have hfind : ((defaultEntries.map (joinPath workingDir)).find? fun e => files.isFile e.toList) =
      some (joinPath workingDir name) := by
    rw [List.find?_eq_some_iff_append]
    refine ⟨hfile, before.map (joinPath workingDir), after.map (joinPath workingDir), ?_, ?_⟩
    · rw [hsplit, List.map_append, List.map_cons]
    · intro path hpath
      obtain ⟨other, hother, rfl⟩ := List.mem_map.1 hpath
      rw [hbefore other hother]
      rfl
  unfold resolve
  simp only [empty, Option.isSome_none, Bool.or_self, hfind]

/-- **The ways to configure a program agree.**  Options, an entry file that is named and lies
directly in the working directory, and the first entry file that is found there come down to the
same if they tell the same base directory, and the same name or none.  An entry file together with
an option is refused, whatever the files are. -/
theorem modes_agree :
    (∀ (files : FileTree) (workingDir entry base : String) (name : Option String)
        (leaf : List Char), base ≠ "" →
        Path.LiesIn workingDir.toList leaf (joinPath workingDir entry).toList →
        TellsEntry files (joinPath workingDir entry) ⟨some base, name⟩ →
        let options := resolve ⟨none, some base, name⟩ files workingDir
        SameOutcome options (resolve ⟨some entry, none, none⟩ files workingDir) ∧
          (IsFirstEntry files workingDir (String.ofList leaf) →
            SameOutcome options (resolve empty files workingDir))) ∧
      ∀ (r : Request) (files : FileTree) (workingDir : String), r.entry.isSome = true →
        r.baseDir.isSome = true ∨ r.name.isSome = true →
        r.resolve files workingDir = .error (.usage .mixedModes) := by
  refine ⟨fun files workingDir entry base name leaf hbase hlies htells => ⟨?_, ?_⟩, ?_⟩
  · exact sameOutcome_resolveEntry htells hbase hlies
  · intro hfirst
    rw [resolve_empty_of_isFirstEntry hfirst]
    obtain ⟨before, after, hsplit, hfile, -⟩ := hfirst
    have hmem : String.ofList leaf ∈ defaultEntries := by simp [hsplit]
    have hfound := liesIn_defaultEntry hmem workingDir
    rw [String.toList_ofList] at hfound
    exact sameOutcome_resolveEntry (htells.of_spelling hlies hfound hfile) hbase hfound
  · rintro ⟨entry, base, name⟩ files workingDir hentry hoption
    obtain ⟨entry, rfl⟩ := Option.isSome_iff_exists.1 hentry
    have hsome : (base.isSome || name.isSome) = true := Bool.or_eq_true_iff.2 hoption
    unfold resolve
    simp only [hsome]

/-- What an entry file holds. -/
def documentText : String := "baseDir = \"../cmds\"\nname = \"tool\"\n"

/-- A directory with an entry file. -/
def documentFiles : FileTree :=
  ⟨[(["w".toList, "fli.toml".toList], .file (.text documentText)), (["w".toList], .directory)]⟩

theorem isFirstEntry_documentFiles : IsFirstEntry documentFiles "/w" "fli.toml" :=
  ⟨[], ["fli.entry.ts", "index.ts"], rfl, by cbv, nofun⟩

theorem modes_agree_of_documentFiles :
    let options : Request := ⟨none, some "../cmds", some "tool"⟩
    let named : Request := ⟨some "./fli.toml", none, none⟩
    let both : Request := ⟨some "./fli.toml", none, some "tool"⟩
    TellsEntry documentFiles "/w/./fli.toml" ⟨some "../cmds", some "tool"⟩ ∧
      (options.resolve documentFiles "/w").isOk = true ∧
      SameOutcome (options.resolve documentFiles "/w") (named.resolve documentFiles "/w") ∧
      SameOutcome (options.resolve documentFiles "/w") (empty.resolve documentFiles "/w") ∧
      both.resolve documentFiles "/w" = .error (.usage .mixedModes) := by
  intro options named both
  have htells : TellsEntry documentFiles "/w/./fli.toml" ⟨some "../cmds", some "tool"⟩ :=
    ⟨documentText, by cbv, by decide +kernel⟩
  obtain ⟨hsame, hrefused⟩ := modes_agree
  have hlies : Path.LiesIn "/w".toList "fli.toml".toList (joinPath "/w" "./fli.toml").toList := by
    decide
  obtain ⟨hnamed, hfound⟩ := hsame documentFiles "/w" "./fli.toml" "../cmds" (some "tool")
    "fli.toml".toList (by decide) hlies htells
  exact ⟨htells, by decide +kernel, hnamed, hfound isFirstEntry_documentFiles,
    hrefused both documentFiles "/w" rfl (Or.inr rfl)⟩

end Request

/-! ## What a request comes down to -/

/-- The path of the executable. -/
def Config.executable (config : Config) : List Char :=
  (joinPath config.workingDir config.name).toList

/-- What is known of all that a request comes down to in a directory. -/
structure Config.IsConfined (config : Config) (workingDir : String) : Prop where
  base : Path.isAbsolute config.baseDir.toList = true
  dir : config.workingDir = workingDir
  name : IsProgramName config.name
  /-- The executable lies directly in the directory if its name is one of a file. -/
  liesIn_iff : Path.LiesIn workingDir.toList config.name.toList config.executable ↔
    config.name ≠ "." ∧ config.name ≠ ".."
  /-- With this name the executable is the directory itself. -/
  here : config.name = "." → Path.components config.executable = Path.components workingDir.toList
  /-- With this name the executable is the directory above. -/
  up : config.name = ".." →
    Path.components config.executable = Path.components workingDir.toList ++ [.up]

/-- Where the parts of what a request comes down to are from: the base directory is seen from the
working directory or from that of an entry file, and the name is one of a program. -/
structure Config.ComesFrom (config : Config) (workingDir : String) : Prop where
  dir : config.workingDir = workingDir
  name : IsProgramName config.name
  base : ∃ dir base, config.baseDir = joinPath dir base ∧
    (dir = workingDir ∨ ∃ path, dir = entryDir workingDir (joinPath workingDir path))

namespace Request

variable {files : FileTree} {workingDir : String} {config : Config}

theorem comesFrom_of_resolveEntry {path : String}
    (h : resolveEntry files workingDir (joinPath workingDir path) = .ok config) :
    config.ComesFrom workingDir := by
  unfold resolveEntry at h
  split at h
  · cases h
  · obtain ⟨values, -, h⟩ := Attempt.bind_eq_ok_iff.1 h
    dsimp only at h
    split at h
    · cases h
    · next hname =>
      obtain rfl := Except.ok.inj h
      exact ⟨rfl, checkName_eq_ok_iff.1 hname, _, _, rfl, Or.inr ⟨path, rfl⟩⟩

theorem comesFrom_of_resolveOptions {r : Request}
    (h : r.resolveOptions workingDir = .ok config) : config.ComesFrom workingDir := by
  unfold resolveOptions at h
  split at h
  · cases h
  · dsimp only at h
    split at h
    · cases h
    · next hname =>
      obtain rfl := Except.ok.inj h
      exact ⟨rfl, checkName_eq_ok_iff.1 hname, _, _, rfl, Or.inl rfl⟩

/-- **Whatever was asked for,** what it comes down to has its parts from there. -/
theorem comesFrom_of_resolve {r : Request} (h : r.resolve files workingDir = .ok config) :
    config.ComesFrom workingDir := by
  unfold resolve at h
  split at h
  · cases h
  · exact comesFrom_of_resolveEntry h
  · exact comesFrom_of_resolveOptions h
  · split at h
    · next path hpath =>
      obtain ⟨name, -, rfl⟩ := List.mem_map.1 (List.mem_of_find?_eq_some hpath)
      exact comesFrom_of_resolveEntry h
    · cases h

theorem isAbsolute_entryDir (hdir : Path.isAbsolute workingDir.toList = true) (path : String) :
    Path.isAbsolute (entryDir workingDir (joinPath workingDir path)).toList = true := by
  have hpath : Path.isAbsolute (joinPath workingDir path).toList = true :=
    toList_joinPath workingDir path ▸ Path.isAbsolute_join hdir path.toList
  unfold entryDir
  split
  · next parent hparent =>
    rw [String.toList_ofList]
    exact Path.isAbsolute_of_parent? hpath hparent
  · exact hdir

/-- **What a request comes down to** in a directory with an absolute path.  The commands are in a
directory with an absolute path as well, and the executable is put directly into the working
directory exactly if its name is neither `.` nor `..`.  The names that are accepted are the texts
that are not blank and have no separators in them, these two included. -/
theorem resolve_confined (files : FileTree) (workingDir : String)
    (hdir : Path.isAbsolute workingDir.toList = true) :
    (∀ (r : Request) (config : Config), r.resolve files workingDir = .ok config →
      config.IsConfined workingDir) ∧
      ∀ name, IsProgramName name →
        ∃ r config, Request.resolve r files workingDir = .ok config ∧ config.name = name := by
  have hne : workingDir.toList ≠ [] := by
    intro hnil
    rw [hnil] at hdir
    exact absurd hdir (by decide)
  refine ⟨fun r config h => ?_, fun name hname => ?_⟩
  · obtain ⟨hworking, hname, dir, base, hbase, hfrom⟩ := comesFrom_of_resolve h
    have hcomponents : Path.components config.executable =
        Path.components workingDir.toList ++ (Path.component? config.name.toList).toList := by
      rw [Config.executable, hworking, toList_joinPath,
        Path.components_join_of_notMem hne hname.slash]
    refine ⟨?_, hworking, hname, ?_, fun hdot => ?_, fun hup => ?_⟩
    · rw [hbase, toList_joinPath]
      refine Path.isAbsolute_join ?_ _
      rcases hfrom with rfl | ⟨path, rfl⟩
      · exact hdir
      · exact isAbsolute_entryDir hdir path
    · rw [← hname.component?_eq_name_iff, Path.LiesIn, hcomponents, List.append_right_inj]
      exact Option.toList_eq_singleton_iff
    · rw [hcomponents, hdot]
      exact List.append_nil _
    · rw [hcomponents, hup]
      rfl
  · refine ⟨⟨none, some workingDir, some name⟩, ⟨joinPath workingDir workingDir, name, none,
      workingDir⟩, ?_, rfl⟩
    simp only [resolve, resolveOptions, Option.isSome_some, Bool.or_self, Option.getD_some,
      checkName_eq_ok_iff.2 hname]

/-- What the directory with an entry file comes down to. -/
def documentConfig : Config := ⟨"/w/../cmds", "tool", some "/w/fli.toml", "/w"⟩

theorem resolve_confined_of_documentFiles :
    Path.isAbsolute "/w".toList = true ∧
      empty.resolve documentFiles "/w" = .ok documentConfig ∧
      documentConfig.IsConfined "/w" ∧
      Path.LiesIn "/w".toList "tool".toList documentConfig.executable := by
  have hdir : Path.isAbsolute "/w".toList = true := by decide
  have htells : TellsEntry documentFiles (joinPath "/w" "fli.toml")
      ⟨some "../cmds", some "tool"⟩ := ⟨documentText, by cbv, by decide +kernel⟩
  have hresolve : empty.resolve documentFiles "/w" = .ok documentConfig := by
    rw [resolve_empty_of_isFirstEntry isFirstEntry_documentFiles,
      resolveEntry_of_tells htells (by decide)]
    decide +kernel
  have hconfined := (resolve_confined documentFiles "/w" hdir).1 empty documentConfig hresolve
  exact ⟨hdir, hresolve, hconfined, hconfined.liesIn_iff.2 (by decide)⟩

/-- The name `..` is accepted, and with it the executable is the directory above. -/
theorem resolve_up :
    Request.resolve ⟨none, some "src", some ".."⟩ .empty "/w" =
        .ok ⟨"/w/src", "..", none, "/w"⟩ ∧
      ¬Path.LiesIn "/w".toList "..".toList (joinPath "/w" "..").toList ∧
      Path.components (joinPath "/w" "..").toList = Path.components "/w".toList ++ [.up] := by
  decide +kernel

end Request
end CommandGrove
