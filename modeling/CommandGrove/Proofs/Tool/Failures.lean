import CommandGrove.Proofs.Discovery.Modules
import CommandGrove.Tool

/-!
# Runs that fail before anything is done

A run that builds or generates first finds out what it is about, finds the modules and reads all of
them.  Only then does it change files or start the bundler, so whatever fails before leaves nothing
behind.

## What is here

* `IsSound`, `FailsWith` — a module can be read and has an interface, and how it fails to.
* `exists_compile_iff`, `compile_eq_error_iff` — compiling succeeds just if all modules are sound, and
  otherwise it fails like the first one that is not.
* `Run.IsFailure` — a run that failed and changed nothing.
* `Tool.run_of_failure` — every run that builds or generates fails in this way, if anything fails
  before the program is planned.
-/

set_option autoImplicit false
namespace CommandGrove

/-! ## Modules -/

/-- The module can be read, and it has an interface. -/
def IsSound (files : FileTree) (base : String) (m : ModulePath) : Prop :=
  ∃ text interface, files.readText (joinPath base m.text).toList = .ok text ∧
    ModuleInterface.ofSource (joinPath base m.text) text = .ok interface

/-- How a module fails: it cannot be read, or what it holds has no interface. -/
def FailsWith (files : FileTree) (base : String) (m : ModulePath) (e : Error) : Prop :=
  (∃ fault, files.readText (joinPath base m.text).toList = .error fault ∧
    e = .scan (joinPath base m.text) (.unreadable fault)) ∨
  ∃ text, files.readText (joinPath base m.text).toList = .ok text ∧
    ModuleInterface.ofSource (joinPath base m.text) text = .error e

section Modules

variable {files : FileTree} {base : String} {m : ModulePath}

theorem exists_readModule_iff :
    (∃ read, readModule files base m = .ok read) ↔ IsSound files base m := by
  unfold readModule IsSound
  dsimp only
  cases files.readText (joinPath base m.text).toList with
  | error fault => exact iff_of_false (fun ⟨_, h⟩ => nomatch h) fun ⟨_, _, h, _⟩ => nomatch h
  | ok text =>
    simp only [Attempt.bind_eq_ok_iff]
    constructor
    · rintro ⟨_, interface, hinterface, -⟩
      exact ⟨text, interface, rfl, hinterface⟩
    · rintro ⟨_, interface, ⟨⟩, hinterface⟩
      exact ⟨_, interface, hinterface, rfl⟩

theorem readModule_eq_error_iff {e : Error} :
    readModule files base m = .error e ↔ FailsWith files base m e := by
  unfold readModule FailsWith
  dsimp only
  cases files.readText (joinPath base m.text).toList with
  | error fault =>
    constructor
    · intro h
      exact Or.inl ⟨fault, rfl, (Except.error.inj h).symm⟩
    · rintro (⟨_, ⟨⟩, rfl⟩ | ⟨_, h, -⟩)
      · rfl
      · exact nomatch h
  | ok text =>
    simp only [Attempt.bind_eq_error_iff]
    constructor
    · rintro (h | ⟨_, -, h⟩)
      · exact Or.inr ⟨text, rfl, h⟩
      · exact nomatch h
    · rintro (⟨_, h, -⟩ | ⟨_, ⟨⟩, h⟩)
      · exact nomatch h
      · exact Or.inl h

end Modules

/-! ## Compiling -/

section Compile

variable {files : FileTree} {config : Config}

/-- **Compiling succeeds** just if the modules are found and all of them are sound. -/
theorem exists_compile_iff :
    (∃ compiled, compile files config = .ok compiled) ↔
      ∃ found, findModules files config.baseDir config.entry = .ok found ∧
        ∀ m ∈ found, IsSound files config.baseDir m := by
  simp only [compile, readModules, Attempt.bind_eq_ok_iff, ← exists_readModule_iff,
    ← Attempt.exists_mapM_eq_ok_iff]
  constructor
  · rintro ⟨_, found, hfound, modules, hmodules, -⟩
    exact ⟨found, hfound, modules, hmodules⟩
  · rintro ⟨found, hfound, modules, hmodules⟩
    exact ⟨_, found, hfound, modules, hmodules, rfl⟩

/-- **Compiling fails** like the search or, if the search ends, like the first module that is not
sound. -/
theorem compile_eq_error_iff {e : Error} :
    compile files config = .error e ↔
      findModules files config.baseDir config.entry = .error e ∨
      ∃ found, findModules files config.baseDir config.entry = .ok found ∧
        ∃ front m back, found = front ++ m :: back ∧
          (∀ x ∈ front, IsSound files config.baseDir x) ∧ FailsWith files config.baseDir m e := by
  simp only [compile, readModules, Attempt.bind_eq_error_iff, Attempt.mapM_eq_error_iff,
    exists_readModule_iff, readModule_eq_error_iff]
  refine or_congr_right (exists_congr fun found => and_congr_right fun _ => ?_)
  exact or_iff_left fun ⟨_, _, h⟩ => nomatch h

end Compile

/-- Modules are found in the order of their paths. -/
theorem pairwise_of_findModules {files : FileTree} {base : String} {exclude : Option String}
    {found : List ModulePath} (h : findModules files base exclude = .ok found) :
    found.Pairwise fun a b => a.text ≤ b.text := by
  obtain ⟨_, -, -, ways, -, rfl⟩ := findModules_eq_ok_iff.1 h
  exact pairwise_mergeSort_le _

/-! ## Runs -/

/-- The run failed with this error and changed nothing: the files are those that were there, and no
program was started.  The error is all that it writes, what is logged left aside. -/
structure Run.IsFailure (r : Run) (files : FileTree) (e : Error) : Prop where
  code : r.code = 1
  report : r.report = .failed e
  files : r.files = files
  launches : r.launches = []
  stdout : r.stdout = ""
  stderr : r.stderr = "Error: " ++ e.message ++ "\n"

theorem Run.isFailure_idle (files : FileTree) (e : Error) :
    (Run.idle files (.failed e)).IsFailure files e where
  code := rfl
  report := rfl
  files := rfl
  launches := rfl
  stdout := rfl
  stderr := String.empty_append

namespace Tool

theorem prepare_eq_error_iff {s : Surroundings} {request : Request} {e : Error} :
    prepare s request = .error e ↔ request.resolve s.files s.workingDir = .error e ∨
      ∃ config, request.resolve s.files s.workingDir = .ok config ∧
        compile s.files config = .error e := by
  simp only [prepare, Attempt.bind_eq_error_iff]
  refine or_congr_right (exists_congr fun config => and_congr_right fun _ => ?_)
  exact or_iff_left fun ⟨_, _, h⟩ => nomatch h

/-- What fails before the program is planned ends the run. -/
theorem isFailure_of_prepare {s : Surroundings} {arguments : List String} {line : CommandLine}
    (hline : CommandLine.ofArguments s.bundler arguments = .ok line)
    (htask : line.task.verb = .build ∨ line.task.verb = .generate) {e : Error}
    (h : prepare s line.task.request = .error e) : (run s arguments).IsFailure s.files e := by
  have hrun : run s arguments = .idle s.files (.failed e) := by
    rw [run, hline]
    dsimp only
    cases hkind : line.task with
    | build request =>
      rw [hkind, Task.request] at h
      rw [perform, hkind]
      dsimp only
      rw [build, h]
    | generate request out json =>
      rw [hkind, Task.request] at h
      rw [perform, hkind]
      dsimp only
      rw [generate, h]
    | watch glob request =>
      rw [hkind] at htask
      exact htask.elim (fun heq => nomatch heq) fun heq => nomatch heq
  exact hrun ▸ Run.isFailure_idle s.files e

/-- **A run that fails before its program is planned leaves nothing behind**, whether the request
makes no sense, the modules are not found or one of them is not sound.  Compiling succeeds just if
the modules are found and all of them are sound; if they are found, it fails like the first one in
the order of their paths that is not. -/
theorem run_of_failure (s : Surroundings) {arguments : List String} {line : CommandLine}
    (hline : CommandLine.ofArguments s.bundler arguments = .ok line)
    (htask : line.task.verb = .build ∨ line.task.verb = .generate) :
    (∀ e, line.task.request.resolve s.files s.workingDir = .error e →
      (run s arguments).IsFailure s.files e) ∧
    ∀ config, line.task.request.resolve s.files s.workingDir = .ok config →
      (∀ e, compile s.files config = .error e → (run s arguments).IsFailure s.files e) ∧
      ((∃ compiled, compile s.files config = .ok compiled) ↔
        ∃ found, findModules s.files config.baseDir config.entry = .ok found ∧
          ∀ m ∈ found, IsSound s.files config.baseDir m) ∧
      (∀ e, findModules s.files config.baseDir config.entry = .error e →
        compile s.files config = .error e) ∧
      ∀ found, findModules s.files config.baseDir config.entry = .ok found →
        (found.Pairwise fun a b => a.text ≤ b.text) ∧
        ∀ e, compile s.files config = .error e ↔
          ∃ front m back, found = front ++ m :: back ∧
            (∀ x ∈ front, IsSound s.files config.baseDir x) ∧
            FailsWith s.files config.baseDir m e := by
  have hfails {e : Error} (h : prepare s line.task.request = .error e) :
      (run s arguments).IsFailure s.files e := isFailure_of_prepare hline htask h
  refine ⟨fun e h => hfails (prepare_eq_error_iff.2 (Or.inl h)), fun config hconfig => ?_⟩
  refine ⟨fun e h => hfails (prepare_eq_error_iff.2 (Or.inr ⟨config, hconfig, h⟩)),
    exists_compile_iff, fun e h => compile_eq_error_iff.2 (Or.inl h), fun found hfound => ?_⟩
  refine ⟨pairwise_of_findModules hfound, fun e => compile_eq_error_iff.trans ?_⟩
  rw [hfound]
  simp

/-- A module that is not sound, and a file that the source would be written to. -/
def brokenFiles : FileTree := ⟨[
  (["cmds".toList], .directory),
  (["cmds".toList, "bad.ts".toList], .file (.text "export function")),
  (["out.ts".toList], .file (.text "// kept"))]⟩

/-- A run that finds these files, with a bundler that cannot be started. -/
def brokenSurroundings : Surroundings :=
  { files := brokenFiles, workingDir := "/", launch := fun _ => .error .notFound, bundler := none
    units := .numbered }

theorem wellFormed_brokenFiles : brokenFiles.WellFormed :=
  ⟨by decide, by decide, by decide⟩

theorem not_isSound_bad : ¬IsSound brokenFiles "/cmds" (wayPath ["bad.ts".toList]) := by
  have hitem : brokenFiles.item? ["cmds".toList, "bad.ts".toList] =
      some (.file (.text "export function")) := by decide
  have hpath : (joinPath "/cmds" (wayPath ["bad.ts".toList]).text).toList =
      FileTree.pathOf ["cmds".toList, "bad.ts".toList] := by decide
  have hread : brokenFiles.readText (joinPath "/cmds" (wayPath ["bad.ts".toList]).text).toList =
      .ok "export function" := by
    rw [hpath]
    exact FileTree.readText_eq_ok
      (wellFormed_brokenFiles.resolve_pathOf (List.cons_ne_nil _ _) hitem rfl) hitem
  have hbroken : (ModuleInterface.ofSource (joinPath "/cmds" (wayPath ["bad.ts".toList]).text)
      "export function").isOk = false := by
    decide +kernel
  rintro ⟨text, interface, htext, hinterface⟩
  rw [← Except.ok.inj (hread.symm.trans htext)] at hinterface
  rw [hinterface] at hbroken
  simp only [Except.isOk, Except.toBool, Bool.true_eq_false] at hbroken

/-- The file is not written, and the bundler is not started. -/
theorem run_of_brokenFiles :
    ∃ e, (run brokenSurroundings ["generate", "--baseDir", "cmds", "--out", "out.ts"]).IsFailure
      brokenFiles e := by
  have hline : CommandLine.ofArguments none ["generate", "--baseDir", "cmds", "--out", "out.ts"] =
      .ok ⟨.generate ⟨none, some "cmds", none⟩ (some "out.ts") false, "bun", "info"⟩ := by
    decide +kernel
  have hconfig : Request.resolve ⟨none, some "cmds", none⟩ brokenFiles "/" =
      .ok ⟨"/cmds", "cli", none, "/"⟩ := by
    decide +kernel
  have hdir : brokenFiles.item? ["cmds".toList] = some .directory := by decide
  have hresolve : brokenFiles.resolve .follow "/cmds".toList = .ok ["cmds".toList] :=
    wellFormed_brokenFiles.resolve_pathOf (List.cons_ne_nil _ _) hdir rfl
  obtain ⟨found, hmodules, -, hfound⟩ :=
    exists_found wellFormed_brokenFiles hresolve hdir (by decide) none
  have hbad : wayPath ["bad.ts".toList] ∈ (found.map wayPath).mergeSort ModulePath.le := by
    refine (List.mergeSort_perm _ _).mem_iff.2 (List.mem_map_of_mem ((hfound _).2 ?_))
    exact ⟨⟨.text "export function", by decide⟩, ⟨_, rfl, by decide⟩, by decide, by decide,
      fun _ h => absurd h.symm (Option.some_ne_none _)⟩
  obtain ⟨hfails, hcompiles, -⟩ :=
    (run_of_failure brokenSurroundings hline (Or.inr rfl)).2 _ hconfig
  cases hcompiled : compile brokenFiles ⟨"/cmds", "cli", none, "/"⟩ with
  | error e => exact ⟨e, hfails e hcompiled⟩
  | ok compiled =>
    obtain ⟨modules, hsame, hsound⟩ := hcompiles.1 ⟨compiled, hcompiled⟩
    rw [← Except.ok.inj (hmodules.symm.trans hsame)] at hsound
    exact absurd (hsound _ hbad) not_isSound_bad

end Tool
end CommandGrove
