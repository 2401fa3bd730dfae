import CommandGrove.Bundler
import CommandGrove.Proofs.Files.NewFiles

/-!
# Units come and go

While a bundler runs, the unit holds the source.  Before and behind, nothing is at the path of the
unit, and whatever the bundler did to the files stays as it is: whether the unit could not be made or
not be written to its end, the bundler could not be started, failed, was ended by a signal, took the
unit away itself or made an executable.

## What is here

* `isPieceName_of_isUnitName`, `Units.isSound_numbered` — the names of units, and why one that has a
  number is always free.
* `Units.filled_of_create` — what is in a unit that was made, and what is left without it.
* `Bundle.Course` — what comes of making an executable, told by what its steps do.
* `Bundle.course_run` — the main result: that is what comes of it.
-/

set_option autoImplicit false
namespace CommandGrove

/-! ## Names of units -/

theorem toList_joinPath (base path : String) :
    (joinPath base path).toList = Path.join base.toList path.toList := String.toList_ofList

/-- The digits in the name of a unit, zeros in front included. -/
def unitNumber (n : Nat) : List Char :=
  List.replicate (unitDigits - (Nat.toDigits 10 n).length) '0' ++ Nat.toDigits 10 n

theorem toList_unitName (n : Nat) :
    (unitName n).toList = unitMark.toList ++ (unitNumber n ++ unitExtension.toList) := by
  simp [unitName, unitNumber]

theorem ofDigitChars_unitNumber (n : Nat) : Nat.ofDigitChars 10 (unitNumber n) 0 = n := by
  rw [unitNumber, Nat.ofDigitChars_append, Nat.ofDigitChars_replicate_zero, Nat.mul_zero,
    Nat.ofDigitChars_ten_toDigits]

theorem unitName_inj {n k : Nat} (h : unitName n = unitName k) : n = k := by
  have hlists := congrArg String.toList h
  rw [toList_unitName, toList_unitName, List.append_cancel_left_eq,
    List.append_cancel_right_eq] at hlists
  rw [← ofDigitChars_unitNumber n, hlists, ofDigitChars_unitNumber]

/-- A number has no slash in it, so what stands around it makes the name of a unit. -/
theorem isUnitName_unitName (n : Nat) : IsUnitName (unitName n) := by
  refine ⟨String.ofList (unitNumber n), ?_, rfl⟩
  have hdigit : ∀ c ∈ Nat.toDigits 10 n, c ≠ '/' := by
    rintro c hc rfl
    exact absurd (Nat.isDigit_of_mem_toDigits (by decide) (by decide) hc) (by decide)
  rw [String.toList_ofList]
  intro h
  rcases List.mem_append.1 h with h | h
  · exact absurd (List.eq_of_mem_replicate h) (by decide)
  · exact hdigit _ h rfl

/-- Put behind a directory, the name of a unit is the name of an item in it. -/
theorem isPieceName_of_isUnitName {name : String} (h : IsUnitName name) :
    IsPieceName name.toList := by
  obtain ⟨middle, hmiddle, rfl⟩ := h
  have hmark : unitMark.toList.length = 11 := by decide
  have hlong : 2 < (unitMark ++ middle ++ unitExtension).toList.length := by
    rw [String.toList_append, String.toList_append, List.length_append, List.length_append, hmark]
    omega
  constructor
  · refine Path.component?_eq_name (fun h => ?_) fun h => ?_
    · rcases h with h | h <;> rw [h] at hlong <;> exact absurd hlong (by decide)
    · rw [h] at hlong
      exact absurd hlong (by decide)
  · have hslash : '/' ∉ unitMark.toList := by decide
    have hextension : '/' ∉ unitExtension.toList := by decide
    simp [hslash, hmiddle, hextension]

/-! ## Names that are free -/

section Paths

variable {files : FileTree} {workingDir : String}

theorem isTaken_eq_false_iff {path : String} :
    isTaken files path = false ↔ ∀ place, files.resolve .keep path.toList ≠ .ok place := by
  rw [isTaken]
  cases files.resolve .keep path.toList with
  | error fault => simp [Except.toBool]
  | ok place => simp [Except.toBool]

/-- The names of items in one directory are fewer than there are items, so not all names of units
are taken. -/
theorem exists_free_unit (files : FileTree) (workingDir : String) :
    ∃ n ∈ List.range (files.items.length + 1),
      isTaken files (joinPath workingDir (unitName n)) = false := by
  by_contra hall
  have htaken : ∀ n ∈ List.range (files.items.length + 1), ∃ dir,
      files.LeadsInto workingDir.toList dir ∧
        ∃ item, files.item? (dir ++ [(unitName n).toList]) = some item := by
    intro n hn
    have hfree : ¬isTaken files (joinPath workingDir (unitName n)) = false :=
      fun h => hall ⟨n, hn, h⟩
    rw [isTaken_eq_false_iff, not_forall] at hfree
    obtain ⟨place, hplace⟩ := hfree
    rw [toList_joinPath, Ne, not_not] at hplace
    obtain ⟨-, dir, hdir, rfl, hitem⟩ :=
      (FileTree.resolve_keep_join_iff
        (isPieceName_of_isUnitName (isUnitName_unitName n))).1 hplace
    exact ⟨dir, hdir, hitem⟩
  obtain ⟨dir, hdir, -⟩ := htaken 0 (List.mem_range.2 (Nat.succ_pos _))
  let places := (List.range (files.items.length + 1)).map fun n => dir ++ [(unitName n).toList]
  have hnodup : places.Nodup := by
    refine List.Nodup.map (fun n k h => ?_) List.nodup_range
    exact unitName_inj (String.toList_inj.1 (List.cons.inj (List.append_cancel_left h)).1)
  have hsubset : places ⊆ files.items.map Prod.fst := by
    intro place hplace
    obtain ⟨n, hn, rfl⟩ := List.mem_map.1 hplace
    obtain ⟨dir', hdir', item, hitem⟩ := htaken n hn
    rw [← hdir.unique hdir'] at hitem
    exact List.mem_map_of_mem (f := Prod.fst) (FileTree.mem_items_of_item? (by simp) hitem)
  have hlength := (hnodup.subperm hsubset).length_le
  rw [List.length_map, List.length_map, List.length_range] at hlength
  omega

/-- **The first number that is free** is no larger than the number of items. -/
theorem exists_freeUnitName (files : FileTree) (workingDir : String) :
    ∃ n ≤ files.items.length, freeUnitName files workingDir = unitName n ∧
      isTaken files (joinPath workingDir (unitName n)) = false := by
  obtain ⟨n, hn, hfree⟩ := exists_free_unit files workingDir
  rw [freeUnitName]
  cases hfound : List.find? _ _ with
  | none =>
    have hnone := List.find?_eq_none.1 hfound _ (List.mem_map_of_mem hn)
    simp [hfree] at hnone
  | some name =>
    obtain ⟨k, hk, rfl⟩ := List.mem_map.1 (List.mem_of_find?_eq_some hfound)
    exact ⟨k, Nat.le_of_lt_succ (List.mem_range.1 hk), rfl, by simpa using List.find?_some hfound⟩

/-- Units with numbers are called as units are, and get what is free. -/
theorem Units.isSound_numbered : Units.numbered.IsSound where
  isUnitName files workingDir := by
    obtain ⟨n, -, hname, -⟩ := exists_freeUnitName files workingDir
    change IsUnitName (freeUnitName files workingDir)
    exact hname ▸ isUnitName_unitName n
  isFree files workingDir := by
    obtain ⟨n, -, hname, hfree⟩ := exists_freeUnitName files workingDir
    change isTaken files (joinPath workingDir (freeUnitName files workingDir)) = false
    rw [hname, hfree]

end Paths

/-! ## Taking a unit away -/

/-- What is at a path, if anything, is a file that can be removed. -/
structure FileTree.IsRemovable (t : FileTree) (path : List Char) : Prop where
  wellFormed : t.WellFormed
  item? : ∀ place, t.resolve .keep path = .ok place → t.item? place ≠ some .directory

theorem discard_eq_self {t : FileTree} {path : String} (h : isTaken t path = false) :
    discard t path = t := by
  unfold discard FileTree.removeFile
  cases hplace : t.resolve .keep path.toList with
  | error fault => rfl
  | ok place => exact absurd hplace (isTaken_eq_false_iff.1 h place)

theorem discard_of_resolve {t : FileTree} {path : String} {place : Location}
    (hplace : t.resolve .keep path.toList = .ok place) (hdir : t.item? place ≠ some .directory) :
    discard t path = t.drop place := by
  unfold discard FileTree.removeFile
  rw [hplace]
  simp only [hdir, if_false]

/-- **A unit that is taken away is gone**, whether it was there or not, and nothing else is
changed. -/
theorem discard_joinPath {t : FileTree} {base name : String} (hname : IsPieceName name.toList)
    (h : t.IsRemovable (joinPath base name).toList) :
    isTaken (discard t (joinPath base name)) (joinPath base name) = false ∧
      t.AgreesApart (discard t (joinPath base name)) (joinPath base name).toList := by
  cases hplace : t.resolve .keep (joinPath base name).toList with
  | error fault =>
    have hfree : isTaken t (joinPath base name) = false :=
      isTaken_eq_false_iff.2 fun place h => nomatch hplace.symm.trans h
    rw [discard_eq_self hfree]
    exact ⟨hfree, fun _ _ _ => rfl⟩
  | ok place =>
    have hdir := h.item? place hplace
    rw [discard_of_resolve hplace hdir, isTaken_eq_false_iff]
    rw [toList_joinPath] at hplace ⊢
    exact FileTree.drop_join hname h.wellFormed hplace hdir

/-! ## Making a unit -/

namespace Units

variable {u : Units} {files created : FileTree} {workingDir : String}

theorem createFile_of_create (h : u.create files workingDir = .ok created) :
    files.createFile (u.path files workingDir).toList (.text "") = .ok created := by
  unfold create at h
  split at h
  · cases h
  · exact h

/-- A unit with a text in it is what making it with the text in one step gives. -/
theorem createFile_of_fill (hu : u.IsSound) (h : u.create files workingDir = .ok created)
    (text : String) :
    files.createFile (u.path files workingDir).toList (.text text) =
      .ok (fill created (u.path files workingDir) text) := by
  have hname := isPieceName_of_isUnitName (hu.isUnitName files workingDir)
  have hcreate := createFile_of_create h
  rw [path, toList_joinPath] at hcreate
  obtain ⟨written, hwrite, hwritten⟩ := FileTree.write_of_createFile hname hcreate
  rw [← toList_joinPath, ← path] at hwrite hwritten
  rw [hwritten, fill, hwrite]

/-- **A unit that was made** holds what was written into it.  All else is as it was, and without the
unit the files are those from before. -/
theorem filled_of_create (hu : u.IsSound) (h : u.create files workingDir = .ok created)
    (text : String) :
    (fill created (u.path files workingDir) text).readText (u.path files workingDir).toList =
        .ok text ∧
      files.AgreesApart (fill created (u.path files workingDir) text)
        (u.path files workingDir).toList ∧
      (files.WellFormed →
        discard (fill created (u.path files workingDir) text) (u.path files workingDir) = files) := by
  have hname := isPieceName_of_isUnitName (hu.isUnitName files workingDir)
  have hfill := createFile_of_fill hu h text
  have hpath : (u.path files workingDir).toList =
      Path.join workingDir.toList (u.name files workingDir).toList := toList_joinPath _ _
  rw [hpath] at hfill
  obtain ⟨htext, hapart, place, hplace, hdir, hback⟩ := FileTree.createFile_join hname hfill
  rw [← hpath] at htext hapart hplace
  exact ⟨htext, hapart, fun hwell => (discard_of_resolve hplace hdir).trans (hback hwell)⟩

/-- **A file can be made for the unit** if the working directory is a directory, and only then. -/
theorem exists_createFile_iff (hu : u.IsSound)
    (hshort : FileTree.isTooLong (u.name files workingDir).toList = false) {content : Content} :
    (∃ created, files.createFile (u.path files workingDir).toList content = .ok created) ↔
      ∃ dir, files.LeadsInto workingDir.toList dir := by
  have hname := isPieceName_of_isUnitName (hu.isUnitName files workingDir)
  have hfree := hu.isFree files workingDir
  rw [isTaken_eq_false_iff, path, toList_joinPath] at hfree
  rw [path, toList_joinPath]
  constructor
  · rintro ⟨created, hcreated⟩
    obtain ⟨-, dir, hdir, -⟩ := (FileTree.createFile_join_iff hname).1 hcreated
    exact ⟨dir, hdir⟩
  · rintro ⟨dir, hdir⟩
    have hnone : files.item? (dir ++ [(u.name files workingDir).toList]) = none := by
      refine Option.eq_none_iff_forall_ne_some.2 fun item hitem =>
        hfree (dir ++ [(u.name files workingDir).toList]) ?_
      exact (FileTree.resolve_keep_join_iff hname).2 ⟨hshort, dir, hdir, rfl, item, hitem⟩
    exact ⟨_, (FileTree.createFile_join_iff hname).2 ⟨hshort, dir, hdir, hnone, rfl⟩⟩

end Units

/-! ## Making executables -/

namespace Bundle

/-- The path of the unit that a bundle is made from. -/
def unit (b : Bundle) (u : Units) (files : FileTree) : String := u.path files b.workingDir

/-- The start of the bundler, once the unit is written. -/
def start (b : Bundle) (unit : String) (written : FileTree) : Launch where
  program := b.bundler
  workingDir := b.workingDir
  arguments := ["build", unit, "--compile", "--outfile", b.name]
  files := written

/-- An exit code other than 0, or none, is a failure. -/
theorem outcome_of_ne_zero (b : Bundle) {code : Option Nat} (h : code ≠ some 0) :
    b.outcome code = .error (.build (code.map Int.ofNat)) := by
  unfold outcome
  split
  · exact absurd rfl h
  · rfl

/-- What comes of making an executable, told by what its steps do. -/
structure Course (b : Bundle) (u : Units) (launch : Launcher) (files : FileTree) (made : Bundled) :
    Prop where
  /-- Nothing is in the way of the unit. -/
  free : isTaken files (b.unit u files) = false
  /-- The unit cannot be made: the bundler is not started. -/
  unmade : ∀ fault, u.create files b.workingDir = .error fault →
    made.result = .error (.write b.workingDir fault) ∧ made.launches = [] ∧ made.files = files
  /-- The unit is made, but the source does not get into it to its end: the bundler is not started,
  and the files are as they were. -/
  unwritten : ∀ created, u.create files b.workingDir = .ok created →
    ∀ written fault, u.cut created b.source = some (written, fault) →
      made.result = .error (.write b.workingDir fault) ∧ made.launches = [] ∧ made.files = files
  /-- The bundler is started once, with the source in the unit and all else as it was. -/
  started : ∀ created, u.create files b.workingDir = .ok created → u.cut created b.source = none →
    ∃ written, made.launches = [b.start (b.unit u files) written] ∧
      written.readText (b.unit u files).toList = .ok b.source ∧
      files.AgreesApart written (b.unit u files).toList
  /-- The bundler cannot be started: the files are as they were. -/
  unstarted : ∀ start ∈ made.launches, ∀ fault, launch start = .error fault →
    made.result = .error (.spawn b.bundler fault) ∧ made.files = files
  /-- The bundler ends: its exit code decides, and all else is as it left it. -/
  ended : ∀ start ∈ made.launches, ∀ ended, launch start = .ok ended →
    (ended.code = some 0 → made.result = .ok (joinPath b.workingDir b.name)) ∧
    (ended.code ≠ some 0 → made.result = .error (.build (ended.code.map Int.ofNat))) ∧
    (ended.files.IsRemovable (b.unit u files).toList →
      ended.files.AgreesApart made.files (b.unit u files).toList)
  /-- In every case nothing is at the path of the unit at the end. -/
  gone : (∀ start ∈ made.launches, ∀ ended, launch start = .ok ended →
      ended.files.IsRemovable (b.unit u files).toList) →
    isTaken made.files (b.unit u files) = false

section Steps

variable {b : Bundle} {u : Units} {launch : Launcher} {files created : FileTree}

/-- Without a unit the bundler is not started, and that is all. -/
theorem run_of_write_eq_error {fault : SystemFault} {left : FileTree}
    (h : u.write files b.workingDir b.source = .error (fault, left)) :
    b.run u launch files =
      { files := left, launches := [], output := "", errors := ""
        result := .error (.write b.workingDir fault) } := by
  simp only [run, h]

theorem course_of_unmade (hu : u.IsSound) {fault : SystemFault}
    (h : u.create files b.workingDir = .error fault) :
    b.Course u launch files (b.run u launch files) := by
  have hfree := hu.isFree files b.workingDir
  have hwrite : u.write files b.workingDir b.source = .error (fault, files) := by
    simp only [Units.write, h]
  rw [run_of_write_eq_error hwrite]
  refine ⟨hfree, fun other hother => ?_, ?_, ?_, by simp, by simp, fun _ => hfree⟩
  · rw [Except.error.inj (h.symm.trans hother)]
    exact ⟨rfl, rfl, rfl⟩
  all_goals exact fun created hcreated => nomatch h.symm.trans hcreated

theorem course_of_cut (hwell : files.WellFormed) (hu : u.IsSound)
    (h : u.create files b.workingDir = .ok created) {written : String} {fault : SystemFault}
    (hcut : u.cut created b.source = some (written, fault)) :
    b.Course u launch files (b.run u launch files) := by
  have hfree := hu.isFree files b.workingDir
  obtain ⟨-, -, hback⟩ := Units.filled_of_create hu h written
  have hwrite : u.write files b.workingDir b.source = .error (fault, files) := by
    simp only [Units.write, h, hcut, hback hwell]
  rw [run_of_write_eq_error hwrite]
  refine ⟨hfree, fun _ hfault => (nomatch h.symm.trans hfault),
    fun other hother written' fault' hcut' => ?_, fun other hother hwhole => ?_, by simp, by simp,
    fun _ => hfree⟩
  all_goals cases Except.ok.inj (h.symm.trans hother)
  · rw [(Prod.mk.inj (Option.some.inj (hcut.symm.trans hcut'))).2]
    exact ⟨rfl, rfl, rfl⟩
  · exact nomatch hcut.symm.trans hwhole

/-- With a unit the bundler is started, and the unit is taken away again. -/
theorem run_of_write_eq_ok {written : FileTree}
    (h : u.write files b.workingDir b.source = .ok written) :
    b.run u launch files =
      match launch (b.start (b.unit u files) written) with
      | .error fault =>
        { files := discard written (b.unit u files), output := "", errors := ""
          launches := [b.start (b.unit u files) written], result := .error (.spawn b.bundler fault) }
      | .ok ended =>
        { files := discard ended.files (b.unit u files), output := ended.output
          errors := ended.errors, launches := [b.start (b.unit u files) written]
          result := b.outcome ended.code } := by
  simp only [run, h]
  rfl

/-- The files that the bundler finds. -/
theorem write_of_create (h : u.create files b.workingDir = .ok created)
    (hwhole : u.cut created b.source = none) :
    u.write files b.workingDir b.source = .ok (fill created (b.unit u files) b.source) := by
  simp only [Units.write, h, hwhole, unit]

theorem course_of_unstarted (hwell : files.WellFormed) (hu : u.IsSound)
    (h : u.create files b.workingDir = .ok created) (hwhole : u.cut created b.source = none)
    {fault : SystemFault}
    (hlaunch : launch (b.start (b.unit u files) (fill created (b.unit u files) b.source)) =
      .error fault) :
    b.Course u launch files (b.run u launch files) := by
  have hfree := hu.isFree files b.workingDir
  obtain ⟨htext, hapart, hback⟩ := Units.filled_of_create hu h b.source
  have hrun : b.run u launch files =
      { files := files
        launches := [b.start (b.unit u files) (fill created (b.unit u files) b.source)]
        output := "", errors := "", result := .error (.spawn b.bundler fault) } := by
    rw [run_of_write_eq_ok (write_of_create h hwhole), hlaunch]
    simp only [unit, hback hwell]
  rw [hrun]
  refine ⟨hfree, fun _ hfault => (nomatch h.symm.trans hfault), fun other hother _ _ hcut => ?_,
    fun other hother _ => ?_, fun _ hstart fault' hfault => ?_, fun _ hstart ended hended => ?_,
    fun _ => hfree⟩
  · cases Except.ok.inj (h.symm.trans hother)
    exact nomatch hwhole.symm.trans hcut
  · exact ⟨_, rfl, htext, hapart⟩
  all_goals cases List.mem_singleton.1 hstart
  · rw [Except.error.inj (hlaunch.symm.trans hfault)]
    exact ⟨rfl, rfl⟩
  · exact nomatch hlaunch.symm.trans hended

theorem course_of_ended (hu : u.IsSound) (h : u.create files b.workingDir = .ok created)
    (hwhole : u.cut created b.source = none) {ended : Ended}
    (hlaunch : launch (b.start (b.unit u files) (fill created (b.unit u files) b.source)) =
      .ok ended) :
    b.Course u launch files (b.run u launch files) := by
  obtain ⟨htext, hapart, -⟩ := Units.filled_of_create hu h b.source
  have htidy : ended.files.IsRemovable (b.unit u files).toList →
      isTaken (discard ended.files (b.unit u files)) (b.unit u files) = false ∧
        ended.files.AgreesApart (discard ended.files (b.unit u files)) (b.unit u files).toList :=
    discard_joinPath (isPieceName_of_isUnitName (hu.isUnitName files b.workingDir))
  have hrun : b.run u launch files =
      { files := discard ended.files (b.unit u files)
        launches := [b.start (b.unit u files) (fill created (b.unit u files) b.source)]
        output := ended.output, errors := ended.errors, result := b.outcome ended.code } := by
    rw [run_of_write_eq_ok (write_of_create h hwhole), hlaunch]
  rw [hrun]
  refine ⟨hu.isFree files b.workingDir, fun _ hfault => (nomatch h.symm.trans hfault),
    fun other hother _ _ hcut => ?_, fun other hother _ => ?_, fun _ hstart fault hfault => ?_,
    fun _ hstart ended' hended => ?_, fun hremovable => ?_⟩
  · cases Except.ok.inj (h.symm.trans hother)
    exact nomatch hwhole.symm.trans hcut
  · exact ⟨_, rfl, htext, hapart⟩
  · cases List.mem_singleton.1 hstart
    exact nomatch hlaunch.symm.trans hfault
  · cases List.mem_singleton.1 hstart
    cases Except.ok.inj (hlaunch.symm.trans hended)
    exact ⟨fun hcode => congrArg b.outcome hcode, outcome_of_ne_zero b,
      fun hremovable => (htidy hremovable).2⟩
  · exact (htidy (hremovable _ (List.mem_singleton_self _) ended hlaunch)).1

end Steps

/-- **The unit is there while the bundler runs, and only then.**  The bundler is started once, with
the source in the unit, unless the unit cannot be made or written; the result is told by the step
that failed or by the exit code; in the end nothing is at the path of the unit and all else is as the
bundler left it. -/
theorem course_run (b : Bundle) (u : Units) (launch : Launcher) (files : FileTree)
    (h : files.WellFormed) (hu : u.IsSound) :
    b.Course u launch files (b.run u launch files) := by
  cases hcreate : u.create files b.workingDir with
  | error fault => exact course_of_unmade hu hcreate
  | ok created =>
    cases hcut : u.cut created b.source with
    | some written => exact course_of_cut h hu hcreate hcut
    | none =>
      cases hlaunch : launch
          (b.start (b.unit u files) (fill created (b.unit u files) b.source)) with
      | error fault => exact course_of_unstarted h hu hcreate hcut hlaunch
      | ok ended => exact course_of_ended hu hcreate hcut hlaunch

/-- A working directory with nothing in it. -/
def workFiles : FileTree := ⟨[(["work".toList], .directory)]⟩

/-- A bundler that takes the unit away itself and fails. -/
def failingBundler : Launcher := fun _ => .ok ⟨workFiles, some 3, "", ""⟩

/-- A disk on which the space ends behind two letters of the source. -/
def fullDisk : Units := { Units.numbered with cut := fun _ _ => some ("co", .noSpace) }

/-- What is to be made in it. -/
def toolBundle : Bundle := ⟨"code", "tool", "/work", "bun"⟩

/-- The failure of the bundler is reported, and so is that of writing; nothing is left of either. -/
theorem course_run_of_failingBundler :
    workFiles.WellFormed ∧ Units.numbered.IsSound ∧
      (toolBundle.run .numbered failingBundler workFiles).result = .error (.build (some 3)) ∧
      isTaken (toolBundle.run .numbered failingBundler workFiles).files
        (toolBundle.unit .numbered workFiles) = false ∧
      fullDisk.IsSound ∧
      (toolBundle.run fullDisk failingBundler workFiles).result =
        .error (.write "/work" .noSpace) ∧
      (toolBundle.run fullDisk failingBundler workFiles).files = workFiles := by
  have hwell : workFiles.WellFormed := ⟨by decide, by decide, by decide⟩
  have hfull : fullDisk.IsSound := ⟨Units.isSound_numbered.1, Units.isSound_numbered.2⟩
  have hcourse := course_run toolBundle .numbered failingBundler workFiles hwell
    Units.isSound_numbered
  have hcourse' := course_run toolBundle fullDisk failingBundler workFiles hwell hfull
  have hitem : workFiles.item? ["work".toList] = some .directory := by decide
  have hdir : workFiles.LeadsInto "/work".toList ["work".toList] :=
    ⟨⟨_, .void FileTree.item?_root rfl (FileTree.walks_name FileTree.item?_root (by decide) hitem rfl)⟩,
      hitem⟩
  have hshort : FileTree.isTooLong (Units.numbered.name workFiles "/work").toList = false := by
    obtain ⟨n, hn, hname, -⟩ := exists_freeUnitName workFiles "/work"
    rw [show Units.numbered.name workFiles "/work" = unitName n from hname]
    have hall : ∀ n ≤ workFiles.items.length,
        FileTree.isTooLong (unitName n).toList = false := by decide
    exact hall n hn
  obtain ⟨created, hcreated⟩ : ∃ created, Units.numbered.create workFiles "/work" = .ok created :=
    (Units.exists_createFile_iff Units.isSound_numbered hshort).2 ⟨_, hdir⟩
  obtain ⟨written, hlaunches, -, -⟩ := hcourse.started created hcreated rfl
  have hfree := isTaken_eq_false_iff.1 hcourse.free
  obtain ⟨hfailed, -, hsame⟩ := hcourse'.unwritten created hcreated _ _ rfl
  refine ⟨hwell, Units.isSound_numbered, ?_, ?_, hfull, hfailed, hsame⟩
  · exact (hcourse.ended _ (hlaunches ▸ List.mem_singleton_self _) _ rfl).2.1 (by decide)
  · exact hcourse.gone fun _ _ _ hended =>
      Except.ok.inj hended ▸ ⟨hwell, fun place h => absurd h (hfree place)⟩

end Bundle
end CommandGrove
