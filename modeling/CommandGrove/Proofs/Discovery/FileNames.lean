import CommandGrove.Proofs.Discovery.Modules
import Mathlib.Data.List.TakeWhile

/-!
# The files that hold modules

Whether a file holds a module is seen by what follows the last dot of its name, and the token of the
module is made of the name without one of the known extensions.  Both ways to see an extension are
the same for the name of a file, so every module is found under a name that is rid of it.

## What is here

* `Path.splitExtension_append`, `Path.splitExtension_of_notMem` — what follows the last dot.
* `Path.extension?_eq_some_iff` — a name that begins with no dot has the extension behind its last
  one.
* `Naming.stemBefore?_eq_some_iff`, `Naming.stripExtension_ne_iff` — the names that lose an
  extension, and what is left of them.
* `isModuleFileName_iff` — the main result.
-/

set_option autoImplicit false
namespace CommandGrove

open Text

/-! ## What follows the last dot -/

namespace Path

theorem splitExtension_of_notMem {name : List Char} (h : '.' ∉ name) :
    splitExtension name = (name, none) := by
  have hall : ∀ c ∈ name.reverse, (c != '.') = true := fun c hc =>
    bne_iff_ne.2 fun hdot => h (hdot ▸ List.mem_reverse.1 hc)
  rw [splitExtension, List.takeWhile_eq_self_iff.2 hall, List.reverse_reverse]
  simp

theorem splitExtension_append {stem extension : List Char} (h : '.' ∉ extension) :
    splitExtension (stem ++ '.' :: extension) =
      if stem = [] then ('.' :: extension, none) else (stem, some extension) := by
  have hall : ∀ c ∈ extension.reverse, (c != '.') = true := fun c hc =>
    bne_iff_ne.2 fun hdot => h (hdot ▸ List.mem_reverse.1 hc)
  have hextension :
      ((stem ++ '.' :: extension).reverse.takeWhile (· != '.')).reverse = extension := by
    rw [List.reverse_append, List.reverse_cons, List.append_assoc, List.singleton_append,
      List.takeWhile_append_of_pos hall, List.takeWhile_cons_of_neg (by simp), List.append_nil,
      List.reverse_reverse]
  have hlength : (stem ++ '.' :: extension).length - extension.length - 1 = stem.length := by
    rw [List.length_append, List.length_cons]
    omega
  have hlonger : (extension.length == (stem ++ '.' :: extension).length) = false := by
    rw [beq_eq_false_iff_ne, List.length_append, List.length_cons]
    omega
  rw [splitExtension]
  simp only [hextension, hlength, hlonger, List.take_left, Bool.false_or, List.isEmpty_iff]
  by_cases hstem : stem = []
  · rw [if_pos hstem, if_pos hstem, hstem, List.nil_append]
  · rw [if_neg hstem, if_neg hstem]

/-- A name with a dot is divided by its last one. -/
theorem exists_last_dot {name : List Char} (h : '.' ∈ name) :
    ∃ stem extension, name = stem ++ '.' :: extension ∧ '.' ∉ extension := by
  obtain ⟨front, back, hreverse, hfront⟩ :=
    List.eq_append_cons_of_mem (List.mem_reverse.2 h)
  refine ⟨back.reverse, front.reverse, ?_, fun hmem => hfront (List.mem_reverse.1 hmem)⟩
  rw [← List.reverse_reverse name, hreverse]
  simp

theorem splitExtension_eq_some_iff {name extension : List Char} :
    (splitExtension name).2 = some extension ↔
      ∃ stem, stem ≠ [] ∧ name = stem ++ '.' :: extension ∧ '.' ∉ extension := by
  constructor
  · intro h
    by_cases hdot : '.' ∈ name
    · obtain ⟨stem, behind, rfl, hbehind⟩ := exists_last_dot hdot
      rw [splitExtension_append hbehind] at h
      split at h
      · exact nomatch h
      · next hstem =>
        obtain rfl := Option.some.inj h
        exact ⟨stem, hstem, rfl, hbehind⟩
    · rw [splitExtension_of_notMem hdot] at h
      exact nomatch h
  · rintro ⟨stem, hstem, rfl, hextension⟩
    rw [splitExtension_append hextension, if_neg hstem]

/-- **The extension of a name** that begins with no dot stands behind its last one. -/
theorem extension?_eq_some_iff {name extension : List Char} (hslash : '/' ∉ name)
    (hdot : name.head? ≠ some '.') :
    extension? name = some extension ↔
      ∃ stem, stem ≠ [] ∧ name = stem ++ '.' :: extension ∧ '.' ∉ extension := by
  rw [← splitExtension_eq_some_iff]
  by_cases hne : name = []
  · rw [hne]
    rfl
  · have hvoid : ¬(name = [] ∨ name = ['.']) := by
      rintro (rfl | rfl)
      · exact hne rfl
      · exact hdot rfl
    have hup : name ≠ ['.', '.'] := by
      rintro rfl
      exact hdot rfl
    have hsplit : split name = [name] := splitOn_of_notMem hslash
    have hfront : frontComponent name = [] := by
      have hhere : name ≠ ['.'] := fun h => hvoid (Or.inr h)
      simp [frontComponent, isAbsolute_of_notMem hslash, hsplit, hhere]
    have hcomponents : components name = [.name name] := by
      rw [components, hfront, hsplit, List.nil_append,
        List.filterMap_cons_some (component?_eq_name hvoid hup), List.filterMap_nil]
    rw [extension?, fileName?, hcomponents]
    rfl

end Path

/-! ## Names without their extensions -/

namespace Naming

theorem stripSuffix?_eq_some_iff {mark text rest : List Char} :
    stripSuffix? mark text = some rest ↔ text = rest ++ mark := by
  rw [stripSuffix?, Option.map_eq_some_iff]
  constructor
  · rintro ⟨reversed, hreversed, rfl⟩
    rw [← List.reverse_reverse text, stripPrefix?_eq_some_iff.1 hreversed]
    simp
  · rintro rfl
    refine ⟨rest.reverse, ?_, List.reverse_reverse rest⟩
    rw [List.reverse_append, stripPrefix?_append]

theorem stemBefore?_eq_some_iff {extension path stem : List Char} :
    stemBefore? extension path = some stem ↔
      path = stem ++ '.' :: extension ∧ stem ≠ [] ∧ stem.getLast? ≠ some '/' := by
  rw [stemBefore?, Option.filter_eq_some_iff, Option.bind_eq_some_iff]
  simp only [stripSuffix?_eq_some_iff, Bool.and_eq_true, Bool.not_eq_true', bne_iff_ne,
    List.isEmpty_eq_false_iff]
  refine and_congr_left fun _ => ⟨?_, fun h => ⟨stem ++ ['.'], ?_, rfl⟩⟩
  · rintro ⟨front, rfl, rfl⟩
    simp
  · simp [h]

/-- A path either loses the extension of a module or has none to lose. -/
theorem stripExtension_cases (path : String) :
    (∃ stem, ∃ extension ∈ extensions, stemBefore? extension path.toList = some stem ∧
      stripExtension path = String.ofList stem) ∨
    ((∀ extension ∈ extensions, stemBefore? extension path.toList = none) ∧
      stripExtension path = path) := by
  unfold stripExtension
  cases h : extensions.findSome? fun e => stemBefore? e path.toList with
  | some stem =>
    obtain ⟨extension, hextension, hstem⟩ := List.exists_of_findSome?_eq_some h
    exact Or.inl ⟨stem, extension, hextension, hstem, rfl⟩
  | none => exact Or.inr ⟨List.findSome?_eq_none_iff.1 h, rfl⟩

/-- What is left of a path that loses an extension. -/
theorem stripExtension_ne_iff {path : String} :
    stripExtension path ≠ path ↔ ∃ stem, ∃ extension ∈ extensions,
      stemBefore? extension path.toList = some stem ∧ stripExtension path = String.ofList stem := by
  constructor
  · intro hne
    rcases stripExtension_cases path with h | ⟨-, h⟩
    · exact h
    · exact absurd h hne
  · rintro ⟨stem, extension, -, hstem, hstrip⟩ hsame
    have hpath : path.toList = stem := by rw [← hsame, hstrip, String.toList_ofList]
    have hlength := congrArg List.length (stemBefore?_eq_some_iff.1 hstem).1
    rw [hpath, List.length_append, List.length_cons] at hlength
    omega

/-- **A name that loses an extension** is what is left, and the extension behind it. -/
theorem append_of_stripExtension_ne {path : String} (h : stripExtension path ≠ path) :
    (path = stripExtension path ++ ".ts" ∨ path = stripExtension path ++ ".js") ∧
      stripExtension path ≠ "" ∧ (stripExtension path).toList.head? = path.toList.head? := by
  obtain ⟨stem, extension, hextension, hstem, hstrip⟩ := stripExtension_ne_iff.1 h
  obtain ⟨hpath, hne, -⟩ := stemBefore?_eq_some_iff.1 hstem
  rw [hstrip, String.toList_ofList]
  refine ⟨?_, ?_, ?_⟩
  · simp only [← String.toList_inj, String.toList_append, String.toList_ofList, hpath]
    simp only [extensions, List.mem_cons, List.not_mem_nil, or_false] at hextension
    rcases hextension with rfl | rfl
    · exact Or.inl rfl
    · exact Or.inr rfl
  · rw [Ne, ← String.toList_inj, String.toList_ofList]
    exact hne
  · rw [hpath, List.head?_append_of_ne_nil _ hne]

/-- **Both ways to see the extension of a module agree** on the name of a file. -/
theorem exists_extension?_iff {name : String} (hslash : '/' ∉ name.toList)
    (hdot : name.toList.head? ≠ some '.') :
    (∃ extension ∈ extensions, Path.extension? name.toList = some extension) ↔
      stripExtension name ≠ name := by
  constructor
  · rintro ⟨extension, hmem, hextension⟩
    obtain ⟨stem, hne, hname, -⟩ := (Path.extension?_eq_some_iff hslash hdot).1 hextension
    have hlast : stem.getLast? ≠ some '/' := fun hlast =>
      hslash (hname ▸ List.mem_append_left _ (List.mem_of_getLast? hlast))
    have hstem := stemBefore?_eq_some_iff.2 ⟨hname, hne, hlast⟩
    rcases stripExtension_cases name with h | ⟨hnone, -⟩
    · exact stripExtension_ne_iff.2 h
    · exact absurd (hnone extension hmem) (by rw [hstem]; exact Option.some_ne_none stem)
  · intro h
    obtain ⟨stem, extension, hmem, hstem, -⟩ := stripExtension_ne_iff.1 h
    obtain ⟨hname, hne, -⟩ := stemBefore?_eq_some_iff.1 hstem
    have hnodot : ∀ extension ∈ extensions, '.' ∉ extension := by decide
    exact ⟨extension, hmem, (Path.extension?_eq_some_iff hslash hdot).2
      ⟨stem, hne, hname, hnodot extension hmem⟩⟩

end Naming

/-! ## Files that hold modules -/

/-- **The search and the names agree on what a module is.**  The name of a file is one of a module
just if it does not begin with `.` or `_`, does not end in `.d.ts`, and loses something when it is
rid of the extension of a module.  It is then what is left, which is not empty and begins with
neither, and `.ts` or `.js`. -/
theorem isModuleFileName_iff {name : String} (hslash : '/' ∉ name.toList) :
    (isModuleFileName name.toList = true ↔
      name.toList.head? ≠ some '.' ∧ name.toList.head? ≠ some '_' ∧
        ¬".d.ts".toList <:+ name.toList ∧ Naming.stripExtension name ≠ name) ∧
    (isModuleFileName name.toList = true →
      (name = Naming.stripExtension name ++ ".ts" ∨ name = Naming.stripExtension name ++ ".js") ∧
      Naming.stripExtension name ≠ "" ∧
      (Naming.stripExtension name).toList.head? ≠ some '.' ∧
      (Naming.stripExtension name).toList.head? ≠ some '_') := by
  have hiff : isModuleFileName name.toList = true ↔
      name.toList.head? ≠ some '.' ∧ name.toList.head? ≠ some '_' ∧
        ¬".d.ts".toList <:+ name.toList ∧ Naming.stripExtension name ≠ name := by
    rw [isModuleFileName, Bool.and_eq_true, Bool.and_eq_true, Bool.not_eq_true',
      isPrivateName_eq_false_iff, and_assoc, and_assoc]
    refine and_congr_right fun hdot => and_congr_right fun _ => and_congr ?_ ?_
    · rw [Bool.not_eq_true', ← Bool.not_eq_true, List.isSuffixOf_iff_suffix]
      rfl
    · rw [← Naming.exists_extension?_iff hslash hdot]
      simp [Option.any_eq_true, and_comm]
  refine ⟨hiff, fun hmodule => ?_⟩
  obtain ⟨hdot, hunderscore, -, hne⟩ := hiff.1 hmodule
  obtain ⟨hname, hstem, hhead⟩ := Naming.append_of_stripExtension_ne hne
  exact ⟨hname, hstem, hhead ▸ hdot, hhead ▸ hunderscore⟩

/-- Of two extensions in a row the last one goes. -/
theorem isModuleFileName_iff_of_two_extensions :
    '/' ∉ "db.js.ts".toList ∧ isModuleFileName "db.js.ts".toList = true ∧
      Naming.stripExtension "db.js.ts" ≠ "db.js.ts" := by
  have hslash : '/' ∉ "db.js.ts".toList := by decide
  have hmodule : isModuleFileName "db.js.ts".toList = true := by decide
  exact ⟨hslash, hmodule, ((isModuleFileName_iff hslash).1.1 hmodule).2.2.2⟩

end CommandGrove
