import CommandGrove.Proofs.Files.Below
import CommandGrove.Proofs.Watch.Histories
import CommandGrove.Tool
import Mathlib

/-!
# Which changes count, and in which order

A path counts or not by what it says below the root; what the root is called does not matter.  Of a
batch the paths that count are kept, and of two spellings of one path the one that comes first.
Spellings of one path need not agree on whether they count, because the glob reads the text and not
the components: a spelling that does not count takes no place in the batch.

## What is here

* `Matcher.accepts_join` — the verdict on names that are joined to a root.
* `Matcher.accepts_below_any_root` — the roots of two matchers make no difference.
* `Matcher.foldl_keep`, `Matcher.filter_append` — what is kept of a batch that goes on.
* `Matcher.filter_keeps_firsts` — what is kept of a batch, as a whole.
-/

set_option autoImplicit false
namespace CommandGrove

/-! ## Below the root -/

/-- The path that the working directory is called by is looked at first. -/
theorem Tool.exists_watchRoots (s : Surroundings) :
    ∃ others, watchRoots s = s.workingDir.toList :: others := by
  unfold watchRoots
  dsimp only
  split
  · split
    · exact ⟨[], rfl⟩
    · exact ⟨_, rfl⟩
  · exact ⟨[], rfl⟩

namespace Matcher

section Join

variable {m : Matcher} {root : List Char} {others names : List (List Char)}
  (hroots : m.roots = root :: others) (hnames : ∀ name ∈ names, IsPieceName name)
  (hne : names ≠ [])

include hroots hnames hne

theorem relative_join : m.relative (Path.join root (Path.unsplit names)) = Path.unsplit names := by
  rw [relative, hroots, List.findSome?_cons, Path.below?_join hnames hne]
  rfl

/-- **The verdict on names below a root** is that of the glob, unless one of them is hidden. -/
theorem accepts_join : m.accepts (Path.join root (Path.unsplit names)) =
    (!names.any (fun name => name.head? == some '.') &&
      Glob.isMatch m.glob (Path.unsplit names)) := by
  rw [accepts, relative_join hroots hnames hne, Path.components_unsplit_names hnames hne,
    List.any_map]
  rfl

end Join

/-- **What a matcher says of a path is told by the names below the root.**  It is the same for all
working directories, whatever they are called and whether or not they are there: no if one of the
names begins with a dot, and what the glob says of the names otherwise. -/
theorem accepts_below_any_root {pattern : String} {glob : Glob}
    (hglob : Glob.parse pattern.toList = .ok glob) (s₁ s₂ : Surroundings)
    {names : List (List Char)} (hne : names ≠ []) (hnames : ∀ name ∈ names, IsPieceName name) :
    ∃ m₁ m₂, ofPattern pattern (Tool.watchRoots s₁) = .ok m₁ ∧
      ofPattern pattern (Tool.watchRoots s₂) = .ok m₂ ∧
      m₁.accepts (Path.join s₁.workingDir.toList (Path.unsplit names)) =
        m₂.accepts (Path.join s₂.workingDir.toList (Path.unsplit names)) ∧
      ((∃ name ∈ names, name.head? = some '.') →
        m₁.accepts (Path.join s₁.workingDir.toList (Path.unsplit names)) = false) ∧
      ((∀ name ∈ names, name.head? ≠ some '.') →
        m₁.accepts (Path.join s₁.workingDir.toList (Path.unsplit names)) =
          Glob.isMatch glob (Path.unsplit names)) := by
  have hmatcher (roots : List (List Char)) : ofPattern pattern roots = .ok ⟨glob, roots⟩ := by
    rw [ofPattern, hglob]
  obtain ⟨others₁, hroots₁⟩ := Tool.exists_watchRoots s₁
  obtain ⟨others₂, hroots₂⟩ := Tool.exists_watchRoots s₂
  refine ⟨_, _, hmatcher _, hmatcher _, ?_⟩
  rw [accepts_join hroots₁ hnames hne, accepts_join hroots₂ hnames hne]
  refine ⟨rfl, ?_, ?_⟩
  · rintro ⟨name, hname, hdot⟩
    have hany : names.any (fun name => name.head? == some '.') = true :=
      List.any_eq_true.2 ⟨name, hname, beq_iff_eq.2 hdot⟩
    rw [hany]
    rfl
  · intro hplain
    have hnone : names.any (fun name => name.head? == some '.') = false :=
      List.any_eq_false.2 fun name hname => mt beq_iff_eq.1 (hplain name hname)
    rw [hnone]
    rfl

/-- A working directory that is not there. -/
def missingSurroundings (workingDir : String) : Surroundings :=
  { files := .empty, workingDir, launch := fun _ => .error .notFound, bundler := none
    units := .numbered }

/-- A directory on the way to the root is hidden, and that does not count. -/
theorem accepts_below_any_root_of_hidden_root :
    ∃ m₁ m₂, ofPattern "src/*.ts" (Tool.watchRoots (missingSurroundings "/home/u/.cfg")) = .ok m₁ ∧
      ofPattern "src/*.ts" (Tool.watchRoots (missingSurroundings "work//")) = .ok m₂ ∧
      m₁.accepts "/home/u/.cfg/src/a.ts".toList = m₂.accepts "work//src/a.ts".toList ∧
      m₁.accepts "/home/u/.cfg/src/a.ts".toList = true := by
  have hglob : Glob.parse "src/*.ts".toList = .ok [.literal 's', .literal 'r', .literal 'c',
      .literal '/', .star, .literal '.', .literal 't', .literal 's'] := by cbv
  have hnames : ∀ name ∈ ["src".toList, "a.ts".toList], IsPieceName name := by
    simp only [List.forall_mem_cons]
    exact ⟨⟨by decide, by decide⟩, ⟨by decide, by decide⟩, List.forall_mem_nil _⟩
  obtain ⟨m₁, m₂, h₁, h₂, hsame, -, hglobbed⟩ := accepts_below_any_root hglob
    (missingSurroundings "/home/u/.cfg") (missingSurroundings "work//") (by decide) hnames
  exact ⟨m₁, m₂, h₁, h₂, hsame, (hglobbed (by decide)).trans (by decide +kernel)⟩

/-! ## Each path once -/

/-- None of the paths is the same as this one. -/
def isNew (seen : List (List Char)) (path : List Char) : Bool := !seen.any (Path.same · path)

theorem isNew_iff {seen : List (List Char)} {path : List Char} : isNew seen path = true ↔
    ∀ other ∈ seen, Path.components other ≠ Path.components path := by
  simp [isNew, Path.same]

theorem isNew_congr {seen : List (List Char)} {a b : List Char}
    (h : Path.components a = Path.components b) : isNew seen a = isNew seen b := by
  rw [Bool.eq_iff_iff, isNew_iff, isNew_iff, h]

theorem isNew_append (front back : List (List Char)) (path : List Char) :
    isNew (front ++ back) path = (isNew front path && isNew back path) := by
  rw [isNew, List.any_append, Bool.not_or, isNew, isNew]

section Filter

variable (m : Matcher)

/-- A path that counts and is new is added at the end. -/
theorem keep_eq (seen : List (List Char)) (path : List Char) :
    m.keep seen path =
      if (m.accepts path && isNew seen path) = true then seen ++ [path] else seen := rfl

theorem filter_concat (paths : List (List Char)) (path : List Char) :
    m.filter (paths ++ [path]) = m.keep (m.filter paths) path := List.foldl_concat ..

/-- A path is new to a list and to what is new behind it exactly if it is new to the whole. -/
theorem isNew_append_filter (seen kept : List (List Char)) (path : List Char) :
    isNew (seen ++ kept.filter (isNew seen)) path = (isNew seen path && isNew kept path) := by
  rw [isNew_append, Bool.eq_iff_iff, Bool.and_eq_true, Bool.and_eq_true]
  refine and_congr_right fun hseen => ?_
  rw [isNew_iff, isNew_iff]
  constructor
  · intro h other hother heq
    exact h other (List.mem_filter.2 ⟨hother, (isNew_congr heq).trans hseen⟩) heq
  · exact fun h other hother => h other (List.mem_of_mem_filter hother)

/-- **Behind paths that were kept** a batch adds what it would keep by itself, apart from what is
there already. -/
theorem foldl_keep (seen paths : List (List Char)) :
    paths.foldl m.keep seen = seen ++ (m.filter paths).filter (isNew seen) := by
  induction paths using List.reverseRecOn with
  | nil => exact (List.append_nil seen).symm
  | append_singleton paths path ih =>
    rw [List.foldl_concat, ih, filter_concat, keep_eq, keep_eq, isNew_append_filter]
    cases m.accepts path with
    | false => rfl
    | true =>
      cases hnew : isNew (m.filter paths) path with
      | false => simp
      | true => cases hseen : isNew seen path <;> simp [hseen]

theorem filter_append (paths more : List (List Char)) :
    m.filter (paths ++ more) =
      m.filter paths ++ (m.filter more).filter (isNew (m.filter paths)) := by
  rw [filter, List.foldl_append, foldl_keep]
  rfl

theorem filter_sublist (paths : List (List Char)) : (m.filter paths).Sublist paths := by
  induction paths using List.reverseRecOn with
  | nil => exact List.Sublist.slnil
  | append_singleton paths path ih =>
    rw [filter_concat, keep_eq]
    split
    · exact ih.append_right [path]
    · exact ih.trans (List.sublist_append_left paths [path])

theorem accepts_of_mem_filter {paths : List (List Char)} {path : List Char}
    (h : path ∈ m.filter paths) : m.accepts path = true := by
  induction paths using List.reverseRecOn with
  | nil => exact nomatch h
  | append_singleton paths last ih =>
    rw [filter_concat, keep_eq] at h
    split at h
    · next hkept =>
      rcases List.mem_append.1 h with h | h
      · exact ih h
      · exact List.mem_singleton.1 h ▸ (Bool.and_eq_true_iff.1 hkept).1
    · exact ih h

theorem pairwise_filter (paths : List (List Char)) :
    (m.filter paths).Pairwise fun a b => Path.components a ≠ Path.components b := by
  induction paths using List.reverseRecOn with
  | nil => exact List.Pairwise.nil
  | append_singleton paths path ih =>
    rw [filter_concat, keep_eq]
    split
    · next hkept =>
      have hnew := isNew_iff.1 (Bool.and_eq_true_iff.1 hkept).2
      exact List.pairwise_append.2 ⟨ih, List.pairwise_singleton _ _,
        fun other hother _ hlast => List.mem_singleton.1 hlast ▸ hnew other hother⟩
    · exact ih

/-- Paths that all count and of which no two are the same are kept as they are. -/
theorem filter_eq_self {paths : List (List Char)} (haccepts : ∀ path ∈ paths, m.accepts path = true)
    (hpaths : paths.Pairwise fun a b => Path.components a ≠ Path.components b) :
    m.filter paths = paths := by
  induction paths using List.reverseRecOn with
  | nil => rfl
  | append_singleton paths path ih =>
    obtain ⟨hfront, -, hlast⟩ := List.pairwise_append.1 hpaths
    have hnew : isNew paths path = true :=
      isNew_iff.2 fun other hother => hlast other hother path List.mem_cons_self
    rw [filter_concat, ih (fun p hp => haccepts p (List.mem_append_left _ hp)) hfront, keep_eq,
      haccepts path (List.mem_append_right _ List.mem_cons_self), hnew]
    rfl

/-- A path that counts and is no spelling of one before it that counts is kept behind them. -/
theorem filter_of_first {before after : List (List Char)} {first : List Char}
    (haccepts : m.accepts first = true) (hfirst : ∀ other ∈ before, m.accepts other = true →
      Path.components other ≠ Path.components first) :
    m.filter before ++ [first] <+: m.filter (before ++ first :: after) := by
  have hnew : isNew (m.filter before) first = true := isNew_iff.2 fun other hother =>
    hfirst other ((m.filter_sublist before).subset hother) (m.accepts_of_mem_filter hother)
  have hkept : m.filter (before ++ [first]) = m.filter before ++ [first] := by
    rw [filter_concat, keep_eq, haccepts, hnew]
    rfl
  rw [List.append_cons before, filter_append, hkept]
  exact List.prefix_append _ _

/-- Among the spellings of a path that count one comes first. -/
theorem exists_first {paths : List (List Char)} {path : List Char} (hpath : path ∈ paths)
    (haccepts : m.accepts path = true) :
    ∃ before first after, paths = before ++ first :: after ∧ m.accepts first = true ∧
      Path.components first = Path.components path ∧
      ∀ other ∈ before, m.accepts other = true →
        Path.components other ≠ Path.components path := by
  let isSpelling (other : List Char) : Bool := m.accepts other && Path.same other path
  have hsome : (paths.find? isSpelling).isSome = true := by
    refine List.find?_isSome.2 ⟨path, hpath, ?_⟩
    simp [isSpelling, haccepts, Path.same]
  obtain ⟨first, hfirst⟩ := Option.isSome_iff_exists.1 hsome
  obtain ⟨hspelling, before, after, rfl, hbefore⟩ := List.find?_eq_some_iff_append.1 hfirst
  simp only [isSpelling, Path.same, Bool.and_eq_true, beq_iff_eq] at hspelling hbefore
  refine ⟨before, first, after, rfl, hspelling.1, hspelling.2, fun other hother hcounts heq => ?_⟩
  simpa [hcounts, heq] using hbefore other hother

/-- **Of a batch the paths that count are kept, each one where it comes first.**  No two of those
that are kept have the same components; of the spellings of a path that count the first one is kept,
right behind what is kept of the paths before it.  Nothing changes when what was kept is looked at
again, and a batch that goes on keeps what it kept and adds what is new.  Slashes that are repeated
and a `.` between them make no other path. -/
theorem filter_keeps_firsts (paths : List (List Char)) :
    (m.filter paths).Sublist paths ∧ (∀ path ∈ m.filter paths, m.accepts path = true) ∧
      (m.filter paths).Pairwise (fun a b => Path.components a ≠ Path.components b) ∧
      (∀ path ∈ paths, m.accepts path = true →
        ∃ before first after, paths = before ++ first :: after ∧ m.accepts first = true ∧
          Path.components first = Path.components path ∧
          (∀ other ∈ before, m.accepts other = true →
            Path.components other ≠ Path.components path) ∧
          m.filter before ++ [first] <+: m.filter paths) ∧
      m.filter (m.filter paths) = m.filter paths ∧
      (∀ more, m.filter (paths ++ more) = m.filter paths ++
        (m.filter more).filter fun path =>
          (m.filter paths).all fun seen => Path.components seen != Path.components path) ∧
      (∀ front back, Path.components (front ++ '/' :: '/' :: back) =
        Path.components (front ++ '/' :: back)) ∧
      ∀ front back, Path.components (front ++ '/' :: '.' :: '/' :: back) =
        Path.components (front ++ '/' :: back) := by
  refine ⟨m.filter_sublist paths, fun path hpath => m.accepts_of_mem_filter hpath,
    m.pairwise_filter paths, ?_, ?_, ?_, Path.components_slash_slash,
    Path.components_slash_here_slash⟩
  · intro path hpath haccepts
    obtain ⟨before, first, after, rfl, hcounts, hsame, hbefore⟩ := m.exists_first hpath haccepts
    exact ⟨before, first, after, rfl, hcounts, hsame, hbefore,
      m.filter_of_first hcounts fun other hother hother' =>
        hsame ▸ hbefore other hother hother'⟩
  · exact m.filter_eq_self (fun path hpath => m.accepts_of_mem_filter hpath)
      (m.pairwise_filter paths)
  · intro more
    rw [filter_append]
    congr 2
    funext path
    rw [isNew, List.not_any_eq_all_not]
    rfl

end Filter

/-- Three spellings of a path; the first one does not match `x/*`, for its two slashes. -/
def spellings : List (List Char) :=
  ["/w/x//a".toList, "/w/x/a".toList, "/w/./x/a".toList]

/-- The matcher for `x/*` in `/w`. -/
def matcherOfX : Matcher := ⟨[.literal 'x', .literal '/', .star], ["/w".toList]⟩

/-- The second spelling is the first one that counts, so it is kept and the third one is not. -/
theorem filter_keeps_firsts_of_spellings :
    matcherOfX.accepts "/w/x//a".toList = false ∧ matcherOfX.accepts "/w/./x/a".toList = true ∧
      "/w/./x/a".toList ∈ spellings ∧ matcherOfX.filter spellings = ["/w/x/a".toList] ∧
      ∃ before first after, spellings = before ++ first :: after ∧
        matcherOfX.accepts first = true ∧
        matcherOfX.filter before ++ [first] <+: matcherOfX.filter spellings := by
  have hmem : "/w/./x/a".toList ∈ spellings := by decide
  have haccepts : matcherOfX.accepts "/w/./x/a".toList = true := by decide +kernel
  obtain ⟨-, -, -, hfirst, -⟩ := filter_keeps_firsts matcherOfX spellings
  obtain ⟨before, first, after, hsplit, hcounts, -, -, hkept⟩ := hfirst _ hmem haccepts
  exact ⟨by decide +kernel, haccepts, hmem, by decide +kernel, before, first, after, hsplit,
    hcounts, hkept⟩

end Matcher
end CommandGrove
