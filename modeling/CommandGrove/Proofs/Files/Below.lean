import CommandGrove.Proofs.Files.NewFiles
import CommandGrove.Proofs.Files.Spellings

/-!
# What stands below a root

A root is found at the front of a path by its components, so it can be written there in another
way: with a slash at its end, with repeated slashes or with a `.` between them.  What is left behind
it is a text again, and for names that were joined to the root it is the text that was joined.

## What is here

* `Path.written_leadingPieces`, `Path.frontComponent_join` — a root keeps its components and its
  front when something is joined to it.
* `Path.below?_of_front`, `Path.below?_of_no_front` — what is dropped to get below a root.
* `Path.dropComponents_append` — the pieces behind those that write the wanted components.
* `Path.components_unsplit_names` — names with slashes between them are their own components.
* `Path.below?_join` — the main result.
-/

set_option autoImplicit false
namespace CommandGrove
namespace Path

/-! ## The front of a joined path -/

section Join

variable {root : List Char}

/-- The pieces in front of what is joined write the components of the root. -/
theorem written_leadingPieces (root : List Char) :
    written (leadingPieces root) = written (split root) := by
  unfold leadingPieces
  split
  · next hnil => rw [hnil]; rfl
  · split
    · next hslash =>
      obtain ⟨front, rfl⟩ := List.getLast?_eq_some_iff.1 hslash
      rw [split_concat_slash, List.dropLast_concat, written_append]
      exact (List.append_nil _).symm
    · rfl

theorem head?_leadingPieces (hroot : root ≠ []) :
    (leadingPieces root).head? = (split root).head? := by
  rw [leadingPieces, if_neg hroot]
  split
  · next hslash =>
    obtain ⟨front, rfl⟩ := List.getLast?_eq_some_iff.1 hslash
    rw [split_concat_slash, List.dropLast_concat,
      List.head?_append_of_ne_nil _ (split_ne_nil front)]
  · rfl

theorem leadingPieces_ne_nil (hroot : root ≠ []) : leadingPieces root ≠ [] := by
  intro hnil
  have hhead := head?_leadingPieces hroot
  rw [hnil] at hhead
  exact split_ne_nil root (List.head?_eq_none_iff.1 hhead.symm)

/-- The front of a joined path is the front of the root. -/
theorem frontComponent_join (hroot : root ≠ []) {path : List Char}
    (hpath : isAbsolute path = false) : frontComponent (join root path) = frontComponent root := by
  have habsolute : isAbsolute (join root path) = isAbsolute root := by
    unfold join
    rw [if_neg (Bool.eq_false_iff.1 hpath)]
    split <;> exact isAbsolute_append_of_ne_nil hroot _
  have hhead : (split (join root path)).head? = (split root).head? := by
    rw [split_join_of_relative root hpath,
      List.head?_append_of_ne_nil _ (leadingPieces_ne_nil hroot), head?_leadingPieces hroot]
  rw [frontComponent, frontComponent, habsolute, hhead]

end Join

/-! ## Behind the root -/

/-- A front is written by a first piece that writes no component of its own. -/
theorem frontComponent_cases (path : List Char) : frontComponent path = [] ∨
    ∃ c piece, frontComponent path = [c] ∧ isFront c = true ∧ (split path).head? = some piece ∧
      component? piece = none := by
  unfold frontComponent
  split
  · next habsolute =>
    obtain ⟨below, rfl⟩ := List.head?_eq_some_iff.1 (beq_iff_eq.1 habsolute)
    exact Or.inr ⟨.root, [], rfl, rfl, by rw [split_slash, List.head?_cons], rfl⟩
  · split
    · next hhere => exact Or.inr ⟨.here, ['.'], rfl, rfl, beq_iff_eq.1 hhere, rfl⟩
    · exact Or.inl rfl

/-- Below a root with a front there are only paths with that front. -/
theorem below?_of_front {root path : List Char} {c : Component} {others : List Component}
    (hroot : components root = c :: others) (hc : isFront c = true)
    (hpath : frontComponent path = [c]) :
    below? root path = (dropComponents others (split path).tail).map (unsplit ∘ trimPieces) := by
  rw [below?, hroot, hpath]
  cases c with
  | root | here => rfl
  | up | name => exact absurd hc Bool.false_ne_true

/-- Below a root without a front there are only paths without one. -/
theorem below?_of_no_front {root path : List Char} {first : Component} {others : List Component}
    (hroot : components root = first :: others) (hfirst : isFront first = false)
    (hpath : frontComponent path = []) :
    below? root path =
      (dropComponents (components root) (split path)).map (unsplit ∘ trimPieces) := by
  rw [below?, hroot, hpath]
  cases first with
  | root | here => exact absurd hfirst.symm Bool.false_ne_true
  | up | name => rfl

/-- Where the pieces write the wanted components, the names behind them are left. -/
theorem dropComponents_append (pieces : List (List Char)) {names : List (List Char)}
    (hnames : ∀ name ∈ names, IsPieceName name) :
    dropComponents (written pieces) (pieces ++ names) = some names := by
  induction pieces with
  | nil =>
    cases names with
    | nil => rfl
    | cons name rest =>
      have hname := (hnames name List.mem_cons_self).component
      simp only [List.nil_append, written_nil, dropComponents, hname]
  | cons piece rest ih =>
    cases hpiece : component? piece with
    | none => simpa only [written_cons_of_none hpiece, List.cons_append, dropComponents, hpiece]
    | some c =>
      simpa only [written_cons_of_some hpiece, List.cons_append, dropComponents, hpiece, if_true]

/-! ## Names with slashes between them -/

section Names

variable {names : List (List Char)} (hnames : ∀ name ∈ names, IsPieceName name)

include hnames

theorem written_names : written names = names.map .name := by
  rw [written, List.filterMap_congr fun name hname => (hnames name hname).component]
  exact congrFun List.filterMap_eq_map' names

theorem trimPieces_names : trimPieces names = names := by
  rcases List.eq_nil_or_concat' names with rfl | ⟨front, last, rfl⟩
  · rfl
  · have hlast := (hnames last (List.mem_append_right _ List.mem_cons_self)).component
    have hvoid : ¬isVoid last = true := by simp [isVoid, hlast]
    rw [trimPieces_concat, if_neg hvoid]

variable (hne : names ≠ [])

include hne

theorem split_unsplit_names : split (unsplit names) = names :=
  Text.splitOn_joinWith hne fun name hname => (hnames name hname).slash

theorem head?_split_unsplit_names : ∃ first, (split (unsplit names)).head? = some first ∧
    IsPieceName first := by
  obtain ⟨first, rest, rfl⟩ := List.exists_cons_of_ne_nil hne
  exact ⟨first, by rw [split_unsplit_names hnames hne, List.head?_cons],
    hnames first List.mem_cons_self⟩

theorem frontComponent_unsplit_names : frontComponent (unsplit names) = [] := by
  obtain ⟨first, hfirst, hname⟩ := head?_split_unsplit_names hnames hne
  rcases frontComponent_cases (unsplit names) with h | ⟨c, piece, -, -, hpiece, hvoid⟩
  · exact h
  · obtain rfl := Option.some.inj (hpiece.symm.trans hfirst)
    exact nomatch hvoid.symm.trans hname.component

theorem isAbsolute_unsplit_names : isAbsolute (unsplit names) = false := by
  have hfront := frontComponent_unsplit_names hnames hne
  unfold frontComponent at hfront
  split at hfront
  · exact nomatch hfront
  · next h => exact Bool.eq_false_iff.2 h

/-- Names with slashes between them are their own components. -/
theorem components_unsplit_names : components (unsplit names) = names.map .name := by
  rw [components_eq, frontComponent_unsplit_names hnames hne, split_unsplit_names hnames hne,
    written_names hnames, List.nil_append]

theorem trimmed_unsplit_names : trimmed (unsplit names) = unsplit names := by
  obtain ⟨first, hfirst, hname⟩ := head?_split_unsplit_names hnames hne
  have hpath : ¬isAbsolute (unsplit names) = true :=
    Bool.eq_false_iff.1 (isAbsolute_unsplit_names hnames hne)
  rw [trimmed, if_neg hpath]
  split
  · next rest hsplit =>
    rw [hsplit] at hfirst
    exact nomatch (Option.some.inj hfirst ▸ hname.component : component? ['.'] = some _)
  · rw [split_unsplit_names hnames hne, trimPieces_names hnames]

/-- **What was joined to a root is what stands below it**, however the root is written. -/
theorem below?_join (root : List Char) :
    below? root (join root (unsplit names)) = some (unsplit names) := by
  have hpath := isAbsolute_unsplit_names hnames hne
  have hsplit : split (join root (unsplit names)) = leadingPieces root ++ names := by
    rw [split_join_of_relative root hpath, split_unsplit_names hnames hne]
  have htrim : (unsplit ∘ trimPieces) names = unsplit names :=
    congrArg unsplit (trimPieces_names hnames)
  by_cases hroot : root = []
  · have hjoin : join root (unsplit names) = unsplit names := by simp [join, hpath, hroot]
    have hnone : components root = [] := components_eq_nil_iff.2 hroot
    rw [below?, hnone, hjoin]
    exact congrArg some (trimmed_unsplit_names hnames hne)
  · have hfront := frontComponent_join hroot hpath
    have hcomponents : components root = frontComponent root ++ written (leadingPieces root) := by
      rw [components_eq, written_leadingPieces]
    rcases frontComponent_cases root with hnone | ⟨c, piece, hone, hc, hpiece, hvoid⟩
    · rw [hnone, List.nil_append] at hcomponents
      obtain ⟨first, others, hcons⟩ :=
        List.exists_cons_of_ne_nil (mt components_eq_nil_iff.1 hroot)
      have hplain : (components root).filter (!isFront ·) = components root := by
        rw [filter_not_isFront_components, hcomponents, written_leadingPieces]
      have hfirst : isFront first = false := by
        simpa using List.filter_eq_self.1 hplain first (hcons ▸ List.mem_cons_self)
      rw [below?_of_no_front hcons hfirst (hfront.trans hnone), hcomponents, hsplit,
        dropComponents_append _ hnames, Option.map_some, htrim]
    · -- The first piece writes nothing, so the other ones write what is left of the root.
      obtain ⟨rest, hrest⟩ := List.head?_eq_some_iff.1 ((head?_leadingPieces hroot).trans hpiece)
      rw [hone, hrest, written_cons_of_none hvoid, List.singleton_append] at hcomponents
      rw [below?_of_front hcomponents hc (hfront.trans hone), hsplit, hrest, List.cons_append,
        List.tail_cons, dropComponents_append _ hnames, Option.map_some, htrim]

end Names

end Path
end CommandGrove
