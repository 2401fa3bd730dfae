import CommandGrove.Proofs.Files.Walks
import Mathlib.Data.List.DropRight

/-!
# Spellings of paths

Slashes can be repeated and `.` can stand between them, so a path has many spellings.  What they
have in common are its components.  What is joined to it, what is above it, its last name and the
file it leads to depend on these alone.

## What is here

* `Path.written` — the components that pieces write behind the front of a path.
* `Path.components_slash_slash`, `Path.components_slash_here_slash` — spellings of one path.
* `Path.components_join`, `Path.components_join_congr` — the components of a joined path.
* `Path.LiesIn` — a path names something that lies directly in a directory.
* `Path.LiesIn.exists_parent?`, `Path.LiesIn.extension?_eq` — what is above such a path is the
  directory, and the name tells its extension.
* `FileTree.Walks.unique` — ways that write the same components end at the same location.
* `FileTree.readText_congr` — a file holds the same text under each of its spellings.
-/

set_option autoImplicit false
namespace CommandGrove

namespace Path

/-! ## Components -/

/-- The components that pieces write behind the front of a path. -/
def written (pieces : List (List Char)) : List Component := pieces.filterMap component?

@[simp] theorem written_nil : written [] = [] := rfl

theorem written_append (front back : List (List Char)) :
    written (front ++ back) = written front ++ written back := List.filterMap_append

theorem written_cons_of_none {piece : List Char} (h : component? piece = none)
    (rest : List (List Char)) : written (piece :: rest) = written rest :=
  List.filterMap_cons_none h

theorem written_cons_of_some {piece : List Char} {c : Component} (h : component? piece = some c)
    (rest : List (List Char)) : written (piece :: rest) = c :: written rest :=
  List.filterMap_cons_some h

theorem components_eq (path : List Char) :
    components path = frontComponent path ++ written (split path) := rfl

/-! ### The front -/

/-- A path is read off its pieces, so one that is not absolute and begins with an empty piece is
empty. -/
theorem tail_eq_nil_of_split {path : List Char} {others : List (List Char)}
    (hpath : isAbsolute path = false) (h : split path = [] :: others) : others = [] := by
  have hunsplit : unsplit ([] :: others) = path := h ▸ Text.joinWith_splitOn '/' path
  cases others with
  | nil => rfl
  | cons next rest =>
    rw [← hunsplit] at hpath
    exact absurd hpath (by simp [unsplit, Text.joinWith, isAbsolute])

theorem split_ne_nil (path : List Char) : split path ≠ [] := Text.splitOn_ne_nil '/' path

theorem components_eq_nil_iff {path : List Char} : components path = [] ↔ path = [] := by
  refine ⟨fun h => ?_, fun h => h ▸ rfl⟩
  rw [components_eq, List.append_eq_nil_iff] at h
  obtain ⟨hfront, hwritten⟩ := h
  obtain ⟨first, others, hsplit⟩ := List.exists_cons_of_ne_nil (split_ne_nil path)
  have hpath : isAbsolute path = false := by
    cases habs : isAbsolute path with
    | false => rfl
    | true => simp [frontComponent, habs] at hfront
  have hvoid : component? first = none := by
    cases hfirst : component? first with
    | none => rfl
    | some c =>
      rw [hsplit, written_cons_of_some hfirst] at hwritten
      exact nomatch hwritten
  rcases component?_eq_none_iff.1 hvoid with rfl | rfl
  · have hothers := tail_eq_nil_of_split hpath hsplit
    have hunsplit : unsplit (split path) = path := Text.joinWith_splitOn '/' path
    rw [← hunsplit, hsplit, hothers]
    rfl
  · simp [frontComponent, hpath, hsplit] at hfront

/-- The component is one of those that only the front of a path has. -/
def isFront (c : Component) : Bool := c == .root || c == .here

/-- The front is all that the pieces of a path do not write. -/
theorem filter_not_isFront_components (path : List Char) :
    (components path).filter (!isFront ·) = written (split path) := by
  have hfront : (frontComponent path).filter (!isFront ·) = [] := by
    unfold frontComponent
    split
    · rfl
    · split <;> rfl
  have hwritten : (written (split path)).filter (!isFront ·) = written (split path) := by
    refine List.filter_eq_self.2 fun c hc => ?_
    obtain ⟨piece, -, hpiece⟩ := List.mem_filterMap.1 hc
    unfold component? at hpiece
    split at hpiece
    · cases hpiece
    · split at hpiece
      all_goals
        obtain rfl := Option.some.inj hpiece
        rfl
  rw [components_eq, List.filter_append, hfront, hwritten, List.nil_append]

theorem written_split_eq_of_components {a b : List Char} (h : components a = components b) :
    written (split a) = written (split b) := by
  rw [← filter_not_isFront_components, h, filter_not_isFront_components]

/-! ### Joining -/

theorem isAbsolute_append_of_ne_nil {front : List Char} (h : front ≠ []) (back : List Char) :
    isAbsolute (front ++ back) = isAbsolute front := by
  obtain ⟨c, rest, rfl⟩ := List.exists_cons_of_ne_nil h
  rfl

/-- A slash at the end of a path means nothing. -/
theorem components_concat_slash {base : List Char} (hbase : base ≠ []) :
    components (base ++ ['/']) = components base := by
  have hhead : (split (base ++ ['/'])).head? = (split base).head? := by
    rw [split_concat_slash, List.head?_append_of_ne_nil _ (split_ne_nil base)]
  rw [components_eq, components_eq, frontComponent, frontComponent,
    isAbsolute_append_of_ne_nil hbase, hhead, split_concat_slash, written_append]
  exact congrArg _ (List.append_nil _)

theorem components_append_slash (front path : List Char) :
    components (front ++ '/' :: path) = components (front ++ ['/']) ++ written (split path) := by
  have habs : isAbsolute (front ++ '/' :: path) = isAbsolute (front ++ ['/']) := by
    cases front <;> rfl
  have hne := split_ne_nil front
  rw [components_eq, components_eq, frontComponent, frontComponent, habs,
    split_append_slash, split_concat_slash, List.head?_append_of_ne_nil _ hne, List.head?_append_of_ne_nil _ hne, written_append,
    written_append, List.append_assoc, List.append_assoc]
  rfl

/-- A slash can be repeated. -/
theorem components_slash_slash (front back : List Char) :
    components (front ++ '/' :: '/' :: back) = components (front ++ '/' :: back) := by
  rw [components_append_slash, components_append_slash front back, split_slash,
    written_cons_of_none rfl]

/-- A `.` between two slashes means nothing. -/
theorem components_slash_here_slash (front back : List Char) :
    components (front ++ '/' :: '.' :: '/' :: back) = components (front ++ '/' :: back) := by
  have hsplit : split ('.' :: '/' :: back) = ['.'] :: split back :=
    split_append_slash ['.'] back
  rw [components_append_slash, components_append_slash front back, hsplit,
    written_cons_of_none rfl]

/-- **What is joined to a path comes behind its components.** -/
theorem components_join {base path : List Char} (hbase : base ≠ [])
    (hpath : isAbsolute path = false) :
    components (join base path) = components base ++ written (split path) := by
  by_cases hslash : base.getLast? = some '/'
  · obtain ⟨front, rfl⟩ := List.getLast?_eq_some_iff.1 hslash
    have hjoin : join (front ++ ['/']) path = front ++ '/' :: path := by simp [join, hpath]
    rw [hjoin, components_append_slash]
  · have hjoin : join base path = base ++ '/' :: path := by simp [join, hpath, hbase, hslash]
    rw [hjoin, components_append_slash, components_concat_slash hbase]

theorem components_join_congr {a b : List Char} (h : components a = components b)
    (path : List Char) : components (join a path) = components (join b path) := by
  cases hpath : isAbsolute path with
  | true => simp [join, hpath]
  | false =>
    by_cases ha : a = []
    · have hb : b = [] := components_eq_nil_iff.1 (h ▸ components_eq_nil_iff.2 ha)
      rw [ha, hb]
    · have hb : b ≠ [] := fun hb => ha (components_eq_nil_iff.1 (h ▸ components_eq_nil_iff.2 hb))
      rw [components_join ha hpath, components_join hb hpath, h]

theorem isAbsolute_join {base : List Char} (hbase : isAbsolute base = true) (path : List Char) :
    isAbsolute (join base path) = true := by
  have hne : base ≠ [] := by
    rintro rfl
    exact absurd hbase (by decide)
  unfold join
  split
  · assumption
  · split
    all_goals rwa [isAbsolute_append_of_ne_nil hne]

/-! ### Going up -/

theorem trimPieces_concat (pieces : List (List Char)) (last : List Char) :
    trimPieces (pieces ++ [last]) =
      if isVoid last then trimPieces pieces else pieces ++ [last] :=
  List.rdropWhile_concat isVoid pieces last

theorem written_trimPieces (pieces : List (List Char)) :
    written (trimPieces pieces) = written pieces := by
  induction pieces using List.reverseRecOn with
  | nil => rfl
  | append_singleton pieces last ih =>
    rw [trimPieces_concat]
    split
    · next hvoid =>
      have hlast : written [last] = [] :=
        written_cons_of_none (Option.isNone_iff_eq_none.1 hvoid) []
      rw [ih, written_append, hlast, List.append_nil]
    · rfl

theorem not_isEmpty_trimPieces {pieces : List (List Char)} (h : written pieces ≠ []) :
    ¬(trimPieces pieces).isEmpty = true := by
  intro hempty
  rw [← written_trimPieces, List.isEmpty_iff.1 hempty] at h
  exact h rfl

/-- The pieces that are left of a path going up. -/
def upperPieces (pieces : List (List Char)) : List (List Char) :=
  trimPieces (trimPieces pieces).dropLast

theorem upperPieces_isPrefix (pieces : List (List Char)) : upperPieces pieces <+: pieces :=
  (List.rdropWhile_prefix isVoid _).trans
    ((List.dropLast_prefix _).trans (List.rdropWhile_prefix isVoid pieces))

/-- Going up takes away the last component. -/
theorem written_upperPieces (pieces : List (List Char)) :
    written (upperPieces pieces) = (written pieces).dropLast := by
  rw [upperPieces, written_trimPieces]
  induction pieces using List.reverseRecOn with
  | nil => rfl
  | append_singleton pieces last ih =>
    rw [trimPieces_concat, written_append]
    cases hlast : component? last with
    | none =>
      have hvoid : isVoid last = true := Option.isNone_iff_eq_none.2 hlast
      rw [if_pos hvoid, ih, written_cons_of_none hlast, written_nil, List.append_nil]
    | some c =>
      have hvoid : ¬isVoid last = true := by simp [isVoid, hlast]
      rw [if_neg hvoid, List.dropLast_concat, written_cons_of_some hlast, written_nil,
        List.dropLast_concat]

theorem slash_notMem_of_mem_split {path piece : List Char} (h : piece ∈ split path) :
    '/' ∉ piece := fun hslash => (Text.mem_of_mem_splitOn h hslash).2 rfl

/-- Pieces that are put together again are read as they were. -/
theorem written_split_unsplit {pieces : List (List Char)} (h : ∀ piece ∈ pieces, '/' ∉ piece) :
    written (split (unsplit pieces)) = written pieces := by
  by_cases hne : pieces = []
  · rw [hne]
    rfl
  · rw [split, unsplit, Text.splitOn_joinWith hne h]

/-- The first pieces of a path that is not absolute make another one. -/
theorem isAbsolute_unsplit_of_isPrefix {path : List Char} (hpath : isAbsolute path = false)
    {pieces : List (List Char)} (h : pieces <+: split path) :
    isAbsolute (unsplit pieces) = false := by
  obtain ⟨others, hsplit⟩ := h
  match pieces with
  | [] => rfl
  | [] :: rest =>
    have hrest := (List.append_eq_nil_iff.1 (tail_eq_nil_of_split hpath hsplit.symm)).1
    rw [hrest]
    rfl
  | (c :: piece) :: rest =>
    have hmem : c :: piece ∈ split path :=
      hsplit ▸ List.mem_append_left others List.mem_cons_self
    have hc : c ≠ '/' := fun hc => slash_notMem_of_mem_split hmem (hc ▸ List.mem_cons_self)
    cases rest <;> simpa [unsplit, Text.joinWith, isAbsolute] using hc

/-- The front of a path that is not absolute is told by its first piece. -/
theorem frontComponent_unsplit_of_isPrefix {path : List Char} (hpath : isAbsolute path = false)
    {pieces : List (List Char)} (h : pieces <+: split path) (hne : pieces ≠ []) :
    frontComponent (unsplit pieces) = frontComponent path := by
  have hslash : ∀ piece ∈ pieces, '/' ∉ piece :=
    fun piece hpiece => slash_notMem_of_mem_split (h.subset hpiece)
  have hhead : (split (unsplit pieces)).head? = (split path).head? := by
    obtain ⟨others, hsplit⟩ := h
    rw [split, unsplit, Text.splitOn_joinWith hne hslash, ← hsplit,
      List.head?_append_of_ne_nil _ hne]
  rw [frontComponent, isAbsolute_unsplit_of_isPrefix hpath h, hhead, frontComponent, hpath]

/-- The first pieces of a path that is not absolute write its front and their own components. -/
theorem components_unsplit_of_isPrefix {path : List Char} (hpath : isAbsolute path = false)
    {pieces : List (List Char)} (h : pieces <+: split path)
    (hnil : pieces = [] → frontComponent path = []) :
    components (unsplit pieces) = frontComponent path ++ written pieces := by
  have hslash : ∀ piece ∈ pieces, '/' ∉ piece :=
    fun piece hpiece => slash_notMem_of_mem_split (h.subset hpiece)
  have hfront : frontComponent (unsplit pieces) = frontComponent path := by
    by_cases hpieces : pieces = []
    · rw [hnil hpieces, hpieces]
      rfl
    · exact frontComponent_unsplit_of_isPrefix hpath h hpieces
  rw [components_eq, hfront, written_split_unsplit hslash]

/-- What is above a path that begins at the root. -/
theorem parent?_slash {rest : List Char} (h : written (split rest) ≠ []) :
    parent? ('/' :: rest) = some ('/' :: unsplit (upperPieces (split rest))) := by
  rw [parent?, split_slash]
  exact if_neg (not_isEmpty_trimPieces h)

/-- What is above a path that begins with `.`. -/
theorem parent?_here {path : List Char} {rest : List (List Char)} (hpath : isAbsolute path = false)
    (hsplit : split path = ['.'] :: rest) (h : written rest ≠ []) :
    parent? path = some (unsplit (['.'] :: upperPieces rest)) := by
  rw [parent?, if_neg (Bool.eq_false_iff.1 hpath), hsplit]
  exact if_neg (not_isEmpty_trimPieces h)

/-- What is above a path that begins with a name or with `..`. -/
theorem parent?_of_ne {path : List Char} (hpath : isAbsolute path = false)
    (hfirst : (split path).head? ≠ some ['.']) (h : written (split path) ≠ []) :
    parent? path = some (unsplit (upperPieces (split path))) := by
  rw [parent?, if_neg (Bool.eq_false_iff.1 hpath)]
  split
  · next rest hsplit => exact absurd (hsplit ▸ rfl) hfirst
  · exact if_neg (not_isEmpty_trimPieces h)

/-- **Going up takes away the last component.** -/
theorem exists_parent? {path : List Char} (h : written (split path) ≠ []) :
    ∃ parent, parent? path = some parent ∧ components parent = (components path).dropLast := by
  rw [components_eq path, List.dropLast_append_of_ne_nil h]
  cases hpath : isAbsolute path with
  | true =>
    obtain ⟨rest, rfl⟩ : ∃ rest, path = '/' :: rest :=
      List.head?_eq_some_iff.1 (beq_iff_eq.1 hpath)
    have hwritten : written (split ('/' :: rest)) = written (split rest) := by
      rw [split_slash, written_cons_of_none rfl]
    have hslash : ∀ piece ∈ upperPieces (split rest), '/' ∉ piece :=
      fun piece hpiece => slash_notMem_of_mem_split ((upperPieces_isPrefix _).subset hpiece)
    rw [hwritten] at h ⊢
    refine ⟨_, parent?_slash h, ?_⟩
    rw [← written_upperPieces, ← written_split_unsplit hslash]
    exact components_append_slash [] (unsplit (upperPieces (split rest)))
  | false =>
    by_cases hfirst : (split path).head? = some ['.']
    · obtain ⟨rest, hsplit⟩ := List.head?_eq_some_iff.1 hfirst
      have hwritten : written (split path) = written rest := by
        rw [hsplit, written_cons_of_none rfl]
      have hpieces : ['.'] :: upperPieces rest <+: split path := by
        rw [hsplit, List.cons_prefix_cons]
        exact ⟨rfl, upperPieces_isPrefix rest⟩
      rw [hwritten] at h ⊢
      refine ⟨_, parent?_here hpath hsplit h, ?_⟩
      have hcons : ['.'] :: upperPieces rest ≠ [] := List.cons_ne_nil _ _
      rw [components_unsplit_of_isPrefix hpath hpieces fun hnil => absurd hnil hcons,
        written_cons_of_none rfl, written_upperPieces]
    · have hfront : frontComponent path = [] := by simp [frontComponent, hpath, hfirst]
      refine ⟨_, parent?_of_ne hpath hfirst h, ?_⟩
      rw [components_unsplit_of_isPrefix hpath (upperPieces_isPrefix _) fun _ => hfront,
        written_upperPieces]

theorem isAbsolute_of_parent? {path parent : List Char} (hpath : isAbsolute path = true)
    (h : parent? path = some parent) : isAbsolute parent = true := by
  simp only [parent?, hpath, if_true] at h
  split at h
  · exact nomatch h
  · obtain rfl := Option.some.inj h
    rfl

/-! ### Paths that lie in a directory -/

/-- The path names something that lies directly in a directory: it has the components of the
directory and one name behind them. -/
def LiesIn (dir name path : List Char) : Prop := components path = components dir ++ [.name name]

instance (dir name path : List Char) : Decidable (LiesIn dir name path) :=
  inferInstanceAs (Decidable (components path = components dir ++ [.name name]))

section LiesIn

variable {dir name path : List Char}

/-- A text without slashes adds the component that it writes, if it writes one. -/
theorem components_join_of_notMem (hdir : dir ≠ []) (hslash : '/' ∉ name) :
    components (join dir name) = components dir ++ (component? name).toList := by
  rw [components_join hdir (isAbsolute_of_notMem hslash), split, Text.splitOn_of_notMem hslash]
  cases hname : component? name with
  | none => rw [written_cons_of_none hname, written_nil, Option.toList_none]
  | some c => rw [written_cons_of_some hname, written_nil, Option.toList_some]

/-- A name that is joined to a directory lies in it. -/
theorem liesIn_join (dir : List Char) (hname : component? name = some (.name name))
    (hslash : '/' ∉ name) : LiesIn dir name (join dir name) := by
  by_cases hdir : dir = []
  · have hhead : (split name).head? ≠ some ['.'] := by
      rw [split, Text.splitOn_of_notMem hslash]
      rintro ⟨⟩
      exact absurd hname (by decide)
    have hrelative := isAbsolute_of_notMem hslash
    have hfront : frontComponent name = [] := by simp [frontComponent, hrelative, hhead]
    have hjoin : join [] name = name := by simp [join, hrelative]
    rw [LiesIn, hdir, hjoin, components_eq, hfront, split, Text.splitOn_of_notMem hslash,
      written_cons_of_some hname]
    rfl
  · rw [LiesIn, components_join_of_notMem hdir hslash, hname, Option.toList_some]

variable (h : LiesIn dir name path)

include h

theorem LiesIn.written_ne_nil : written (split path) ≠ [] := by
  intro hwritten
  have hfront : frontComponent path = components dir ++ [.name name] := by
    rw [← h, components_eq, hwritten, List.append_nil]
  have hmem : Component.name name ∈ frontComponent path := by simp [hfront]
  unfold frontComponent at hmem
  split at hmem
  · simp at hmem
  · split at hmem <;> simp at hmem

/-- **What is above a path that lies in a directory is the directory.** -/
theorem LiesIn.exists_parent? :
    ∃ parent, parent? path = some parent ∧ components parent = components dir := by
  obtain ⟨parent, hparent, hcomponents⟩ := Path.exists_parent? h.written_ne_nil
  rw [h, List.dropLast_concat] at hcomponents
  exact ⟨parent, hparent, hcomponents⟩

theorem LiesIn.extension?_eq : extension? path = (splitExtension name).2 := by
  have hname : fileName? path = some name := by
    rw [fileName?, h, List.getLast?_concat]
  rw [extension?, hname, Option.bind_some]

end LiesIn

end Path

namespace FileTree

variable {t : FileTree}

/-! ## Ways -/

/-- Pieces that write no components lead nowhere. -/
theorem Walks.eq_of_written_eq_nil {links left : Nat} {place goal : Location}
    {pieces : List (List Char)} (h : t.Walks links place pieces left goal)
    (hpieces : Path.written pieces = []) : left = links ∧ goal = place := by
  induction h with
  | arrived => exact ⟨rfl, rfl⟩
  | void hdir hpiece hrest ih => exact ih (Path.written_cons_of_none hpiece _ ▸ hpieces)
  | up hdir hpiece | item hdir hpiece | link hdir hpiece =>
    rw [Path.written_cons_of_some hpiece] at hpieces
    exact nomatch hpieces

/-- A way goes on behind the pieces that write no components. -/
theorem Walks.exists_cons {links left : Nat} {place goal : Location} {pieces : List (List Char)}
    (h : t.Walks links place pieces left goal) {c : Component} {others : List Component}
    (hpieces : Path.written pieces = c :: others) :
    ∃ piece rest, Path.component? piece = some c ∧ Path.written rest = others ∧
      t.Walks links place (piece :: rest) left goal := by
  induction pieces generalizing c others with
  | nil => exact nomatch hpieces
  | cons piece rest ih =>
    cases hpiece : Path.component? piece with
    | none =>
      rw [Path.written_cons_of_none hpiece] at hpieces
      cases h with
      | void hdir _ hrest => exact ih hrest hpieces
      | up hdir hsome | item hdir hsome | link hdir hsome => exact nomatch hpiece.symm.trans hsome
    | some d =>
      rw [Path.written_cons_of_some hpiece] at hpieces
      obtain ⟨rfl, rfl⟩ := List.cons_eq_cons.1 hpieces
      exact ⟨piece, rest, hpiece, rfl, h⟩

/-- **Ways that write the same components end at the same location.** -/
theorem Walks.unique {links left left' : Nat} {place goal goal' : Location}
    {pieces pieces' : List (List Char)} (h : t.Walks links place pieces left goal)
    (h' : t.Walks links place pieces' left' goal')
    (hpieces : Path.written pieces' = Path.written pieces) : left' = left ∧ goal' = goal := by
  induction h generalizing pieces' with
  | arrived => exact h'.eq_of_written_eq_nil hpieces
  | void hdir hpiece hrest ih => exact ih h' (hpieces.trans (Path.written_cons_of_none hpiece _))
  | @up links left place goal piece rest hdir hpiece hrest ih =>
    rw [Path.written_cons_of_some hpiece] at hpieces
    obtain ⟨piece', rest', hpiece', hrest', hwalks⟩ := h'.exists_cons hpieces
    cases hwalks with
    | void _ hvoid => exact nomatch hvoid.symm.trans hpiece'
    | up _ _ hgo => exact ih hgo hrest'
    | item _ hname | link _ hname => exact nomatch hname.symm.trans hpiece'
  | @item links left place goal piece rest item hdir hpiece hlong hitem hlink hrest ih =>
    rw [Path.written_cons_of_some hpiece] at hpieces
    obtain ⟨piece', rest', hpiece', hrest', hwalks⟩ := h'.exists_cons hpieces
    cases hwalks with
    | void _ hvoid => exact nomatch hvoid.symm.trans hpiece'
    | up _ hup => exact nomatch hup.symm.trans hpiece'
    | item _ hname _ _ _ hgo =>
      obtain ⟨⟩ := hname.symm.trans hpiece'
      exact ih hgo hrest'
    | link _ hname _ hitem' =>
      obtain ⟨⟩ := hname.symm.trans hpiece'
      obtain ⟨⟩ := hitem'.symm.trans hitem
      exact absurd hlink (by simp [Item.isLink])
  | @link links left place goal piece rest target hdir hpiece hlong hitem hrest ih =>
    rw [Path.written_cons_of_some hpiece] at hpieces
    obtain ⟨piece', rest', hpiece', hrest', hwalks⟩ := h'.exists_cons hpieces
    cases hwalks with
    | void _ hvoid => exact nomatch hvoid.symm.trans hpiece'
    | up _ hup => exact nomatch hup.symm.trans hpiece'
    | item _ hname _ hitem' hlink =>
      obtain ⟨⟩ := hname.symm.trans hpiece'
      obtain ⟨⟩ := hitem'.symm.trans hitem
      exact absurd hlink (by simp [Item.isLink])
    | link _ hname _ hitem' hgo =>
      obtain ⟨⟩ := hname.symm.trans hpiece'
      obtain ⟨⟩ := hitem'.symm.trans hitem
      exact ih hgo (by rw [Path.written_append, Path.written_append, hrest'])

/-- **A file holds the same text under each of its spellings.** -/
theorem readText_congr {a b : List Char} (ha : t.isFile a = true) (hb : t.isFile b = true)
    (h : Path.components a = Path.components b) : t.readText a = t.readText b := by
  obtain ⟨place, -, hplace, -⟩ := isFile_iff.1 ha
  obtain ⟨place', -, hplace', -⟩ := isFile_iff.1 hb
  obtain ⟨_, hwalks⟩ := resolve_eq_ok_iff.1 hplace
  obtain ⟨_, hwalks'⟩ := resolve_eq_ok_iff.1 hplace'
  obtain ⟨-, rfl⟩ := hwalks.walks.unique hwalks'.walks (Path.written_split_eq_of_components h.symm)
  rw [readText, readText, read, read, hplace, hplace']

end FileTree
end CommandGrove
