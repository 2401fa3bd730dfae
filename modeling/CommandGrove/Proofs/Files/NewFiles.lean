import CommandGrove.Proofs.Files.WellFormed

/-!
# New files

A file is made in a directory under a name that is not taken, and is taken away again.  Whether the
name is taken and where its item stands is told by the way of the directory alone, for any ending of
the path; and a way in a tree is a way in every tree that has its items as well.

## What is here

* `Walks.mono` — a way stays one in a tree that has more items.
* `Path.leadingPieces`, `FileTree.LeadsInto` — where the items stand whose names are put behind a
  path.
* `resolve_keep_join_iff`, `createFile_join_iff` — when a name is taken, and what making a file does
  to the tree.
* `item?_put`, `put_put`, `WellFormed.item?_drop`, `WellFormed.drop_put` — what changes and what
  stays.
* `FileTree.AgreesApart` — two trees differ at most in what a path leads to; `createFile_join` and
  `drop_join`, what making and removing a file leaves as it was; `write_of_createFile`, a file that
  is made first and written then.
-/

set_option autoImplicit false
namespace CommandGrove

namespace FileTree

variable {t : FileTree}

/-- A way goes through the items that are there, so it is a way in a tree that has more of them. -/
theorem Walks.mono {t' : FileTree} (hsub : ∀ place item, t.item? place = some item →
    t'.item? place = some item) {links left : Nat} {place goal : Location}
    {pieces : List (List Char)} (h : t.Walks links place pieces left goal) :
    t'.Walks links place pieces left goal := by
  induction h with
  | arrived => exact .arrived
  | void hdir hpiece _ ih => exact .void (hsub _ _ hdir) hpiece ih
  | up hdir hpiece _ ih => exact .up (hsub _ _ hdir) hpiece ih
  | item hdir hpiece hlong hitem hlink _ ih =>
    exact .item (hsub _ _ hdir) hpiece hlong (hsub _ _ hitem) hlink ih
  | link hdir hpiece hlong hitem _ ih =>
    exact .link (hsub _ _ hdir) hpiece hlong (hsub _ _ hitem) ih

end FileTree

/-! ## Names behind a path -/

/-- The pieces that a name gets in front of it when it is put behind a path. -/
def Path.leadingPieces (base : List Char) : List (List Char) :=
  if base = [] then []
  else if base.getLast? = some '/' then (split base).dropLast
  else split base

/-- The pieces of a relative path stay as they are behind another one. -/
theorem Path.split_join_of_relative (base : List Char) {path : List Char}
    (hpath : isAbsolute path = false) :
    split (join base path) = leadingPieces base ++ split path := by
  by_cases hnil : base = []
  · simp [hnil, join, hpath, leadingPieces]
  · by_cases hslash : base.getLast? = some '/'
    · obtain ⟨front, rfl⟩ := List.getLast?_eq_some_iff.1 hslash
      have hjoin : join (front ++ ['/']) path = front ++ '/' :: path := by simp [join, hpath]
      rw [hjoin, leadingPieces, if_neg hnil, if_pos hslash, split_concat_slash,
        List.dropLast_concat, split_append_slash]
    · have hjoin : join base path = base ++ '/' :: path := by simp [join, hpath, hnil, hslash]
      rw [hjoin, leadingPieces, if_neg hnil, if_neg hslash, split_append_slash]

theorem Path.split_join (base : List Char) {name : List Char} (hname : '/' ∉ name) :
    split (join base name) = leadingPieces base ++ [name] := by
  rw [split_join_of_relative base (isAbsolute_of_notMem hname), split,
    Text.splitOn_of_notMem hname]

/-- The name is one that stands for an item, but it may be too long. -/
structure IsPieceName (name : List Char) : Prop where
  component : Path.component? name = some (.name name)
  slash : '/' ∉ name

theorem IsPieceName.ne_nil {name : List Char} (h : IsPieceName name) : name ≠ [] := by
  rintro rfl
  exact nomatch h.component

namespace FileTree

variable {t : FileTree}

/-- Names that are put behind the path `base` stand for items of the directory at `dir`. -/
structure LeadsInto (t : FileTree) (base : List Char) (dir : Location) : Prop where
  walks : ∃ left, t.Walks linkLimit [] (Path.leadingPieces base) left dir
  directory : t.item? dir = some .directory

theorem LeadsInto.unique {base : List Char} {dir dir' : Location} (h : t.LeadsInto base dir)
    (h' : t.LeadsInto base dir') : dir = dir' := by
  obtain ⟨_, hwalks⟩ := h.walks
  obtain ⟨_, hwalks'⟩ := h'.walks
  exact Except.ok.inj (hwalks.walk_eq.symm.trans hwalks'.walk_eq)

theorem LeadsInto.mono {t' : FileTree} (hsub : ∀ place item, t.item? place = some item →
    t'.item? place = some item) {base : List Char} {dir : Location} (h : t.LeadsInto base dir) :
    t'.LeadsInto base dir :=
  ⟨h.walks.imp fun _ hwalks => hwalks.mono hsub, hsub _ _ h.directory⟩

section Names

variable {base name : List Char} (hname : IsPieceName name)

include hname

theorem resolve_join (ending : Ending) :
    t.resolve ending (Path.join base name) =
      t.walk ending linkLimit [] (Path.leadingPieces base ++ [name]) := by
  have hne : Path.join base name ≠ [] := by
    intro h
    have hsplit := Path.split_join base hname.slash
    rw [h] at hsplit
    have hlast : some [] = some name :=
      (congrArg List.getLast? hsplit).trans List.getLast?_concat
    exact hname.ne_nil (Option.some.inj hlast).symm
  rw [resolve, if_neg (by simpa using hne), Path.split_join base hname.slash]

/-- From the path on, only the name is left to follow. -/
theorem LeadsInto.resolve_join {dir : Location} (h : t.LeadsInto base dir) (ending : Ending) :
    ∃ left, t.resolve ending (Path.join base name) = t.walk ending left dir [name] := by
  obtain ⟨left, hwalks⟩ := h.walks
  exact ⟨left, (FileTree.resolve_join hname ending).trans
    (hwalks.walk_append (Or.inr (List.cons_ne_nil _ _)))⟩

theorem leadsInto_of_resolve_join {ending : Ending} {goal : Location}
    (h : t.resolve ending (Path.join base name) = .ok goal) : ∃ dir, t.LeadsInto base dir := by
  rw [resolve_join hname] at h
  obtain ⟨left, dir, hwalks, hlast⟩ := (walk_append_eq_ok_iff (Or.inr (List.cons_ne_nil _ _))).1 h
  refine ⟨dir, ⟨left, hwalks⟩, Decidable.byContradiction fun hdir => ?_⟩
  rw [walk, if_pos hdir] at hlast
  cases hlast

/-- **A name is taken** if the path leads into a directory that has an item of this name. -/
theorem resolve_keep_join_iff {goal : Location} :
    t.resolve .keep (Path.join base name) = .ok goal ↔
      isTooLong name = false ∧
        ∃ dir, t.LeadsInto base dir ∧ goal = dir ++ [name] ∧ ∃ item, t.item? goal = some item := by
  constructor
  · intro h
    obtain ⟨dir, hdir⟩ := leadsInto_of_resolve_join hname h
    obtain ⟨left, hstep⟩ := hdir.resolve_join hname .keep
    rw [hstep] at h
    have hkept : Ending.keep ≠ .create := nofun
    cases hlong : isTooLong name with
    | true =>
      rw [walk_tooLong hdir.directory hname.component hlong] at h
      cases h
    | false =>
      cases hitem : t.item? (dir ++ [name]) with
      | none =>
        rw [walk_absent hdir.directory hname.component hlong hitem (Or.inl hkept)] at h
        cases h
      | some item =>
        rw [walk_keep hdir.directory hname.component hlong hitem] at h
        exact ⟨rfl, dir, hdir, (Except.ok.inj h).symm, item, Except.ok.inj h ▸ hitem⟩
  · rintro ⟨hlong, dir, hdir, rfl, item, hitem⟩
    obtain ⟨left, hstep⟩ := hdir.resolve_join hname .keep
    rw [hstep, walk_keep hdir.directory hname.component hlong hitem]

/-- Writing goes to the place that the path leads to: no slash is at its end. -/
theorem write_join_iff {content : Content} {t' : FileTree} :
    t.write (Path.join base name) content = .ok t' ↔
      ∃ place, t.resolve .create (Path.join base name) = .ok place ∧
        t.item? place ≠ some .directory ∧ t' = t.put place (.file content) := by
  have hpieces : withoutSlashes (Path.leadingPieces base ++ [name]) =
      Path.leadingPieces base ++ [name] := by
    simp [withoutSlashes, hname.ne_nil]
  have hsame : Path.unsplit (withoutSlashes (Path.split (Path.join base name))) =
      Path.join base name := by
    rw [Path.split_join base hname.slash, hpieces, ← Path.split_join base hname.slash]
    exact Text.joinWith_splitOn '/' _
  have hlast : (Path.join base name).getLast? ≠ some '/' := by
    obtain ⟨front, hfront⟩ := exists_join_eq base
    rw [hfront name (Path.isAbsolute_of_notMem hname.slash),
      List.getLast?_append_of_ne_nil _ hname.ne_nil]
    exact fun h => hname.slash (List.mem_of_getLast? h)
  rw [write, hsame]
  simp only [hlast, false_or]
  cases t.resolve .create (Path.join base name) with
  | error fault => simp
  | ok place =>
    by_cases hdir : t.item? place = some .directory
    · simp [hdir]
    · simp [hdir, @eq_comm _ _ t']

/-- **A new file is made** if the path leads into a directory that has no item of the name. -/
theorem createFile_join_iff {content : Content} {t' : FileTree} :
    t.createFile (Path.join base name) content = .ok t' ↔
      isTooLong name = false ∧
        ∃ dir, t.LeadsInto base dir ∧ t.item? (dir ++ [name]) = none ∧
          t' = t.put (dir ++ [name]) (.file content) := by
  constructor
  · intro h
    unfold createFile at h
    split at h
    · cases h
    · next hkeep =>
      obtain ⟨place, hplace, -, rfl⟩ := (write_join_iff hname).1 h
      obtain ⟨dir, hdir⟩ := leadsInto_of_resolve_join hname hplace
      obtain ⟨left, hstep⟩ := hdir.resolve_join hname .create
      obtain ⟨left', hstep'⟩ := hdir.resolve_join hname .keep
      rw [hkeep] at hstep'
      cases hlong : isTooLong name with
      | true =>
        rw [walk_tooLong hdir.directory hname.component hlong] at hstep'
        cases hstep'
      | false =>
        cases hitem : t.item? (dir ++ [name]) with
        | some item =>
          rw [walk_keep hdir.directory hname.component hlong hitem] at hstep'
          cases hstep'
        | none =>
          rw [hplace, walk_create hdir.directory hname.component hlong hitem] at hstep
          exact ⟨rfl, dir, hdir, hitem, Except.ok.inj hstep ▸ rfl⟩
    · cases h
  · rintro ⟨hlong, dir, hdir, hitem, rfl⟩
    have hkept : Ending.keep ≠ .create := nofun
    obtain ⟨left, hkeep⟩ := hdir.resolve_join hname .keep
    rw [walk_absent hdir.directory hname.component hlong hitem (Or.inl hkept)] at hkeep
    obtain ⟨left, hcreate⟩ := hdir.resolve_join hname .create
    rw [walk_create hdir.directory hname.component hlong hitem] at hcreate
    rw [createFile, hkeep]
    exact (write_join_iff hname).2 ⟨_, hcreate, hitem ▸ nofun, rfl⟩

end Names

/-! ## What changes and what stays -/

theorem ne_nil_of_item?_eq_none {place : Location} (h : t.item? place = none) : place ≠ [] := by
  rintro rfl
  rw [item?_root] at h
  exact nomatch h

/-- The item at a location among those that stay. -/
theorem find?_filter_fst (items : List (Location × Item)) (stays : Location → Bool) (l : Location) :
    (items.filter fun i => stays i.1).find? (fun i => i.1 == l) =
      if stays l then items.find? fun i => i.1 == l else none := by
  rw [List.find?_filter]
  split
  · next hl =>
    refine congrArg (List.find? · items) (funext fun i => ?_)
    by_cases hi : i.1 = l <;> simp [hi, hl]
  · next hl =>
    refine List.find?_eq_none.2 fun i _ h => hl ?_
    obtain ⟨hstays, rfl⟩ : stays i.1 = true ∧ i.1 = l := by simpa using h
    exact hstays

theorem item?_put {place : Location} (hne : place ≠ []) (item : Item) (l : Location) :
    (t.put place item).item? l = if l = place then some item else t.item? l := by
  by_cases hl : l = place
  · rw [if_pos hl, item?, if_neg (hl ▸ hne)]
    simp [put, hl]
  · have hfind := find?_filter_fst t.items (· != place) l
    rw [if_pos (bne_iff_ne.2 hl)] at hfind
    rw [if_neg hl, item?, item?, put, List.find?_cons_of_neg (by simpa using Ne.symm hl), hfind]

/-- What is put at a location takes the place of what was put there before. -/
theorem put_put (place : Location) (first second : Item) :
    (t.put place first).put place second = t.put place second := by
  have hfilter : ((t.items.filter fun i => i.1 != place).filter fun i => i.1 != place) =
      t.items.filter fun i => i.1 != place := by
    rw [List.filter_filter]
    simp
  rw [put, put, put, List.filter_cons_of_neg (by simp), hfilter]

namespace WellFormed

variable (h : t.WellFormed)

include h

/-- Below what is no directory there is nothing. -/
theorem item?_eq_none_of_prefix {place l : Location} (hdir : t.item? place ≠ some .directory)
    (hbelow : place <+: l) (hne : l ≠ place) : t.item? l = none := by
  obtain ⟨names, rfl⟩ := hbelow
  cases names with
  | nil => exact absurd (List.append_nil place) hne
  | cons name rest =>
    refine Option.eq_none_iff_forall_ne_some.2 fun item hitem => hdir ?_
    have hprefix : place ++ [name] <+: place ++ name :: rest := ⟨rest, by simp⟩
    obtain ⟨next, hnext⟩ := h.exists_item?_of_prefix hitem hprefix
    have hparent := h.item?_dropLast hnext
    rwa [List.dropLast_concat] at hparent

/-- **Taking a file away changes nothing else.** -/
theorem item?_drop {place : Location} (hdir : t.item? place ≠ some .directory) (l : Location) :
    (t.drop place).item? l = if l = place then none else t.item? l := by
  have hne : place ≠ [] := fun hroot => hdir (hroot ▸ item?_root)
  have hfind := find?_filter_fst t.items (fun l => !place.isPrefixOf l) l
  by_cases hl : l = place
  · rw [if_neg (by simp [hl])] at hfind
    rw [if_pos hl, item?, if_neg (hl ▸ hne), drop, hfind]
    rfl
  · by_cases hbelow : place <+: l
    · have hnone := h.item?_eq_none_of_prefix hdir hbelow hl
      rw [if_neg (by simpa using hbelow)] at hfind
      rw [if_neg hl, hnone, item?, if_neg (ne_nil_of_item?_eq_none hnone), drop, hfind]
      rfl
    · rw [if_pos (by simpa [← List.isPrefixOf_iff_prefix] using hbelow)] at hfind
      rw [if_neg hl, item?, item?, drop, hfind]

/-- Taking a new file away gives the tree back. -/
theorem drop_put {place : Location} (hnone : t.item? place = none) (item : Item) :
    (t.put place item).drop place = t := by
  have hstays : ∀ i ∈ t.items, ¬place <+: i.1 := by
    intro i hi hbelow
    have hne : i.1 ≠ [] := fun hroot =>
      ne_nil_of_item?_eq_none hnone (List.prefix_nil.1 (hroot ▸ hbelow))
    obtain ⟨above, habove⟩ := h.exists_item?_of_prefix (h.item?_of_mem_items hne hi) hbelow
    exact nomatch hnone.symm.trans habove
  have hkept : (t.items.filter fun i => i.1 != place).filter
      (fun i => !place.isPrefixOf i.1) = t.items := by
    rw [List.filter_filter, List.filter_eq_self]
    intro i hi
    have hne : i.1 ≠ place := fun heq => hstays i hi (heq ▸ List.prefix_refl _)
    simpa [← List.isPrefixOf_iff_prefix, hne] using hstays i hi
  rw [drop, put, List.filter_cons_of_neg (by simp), hkept]

end WellFormed

/-! ## Making and removing a file -/

/-- A path still leads into a directory when something new is put somewhere. -/
theorem LeadsInto.put {base : List Char} {dir place : Location} (h : t.LeadsInto base dir)
    (hnone : t.item? place = none) (item : Item) : (t.put place item).LeadsInto base dir := by
  refine h.mono fun l there hthere => ?_
  rw [item?_put (ne_nil_of_item?_eq_none hnone), if_neg, hthere]
  rintro rfl
  exact nomatch hnone.symm.trans hthere

/-- The trees differ at most in the item that a path leads to in one of them. -/
def AgreesApart (a b : FileTree) (path : List Char) : Prop :=
  ∀ place, a.resolve .keep path ≠ .ok place → b.resolve .keep path ≠ .ok place →
    a.item? place = b.item? place

section Names

variable {base name : List Char} (hname : IsPieceName name)

include hname

/-- A new file that is written once more is a new file with what is written. -/
theorem write_of_createFile {content content' : Content} {t' : FileTree}
    (h : t.createFile (Path.join base name) content = .ok t') :
    ∃ t'', t'.write (Path.join base name) content' = .ok t'' ∧
      t.createFile (Path.join base name) content' = .ok t'' := by
  obtain ⟨hlong, dir, hdir, hnone, rfl⟩ := (createFile_join_iff hname).1 h
  have hput := item?_put (t := t) (ne_nil_of_item?_eq_none hnone) (.file content)
  have hdir' : (t.put (dir ++ [name]) (.file content)).LeadsInto base dir :=
    hdir.put hnone (.file content)
  have hitem : (t.put (dir ++ [name]) (.file content)).item? (dir ++ [name]) =
      some (.file content) := (hput _).trans (if_pos rfl)
  obtain ⟨left, hcreate⟩ := hdir'.resolve_join hname .create
  rw [walk_item hdir'.directory hname.component hlong hitem rfl, walk_nil] at hcreate
  refine ⟨_, (write_join_iff hname).2 ⟨_, hcreate, hitem ▸ nofun, rfl⟩, ?_⟩
  exact (createFile_join_iff hname).2 ⟨hlong, dir, hdir, hnone, put_put _ _ _⟩

/-- **A new file holds what it was made with**, and nothing else is changed: without the file, the
tree is what it was. -/
theorem createFile_join {text : String} {t' : FileTree}
    (h : t.createFile (Path.join base name) (.text text) = .ok t') :
    t'.readText (Path.join base name) = .ok text ∧ t.AgreesApart t' (Path.join base name) ∧
      ∃ place, t'.resolve .keep (Path.join base name) = .ok place ∧
        t'.item? place ≠ some .directory ∧ (t.WellFormed → t'.drop place = t) := by
  obtain ⟨hlong, dir, hdir, hnone, rfl⟩ := (createFile_join_iff hname).1 h
  have hput := item?_put (t := t) (ne_nil_of_item?_eq_none hnone) (.file (.text text))
  have hdir' : (t.put (dir ++ [name]) (.file (.text text))).LeadsInto base dir :=
    hdir.put hnone (.file (.text text))
  have hitem : (t.put (dir ++ [name]) (.file (.text text))).item? (dir ++ [name]) =
      some (.file (.text text)) := (hput _).trans (if_pos rfl)
  have hkeep := (resolve_keep_join_iff hname).2 ⟨hlong, dir, hdir', rfl, _, hitem⟩
  refine ⟨?_, fun place _ hplace => ?_, _, hkeep, ?_, fun hwell => hwell.drop_put hnone _⟩
  · obtain ⟨left, hfollow⟩ := hdir'.resolve_join hname .follow
    rw [walk_item hdir'.directory hname.component hlong hitem rfl, walk_nil] at hfollow
    exact readText_eq_ok hfollow hitem
  · have hne : place ≠ dir ++ [name] := fun heq => hplace (heq ▸ hkeep)
    exact ((hput place).trans (if_neg hne)).symm
  · rw [hitem]
    exact nofun

/-- **A file that is taken away is gone**, and nothing else is changed. -/
theorem drop_join (h : t.WellFormed) {place : Location}
    (hplace : t.resolve .keep (Path.join base name) = .ok place)
    (hdir : t.item? place ≠ some .directory) :
    (∀ goal, (t.drop place).resolve .keep (Path.join base name) ≠ .ok goal) ∧
      t.AgreesApart (t.drop place) (Path.join base name) := by
  have hdrop := h.item?_drop hdir
  obtain ⟨-, dir, hinto, rfl, -⟩ := (resolve_keep_join_iff hname).1 hplace
  refine ⟨fun goal hgoal => ?_, fun l hl _ => ?_⟩
  · obtain ⟨-, dir', hinto', rfl, item, hitem⟩ := (resolve_keep_join_iff hname).1 hgoal
    -- the way in the smaller tree is the way in the tree, so it ends at what was taken away
    have hsame : dir' = dir := by
      refine LeadsInto.unique (hinto'.mono fun l item hitem => ?_) hinto
      rw [hdrop] at hitem
      split at hitem
      · exact nomatch hitem
      · exact hitem
    rw [hsame, hdrop, if_pos rfl] at hitem
    exact nomatch hitem
  · have hne : l ≠ dir ++ [name] := fun heq => hl (heq ▸ hplace)
    exact ((hdrop l).trans (if_neg hne)).symm

end Names

end FileTree
end CommandGrove
