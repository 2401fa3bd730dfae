import CommandGrove.Proofs.Files.Walks
import Mathlib.Data.List.Induction
import Mathlib.Data.List.Nodup
import Mathlib.Data.List.Perm.Subperm

/-!
# Trees that are well formed

In a tree that is well formed each location is given once, the names on it are names that items can
have, and what an item is in is a directory.  Then the items in a directory are told by their names,
and every way ends at a file or a directory.

## What is here

* `FileTree.WellFormed` — the tree is well formed.
* `WellFormed.mem_children_iff`, `WellFormed.nodup_children` — the items in a directory.
* `WellFormed.length_le_of_item?` — nothing is deeper than there are items.
* `Walks.exists_item`, `WellFormed.walks_of_item?` — what is at the end of a way, and the way down
  to an item; `WellFormed.resolve_pathOf` — the path of a location.
* `FileTree.IsLinkFree` — no links below a directory; `Walks.goal_of_isLinkFree` — then a way down
  is told by its names.
* `FileTree.IsPlain`, `FileTree.IsTextual` — no backslashes below a directory, and only texts.
-/

set_option autoImplicit false
namespace CommandGrove

namespace FileTree

/-! ## Items -/

/-- The tree is one that a file system can have. -/
structure WellFormed (t : FileTree) : Prop where
  nodup : (t.items.map Prod.fst).Nodup
  isItemName : ∀ i ∈ t.items, ∀ name ∈ i.1, isItemName name = true
  parent : ∀ i ∈ t.items, t.item? i.1.dropLast = some .directory

variable {t : FileTree}

theorem item?_root : t.item? [] = some .directory := if_pos rfl

theorem mem_items_of_item? {place : Location} {item : Item} (hne : place ≠ [])
    (h : t.item? place = some item) : (place, item) ∈ t.items := by
  rw [item?, if_neg hne] at h
  obtain ⟨i, hi, rfl⟩ := Option.map_eq_some_iff.1 h
  have hplace : i.1 = place := by simpa using List.find?_some hi
  rw [← hplace]
  exact List.mem_of_find?_eq_some hi

/-- What is listed for an item: its name, if it is in the directory. -/
theorem listed_eq_some_iff {place : Location} {i : Location × Item} {x : List Char × Item} :
    (match i.1.getLast? with
      | some name => if i.1.dropLast = place then some (name, i.2) else none
      | none => none) = some x ↔ i = (place ++ [x.1], x.2) := by
  obtain ⟨l, item⟩ := i
  rcases List.eq_nil_or_concat' l with rfl | ⟨front, last, rfl⟩
  · refine iff_of_false (fun h => nomatch h) fun h => ?_
    exact List.append_ne_nil_of_right_ne_nil _ (List.cons_ne_nil _ _) (congrArg Prod.fst h).symm
  · simp only [List.getLast?_concat, List.dropLast_concat, Option.ite_none_right_eq_some,
      Option.some.injEq]
    constructor
    · rintro ⟨rfl, rfl⟩
      rfl
    · intro h
      obtain ⟨hplace, hitem⟩ := Prod.mk.inj h
      obtain ⟨hfront, hlast⟩ := List.append_inj' hplace rfl
      exact ⟨hfront, Prod.ext (List.cons.inj hlast).1 hitem⟩

theorem mem_children_iff {place : Location} {name : List Char} {item : Item} :
    (name, item) ∈ t.children place ↔ (place ++ [name], item) ∈ t.items := by
  refine List.mem_filterMap.trans ⟨?_, fun hmem => ⟨_, hmem, ?_⟩⟩
  · rintro ⟨i, hi, hlisted⟩
    rw [listed_eq_some_iff.1 hlisted] at hi
    exact hi
  · exact (listed_eq_some_iff (x := (name, item))).2 rfl

namespace WellFormed

variable (h : t.WellFormed)

include h

theorem item?_of_mem_items {place : Location} {item : Item} (hne : place ≠ [])
    (hmem : (place, item) ∈ t.items) : t.item? place = some item := by
  have hsome : (t.items.find? fun i => i.1 == place).isSome = true :=
    List.find?_isSome.2 ⟨_, hmem, beq_iff_eq.2 rfl⟩
  obtain ⟨i, hi⟩ := Option.isSome_iff_exists.1 hsome
  have hplace : i.1 = place := by simpa using List.find?_some hi
  have hsame := List.inj_on_of_nodup_map h.nodup (List.mem_of_find?_eq_some hi) hmem hplace
  rw [item?, if_neg hne, hi, hsame]
  rfl

/-- What an item is in is a directory. -/
theorem item?_dropLast {place : Location} {item : Item} (hitem : t.item? place = some item) :
    t.item? place.dropLast = some .directory := by
  by_cases hne : place = []
  · rw [hne]
    exact item?_root
  · exact h.parent _ (mem_items_of_item? hne hitem)

/-- **The items in a directory** are told by their names. -/
theorem mem_children_iff {place : Location} {name : List Char} {item : Item} :
    (name, item) ∈ t.children place ↔ t.item? (place ++ [name]) = some item := by
  have hne : place ++ [name] ≠ [] := List.append_ne_nil_of_right_ne_nil _ (List.cons_ne_nil _ _)
  rw [FileTree.mem_children_iff]
  exact ⟨h.item?_of_mem_items hne, mem_items_of_item? hne⟩

theorem isItemName_of_item? {place : Location} {name : List Char} {item : Item}
    (hitem : t.item? (place ++ [name]) = some item) : CommandGrove.isItemName name = true :=
  h.isItemName _ (FileTree.mem_children_iff.1 (h.mem_children_iff.2 hitem)) name
    (List.mem_append_right _ (List.mem_singleton_self name))

theorem nodup_children (place : Location) : ((t.children place).map Prod.fst).Nodup := by
  have hitems := List.pairwise_map.1 h.nodup
  rw [List.Nodup, List.pairwise_map, children, List.pairwise_filterMap]
  refine hitems.imp fun hne x hx y hy heq => hne ?_
  rw [listed_eq_some_iff.1 hx, listed_eq_some_iff.1 hy, heq]

/-- There is an item at each location on the way down. -/
theorem exists_item?_of_prefix {front place : Location} {item : Item}
    (hitem : t.item? place = some item) (hbelow : front <+: place) :
    ∃ item, t.item? front = some item := by
  induction place using List.reverseRecOn generalizing item with
  | nil => exact ⟨item, List.prefix_nil.1 hbelow ▸ hitem⟩
  | append_singleton above name ih =>
    rcases List.prefix_concat_iff.1 hbelow with rfl | habove
    · exact ⟨item, hitem⟩
    · have hparent := h.item?_dropLast hitem
      rw [List.dropLast_concat] at hparent
      exact ih hparent habove

/-- **Nothing is deeper than there are items**: each location on the way down has its own. -/
theorem length_le_of_item? {place : Location} {item : Item} (hitem : t.item? place = some item) :
    place.length ≤ t.items.length := by
  let above := (List.range place.length).map fun k => place.take (k + 1)
  have hnodup : above.Nodup := by
    refine List.Nodup.map_on (fun j hj k hk heq => ?_) List.nodup_range
    have hlengths := congrArg List.length heq
    rw [List.mem_range] at hj hk
    simp only [List.length_take] at hlengths
    omega
  have hsubset : above ⊆ t.items.map Prod.fst := by
    intro front hfront
    obtain ⟨k, hk, rfl⟩ := List.mem_map.1 hfront
    obtain ⟨i, hi⟩ := h.exists_item?_of_prefix hitem (List.take_prefix (k + 1) place)
    have hne : place.take (k + 1) ≠ [] := by
      rintro hnil
      rcases List.take_eq_nil_iff.1 hnil with hzero | rfl
      · exact nomatch hzero
      · exact absurd hk List.not_mem_nil
    exact List.mem_map_of_mem (f := Prod.fst) (mem_items_of_item? hne hi)
  have hlength := (hnodup.subperm hsubset).length_le
  rwa [List.length_map, List.length_map, List.length_range] at hlength

end WellFormed

/-! ## Ends of ways -/

/-- **Every way ends** at a directory or at a file, if it begins at one. -/
theorem Walks.exists_item (h : t.WellFormed) {links left : Nat} {place goal : Location}
    {pieces : List (List Char)} (hwalks : t.Walks links place pieces left goal)
    (hplace : t.item? place = some .directory ∨ ∃ content, t.item? place = some (.file content)) :
    t.item? goal = some .directory ∨ ∃ content, t.item? goal = some (.file content) := by
  induction hwalks with
  | arrived => exact hplace
  | void _ _ _ ih => exact ih hplace
  | up hdir _ _ ih => exact ih (Or.inl (h.item?_dropLast hdir))
  | @item links left place goal piece rest item hdir hpiece hlong hitem hlink _ ih =>
    cases item with
    | file content => exact ih (Or.inr ⟨content, hitem⟩)
    | directory => exact ih (Or.inl hitem)
    | link target => simp [Item.isLink] at hlink
  | @link links left place goal piece rest target hdir hpiece hlong hitem _ ih =>
    refine ih (Or.inl ?_)
    rw [linkStart]
    split
    · exact item?_root
    · exact hdir

theorem Resolves.exists_item (h : t.WellFormed) {path : List Char} {left : Nat} {goal : Location}
    (hresolves : t.Resolves path left goal) :
    t.item? goal = some .directory ∨ ∃ content, t.item? goal = some (.file content) :=
  hresolves.walks.exists_item h (Or.inl item?_root)

/-! ## Ways down -/

/-- The name of an item that is no link leads to it. -/
theorem walks_name {links : Nat} {place : Location} {name : List Char} {item : Item}
    (hdir : t.item? place = some .directory) (hname : isItemName name = true)
    (hitem : t.item? (place ++ [name]) = some item) (hlink : item.isLink = false) :
    t.Walks links place [name] links (place ++ [name]) :=
  .item hdir (component?_of_isItemName hname) (isTooLong_of_isItemName hname) hitem hlink .arrived

/-- **The way down to an item**: all before it are directories, so no link is followed. -/
theorem WellFormed.walks_of_item? (h : t.WellFormed) {links : Nat} {place : Location}
    {names : List (List Char)} {item : Item} (hitem : t.item? (place ++ names) = some item)
    (hlink : item.isLink = false) :
    t.Walks links place names links (place ++ names) := by
  induction names using List.reverseRecOn generalizing item with
  | nil =>
    rw [List.append_nil]
    exact .arrived
  | append_singleton front name ih =>
    rw [← List.append_assoc] at hitem ⊢
    have hdir : t.item? (place ++ front) = some .directory := by
      have hparent := h.item?_dropLast hitem
      rwa [List.dropLast_concat] at hparent
    exact walks_append_iff.2 ⟨links, place ++ front, ih hdir rfl,
      walks_name hdir (h.isItemName_of_item? hitem) hitem hlink⟩

/-- **The path of a location leads to it**, unless a link is there. -/
theorem WellFormed.resolve_pathOf (h : t.WellFormed) {place : Location} {item : Item}
    (hne : place ≠ []) (hitem : t.item? place = some item) (hlink : item.isLink = false) :
    t.resolve .follow (pathOf place) = .ok place := by
  have hslash : ∀ name ∈ place, '/' ∉ name := fun name hname =>
    slash_notMem_of_isItemName (h.isItemName _ (mem_items_of_item? hne hitem) name hname)
  have hsplit : Path.split (pathOf place) = [] :: place := by
    rw [pathOf, Path.split_slash, Path.split, Path.unsplit, Text.splitOn_joinWith hne hslash]
  have hwalks : t.Walks linkLimit [] place linkLimit place := h.walks_of_item? hitem hlink
  refine resolve_eq_ok_iff.2 ⟨linkLimit, List.cons_ne_nil _ _, ?_⟩
  rw [hsplit]
  exact .void item?_root rfl hwalks

/-- No item below a location is a link. -/
def IsLinkFree (t : FileTree) (place : Location) : Prop :=
  ∀ i ∈ t.items, place <+: i.1 → i.2.isLink = false

instance (t : FileTree) (place : Location) : Decidable (t.IsLinkFree place) :=
  inferInstanceAs (Decidable (∀ i ∈ t.items, place <+: i.1 → i.2.isLink = false))

theorem IsLinkFree.below {place : Location} (h : t.IsLinkFree place) (name : List Char) :
    t.IsLinkFree (place ++ [name]) :=
  fun i hi hbelow => h i hi ((List.prefix_append place [name]).trans hbelow)

theorem IsLinkFree.isLink_eq_false {place : Location} (h : t.IsLinkFree place) {names : Location}
    (hne : names ≠ []) {item : Item} (hitem : t.item? (place ++ names) = some item) :
    item.isLink = false :=
  h _ (mem_items_of_item? (List.append_ne_nil_of_right_ne_nil _ hne) hitem)
    (List.prefix_append place names)

/-- All names below a location are of a kind. -/
def HasNames (t : FileTree) (place : Location) (kind : List Char → Prop) : Prop :=
  ∀ i ∈ t.items, place <+: i.1 → ∀ name ∈ i.1.drop place.length, kind name

instance (t : FileTree) (place : Location) (kind : List Char → Prop) [DecidablePred kind] :
    Decidable (t.HasNames place kind) :=
  inferInstanceAs
    (Decidable (∀ i ∈ t.items, place <+: i.1 → ∀ name ∈ i.1.drop place.length, kind name))

theorem HasNames.of_item? {place names : Location} {kind : List Char → Prop}
    (h : t.HasNames place kind) {item : Item} (hitem : t.item? (place ++ names) = some item) :
    ∀ name ∈ names, kind name := by
  intro name hname
  have hne : names ≠ [] := List.ne_nil_of_mem hname
  refine h _ (mem_items_of_item? (List.append_ne_nil_of_right_ne_nil _ hne) hitem)
    (List.prefix_append place names) name ?_
  rwa [List.drop_left]

/-- No name below a location has a backslash in it. -/
def IsPlain (t : FileTree) (place : Location) : Prop := t.HasNames place ('\\' ∉ ·)

instance (t : FileTree) (place : Location) : Decidable (t.IsPlain place) :=
  inferInstanceAs (Decidable (t.HasNames place ('\\' ∉ ·)))

/-- All names below a location are texts. -/
def IsTextual (t : FileTree) (place : Location) : Prop :=
  t.HasNames place (FileName.isText · = true)

instance (t : FileTree) (place : Location) : Decidable (t.IsTextual place) :=
  inferInstanceAs (Decidable (t.HasNames place (FileName.isText · = true)))

/-- **A way down through directories** without links goes from name to name. -/
theorem Walks.goal_of_isLinkFree {links left : Nat} {place goal : Location}
    {names : List (List Char)} (hwalks : t.Walks links place names left goal)
    (hnames : ∀ name ∈ names, isItemName name = true) (hfree : t.IsLinkFree place) :
    goal = place ++ names := by
  induction hwalks with
  | arrived => exact (List.append_nil _).symm
  | void _ hpiece =>
    rw [component?_of_isItemName (hnames _ List.mem_cons_self)] at hpiece
    exact nomatch hpiece
  | up _ hpiece =>
    rw [component?_of_isItemName (hnames _ List.mem_cons_self)] at hpiece
    exact nomatch hpiece
  | @item links left place goal piece rest item hdir hpiece hlong hitem hlink _ ih =>
    rw [ih (fun name hname => hnames name (List.mem_cons_of_mem _ hname)) (hfree.below piece),
      List.append_assoc]
    rfl
  | link _ _ _ hitem =>
    simpa [Item.isLink] using hfree.isLink_eq_false (List.cons_ne_nil _ _) hitem

end FileTree
end CommandGrove
