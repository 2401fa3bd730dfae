import CommandGrove.FileTree

/-!
# The way of a path

Following a path is going through its pieces, one after the other: a piece may mean nothing, lead
up, name an item or name a link, and the pieces of the target of a link come before the others.
`FileTree.Walks` says so without the order of the tests, and without what is answered if there is
no way.

## What is here

* `isItemName` — the name is one that an item can have.
* `FileTree.Walks` — the ways of the pieces of a path, with the number of links left;
  `walk_append_eq_ok_iff` — a walk goes along them, whatever its ending; `walk_eq_ok_iff` — a walk
  that follows every link finds them.
* `walks_append_iff` — a way can be cut between any two pieces.
* `FileTree.Resolves` — the ways of paths from the root; `resolves_join_iff` — the way of a path
  below another one.
* `FileTree.isFile_iff`, `FileTree.readText_eq_ok` — what is at the end of a way.
* `FileTree.descend` — the path down from a path, told by names; `resolves_descend_iff` — its way.
-/

set_option autoImplicit false
namespace CommandGrove

/-! ## Pieces -/

namespace Path

theorem component?_eq_none_iff {piece : List Char} :
    component? piece = none ↔ piece = [] ∨ piece = ['.'] := by
  unfold component?
  split
  · next h => simpa using h
  · next h =>
    split
    · exact iff_of_false (Option.some_ne_none _) (by simpa using h)
    · exact iff_of_false (Option.some_ne_none _) (by simpa using h)

theorem component?_eq_up_iff {piece : List Char} :
    component? piece = some .up ↔ piece = ['.', '.'] := by
  constructor
  · intro h
    unfold component? at h
    split at h
    · exact nomatch h
    · split at h
      · next hup => exact beq_iff_eq.1 hup
      · exact nomatch h
  · rintro rfl
    decide

theorem component?_eq_name {piece : List Char} (hvoid : ¬(piece = [] ∨ piece = ['.']))
    (hup : piece ≠ ['.', '.']) : component? piece = some (.name piece) := by
  unfold component?
  rw [if_neg (by simpa using hvoid), if_neg (mt beq_iff_eq.1 hup)]

theorem ne_of_component?_eq_name {piece name : List Char}
    (h : component? piece = some (.name name)) :
    ¬(piece = [] ∨ piece = ['.']) ∧ piece ≠ ['.', '.'] := by
  rw [← component?_eq_none_iff, Ne, ← component?_eq_up_iff, h]
  exact ⟨Option.some_ne_none _, fun heq => nomatch Option.some.inj heq⟩

theorem isAbsolute_of_notMem {path : List Char} (h : '/' ∉ path) : isAbsolute path = false := by
  cases path with
  | nil => rfl
  | cons c rest =>
    have hc : c ≠ '/' := fun hc => h (hc ▸ List.mem_cons_self)
    simpa [isAbsolute] using hc

theorem split_append_slash (front back : List Char) :
    split (front ++ '/' :: back) = split front ++ split back :=
  Text.splitOn_append_cons '/' front back

theorem split_concat_slash (front : List Char) : split (front ++ ['/']) = split front ++ [[]] :=
  split_append_slash front []

theorem split_slash (back : List Char) : split ('/' :: back) = [] :: split back :=
  split_append_slash [] back

end Path

/-- The name is one that an item can have: it is no piece of another meaning, has no slash in it
and is not too long. -/
def isItemName (name : List Char) : Bool :=
  Path.component? name == some (.name name) && !name.contains '/' && !FileTree.isTooLong name

section ItemName

variable {name : List Char} (h : isItemName name = true)

include h

theorem component?_of_isItemName : Path.component? name = some (.name name) := by
  simp only [isItemName, Bool.and_eq_true, beq_iff_eq] at h
  exact h.1.1

theorem slash_notMem_of_isItemName : '/' ∉ name := by
  simp only [isItemName, Bool.and_eq_true] at h
  simpa using h.1.2

theorem isTooLong_of_isItemName : FileTree.isTooLong name = false := by
  simp only [isItemName, Bool.and_eq_true] at h
  simpa using h.2

theorem split_of_isItemName : Path.split name = [name] :=
  Text.splitOn_of_notMem (slash_notMem_of_isItemName h)

theorem ne_nil_of_isItemName : name ≠ [] := by
  rintro rfl
  exact absurd h (by decide)

end ItemName

/-- The item is a link. -/
def Item.isLink : Item → Bool
  | .link _ => true
  | .file _ | .directory => false

namespace FileTree

/-! ## Ways -/

/-- The target of a link begins at the root, or in the directory that the link is in. -/
def linkStart (place : Location) (target : List Char) : Location :=
  if Path.isAbsolute target then [] else place

/-- From a location, the pieces of a path lead to a location; `links` more links can be followed
before, and `left` more of them behind. -/
inductive Walks (t : FileTree) :
    Nat → Location → List (List Char) → Nat → Location → Prop
  | arrived {links : Nat} {place : Location} : Walks t links place [] links place
  | void {links left : Nat} {place goal : Location} {piece : List Char} {rest : List (List Char)}
      (hdir : t.item? place = some .directory) (hpiece : Path.component? piece = none)
      (hrest : Walks t links place rest left goal) : Walks t links place (piece :: rest) left goal
  | up {links left : Nat} {place goal : Location} {piece : List Char} {rest : List (List Char)}
      (hdir : t.item? place = some .directory) (hpiece : Path.component? piece = some .up)
      (hrest : Walks t links place.dropLast rest left goal) :
      Walks t links place (piece :: rest) left goal
  | item {links left : Nat} {place goal : Location} {piece : List Char} {rest : List (List Char)}
      {item : Item} (hdir : t.item? place = some .directory)
      (hpiece : Path.component? piece = some (.name piece)) (hlong : isTooLong piece = false)
      (hitem : t.item? (place ++ [piece]) = some item) (hlink : item.isLink = false)
      (hrest : Walks t links (place ++ [piece]) rest left goal) :
      Walks t links place (piece :: rest) left goal
  | link {links left : Nat} {place goal : Location} {piece : List Char} {rest : List (List Char)}
      {target : List Char} (hdir : t.item? place = some .directory)
      (hpiece : Path.component? piece = some (.name piece)) (hlong : isTooLong piece = false)
      (hitem : t.item? (place ++ [piece]) = some (.link target))
      (hrest : Walks t links (linkStart place target) (Path.split target ++ rest) left goal) :
      Walks t (links + 1) place (piece :: rest) left goal

variable {t : FileTree}

/-! ### Steps -/

section Steps

variable {ending : Ending} {links : Nat} {place : Location} {piece : List Char}
  {rest : List (List Char)}

@[simp] theorem walk_nil : t.walk ending links place [] = .ok place := by rw [walk]

variable (hdir : t.item? place = some .directory)

include hdir

theorem walk_void (hpiece : Path.component? piece = none) :
    t.walk ending links place (piece :: rest) = t.walk ending links place rest := by
  rw [walk, if_neg (not_not_intro hdir), if_pos (Path.component?_eq_none_iff.1 hpiece)]

theorem walk_up (hpiece : Path.component? piece = some .up) :
    t.walk ending links place (piece :: rest) = t.walk ending links place.dropLast rest := by
  rw [Path.component?_eq_up_iff.1 hpiece, walk, if_neg (not_not_intro hdir), if_neg (by decide),
    if_pos rfl]

variable (hpiece : Path.component? piece = some (.name piece))

include hpiece

theorem walk_tooLong (hlong : isTooLong piece = true) :
    t.walk ending links place (piece :: rest) = .error .nameTooLong := by
  obtain ⟨hvoid, hup⟩ := Path.ne_of_component?_eq_name hpiece
  rw [walk, if_neg (not_not_intro hdir), if_neg hvoid, if_neg hup, if_pos hlong]

variable (hlong : isTooLong piece = false)

include hlong

theorem walk_absent (hitem : t.item? (place ++ [piece]) = none)
    (hmust : ending ≠ .create ∨ rest ≠ []) :
    t.walk ending links place (piece :: rest) = .error .notFound := by
  obtain ⟨hvoid, hup⟩ := Path.ne_of_component?_eq_name hpiece
  rw [walk, if_neg (not_not_intro hdir), if_neg hvoid, if_neg hup,
    if_neg (Bool.not_eq_true _ ▸ hlong), hitem]
  exact if_neg fun hcreate => hmust.elim (· hcreate.1) (· hcreate.2)

/-- At the end of a path nothing has to be there for a walk that looks for a place. -/
theorem walk_create (hitem : t.item? (place ++ [piece]) = none) :
    t.walk .create links place [piece] = .ok (place ++ [piece]) := by
  obtain ⟨hvoid, hup⟩ := Path.ne_of_component?_eq_name hpiece
  rw [walk, if_neg (not_not_intro hdir), if_neg hvoid, if_neg hup,
    if_neg (Bool.not_eq_true _ ▸ hlong), hitem]
  exact if_pos ⟨rfl, rfl⟩

theorem walk_item {item : Item} (hitem : t.item? (place ++ [piece]) = some item)
    (hlink : item.isLink = false) :
    t.walk ending links place (piece :: rest) = t.walk ending links (place ++ [piece]) rest := by
  obtain ⟨hvoid, hup⟩ := Path.ne_of_component?_eq_name hpiece
  rw [walk, if_neg (not_not_intro hdir), if_neg hvoid, if_neg hup,
    if_neg (Bool.not_eq_true _ ▸ hlong), hitem]
  cases item with
  | file content => rfl
  | directory => rfl
  | link target => simp [Item.isLink] at hlink

theorem walk_link {target : List Char} (hitem : t.item? (place ++ [piece]) = some (.link target))
    (hgo : ending ≠ .keep ∨ rest ≠ []) :
    t.walk ending (links + 1) place (piece :: rest) =
      t.walk ending links (linkStart place target) (Path.split target ++ rest) := by
  obtain ⟨hvoid, hup⟩ := Path.ne_of_component?_eq_name hpiece
  rw [walk, if_neg (not_not_intro hdir), if_neg hvoid, if_neg hup,
    if_neg (Bool.not_eq_true _ ▸ hlong), hitem]
  exact if_neg fun hkeep => hgo.elim (· hkeep.1) (· hkeep.2)

/-- A link at the end of a path is not followed by a walk that keeps it. -/
theorem walk_keep {item : Item} (hitem : t.item? (place ++ [piece]) = some item) :
    t.walk .keep links place [piece] = .ok (place ++ [piece]) := by
  cases hlink : item.isLink with
  | false => rw [walk_item hdir hpiece hlong hitem hlink, walk_nil]
  | true =>
    obtain ⟨hvoid, hup⟩ := Path.ne_of_component?_eq_name hpiece
    rw [walk, if_neg (not_not_intro hdir), if_neg hvoid, if_neg hup,
      if_neg (Bool.not_eq_true _ ▸ hlong), hitem]
    cases item with
    | file content | directory => exact absurd hlink Bool.false_ne_true
    | link target => exact if_pos ⟨rfl, rfl⟩

end Steps

/-! ### Walks along ways -/

/-- A walk goes on where the way of its first pieces ends.  If no pieces follow, the last link has
to be followed as well. -/
theorem Walks.walk_append {ending : Ending} {links left : Nat} {place mid : Location}
    {front back : List (List Char)} (h : t.Walks links place front left mid)
    (hend : ending = .follow ∨ back ≠ []) :
    t.walk ending links place (front ++ back) = t.walk ending left mid back := by
  induction h with
  | arrived => rfl
  | void hdir hpiece _ ih => exact (walk_void hdir hpiece).trans ih
  | up hdir hpiece _ ih => exact (walk_up hdir hpiece).trans ih
  | item hdir hpiece hlong hitem hlink _ ih =>
    exact (walk_item hdir hpiece hlong hitem hlink).trans ih
  | @link links left place goal piece rest target hdir hpiece hlong hitem _ ih =>
    have hgo : ending ≠ .keep ∨ rest ++ back ≠ [] :=
      hend.imp (fun hfollow : ending = .follow => hfollow ▸ nofun)
        (List.append_ne_nil_of_right_ne_nil rest)
    rw [List.append_assoc] at ih
    exact (walk_link hdir hpiece hlong hitem hgo).trans ih

/-- A walk that ends has gone the way of its first pieces. -/
theorem exists_walks_of_walk_append {ending : Ending} {links : Nat} {place goal : Location}
    {front back : List (List Char)} (hend : ending = .follow ∨ back ≠ [])
    (h : t.walk ending links place (front ++ back) = .ok goal) :
    ∃ left mid, t.Walks links place front left mid := by
  -- the last piece is one of `back`, or else the walk follows links to the end
  have hlast {others : List (List Char)} (hnil : others ++ back = []) : ending = .follow :=
    hend.resolve_right (not_not_intro (List.append_eq_nil_iff.1 hnil).2)
  generalize hpieces : front ++ back = pieces at h
  fun_induction walk t ending links place pieces generalizing front with
  | case1 links place =>
    rw [(List.append_eq_nil_iff.1 hpieces).1]
    exact ⟨links, place, .arrived⟩
  | case3 links place piece rest hdir hpiece ih =>
    rcases List.append_eq_cons_iff.1 hpieces with ⟨rfl, -⟩ | ⟨front, rfl, rfl⟩
    · exact ⟨links, place, .arrived⟩
    · obtain ⟨left, mid, hfront⟩ := ih rfl h
      exact ⟨left, mid, .void (Decidable.not_not.1 hdir) (Path.component?_eq_none_iff.2 hpiece)
        hfront⟩
  | case4 links place rest hdir hpiece ih =>
    rcases List.append_eq_cons_iff.1 hpieces with ⟨rfl, -⟩ | ⟨front, rfl, rfl⟩
    · exact ⟨links, place, .arrived⟩
    · obtain ⟨left, mid, hfront⟩ := ih rfl h
      exact ⟨left, mid, .up (Decidable.not_not.1 hdir) (Path.component?_eq_up_iff.2 rfl) hfront⟩
  | case6 links place piece rest hdir hvoid hup hlong hitem hcreate =>
    rcases List.append_eq_cons_iff.1 hpieces with ⟨rfl, -⟩ | ⟨front, rfl, hrest⟩
    · exact ⟨links, place, .arrived⟩
    · exact absurd (hcreate.1.symm.trans (hlast (hrest.symm.trans hcreate.2))) nofun
  | case8 links place piece rest hdir hvoid hup hlong target hitem hkeep =>
    rcases List.append_eq_cons_iff.1 hpieces with ⟨rfl, -⟩ | ⟨front, rfl, hrest⟩
    · exact ⟨links, place, .arrived⟩
    · exact absurd (hkeep.1.symm.trans (hlast (hrest.symm.trans hkeep.2))) nofun
  | case10 place piece rest hdir hvoid hup hlong target hitem hkeep links ih =>
    rcases List.append_eq_cons_iff.1 hpieces with ⟨rfl, -⟩ | ⟨front, rfl, rfl⟩
    · exact ⟨links + 1, place, .arrived⟩
    · obtain ⟨left, mid, hfront⟩ := ih (List.append_assoc _ front back) h
      exact ⟨left, mid, .link (Decidable.not_not.1 hdir) (Path.component?_eq_name hvoid hup)
        (Bool.eq_false_iff.2 hlong) hitem hfront⟩
  | case11 links place piece rest hdir hvoid hup hlong item hlink hitem ih =>
    rcases List.append_eq_cons_iff.1 hpieces with ⟨rfl, -⟩ | ⟨front, rfl, rfl⟩
    · exact ⟨links, place, .arrived⟩
    · obtain ⟨left, mid, hfront⟩ := ih rfl h
      have hlink : item.isLink = false := by
        cases item with
        | file content => rfl
        | directory => rfl
        | link target => exact absurd rfl (hlink target)
      exact ⟨left, mid, .item (Decidable.not_not.1 hdir) (Path.component?_eq_name hvoid hup)
        (Bool.eq_false_iff.2 hlong) hitem hlink hfront⟩
  | case2 | case5 | case7 | case9 => exact nomatch h

/-- **A walk can be cut** behind any of its pieces; one that does not follow the last link only in
front of its last piece. -/
theorem walk_append_eq_ok_iff {ending : Ending} {links : Nat} {place goal : Location}
    {front back : List (List Char)} (hend : ending = .follow ∨ back ≠ []) :
    t.walk ending links place (front ++ back) = .ok goal ↔
      ∃ left mid, t.Walks links place front left mid ∧ t.walk ending left mid back = .ok goal := by
  constructor
  · intro h
    obtain ⟨left, mid, hfront⟩ := exists_walks_of_walk_append hend h
    exact ⟨left, mid, hfront, (hfront.walk_append hend).symm.trans h⟩
  · rintro ⟨left, mid, hfront, h⟩
    exact (hfront.walk_append hend).trans h

theorem Walks.walk_eq {links left : Nat} {place goal : Location} {pieces : List (List Char)}
    (h : t.Walks links place pieces left goal) : t.walk .follow links place pieces = .ok goal :=
  calc t.walk .follow links place pieces
    _ = t.walk .follow links place (pieces ++ []) := by rw [List.append_nil]
    _ = t.walk .follow left goal [] := h.walk_append (Or.inl rfl)
    _ = .ok goal := walk_nil

/-- **A walk finds the way that there is**, and if it finds none there is none. -/
theorem walk_eq_ok_iff {links : Nat} {place goal : Location} {pieces : List (List Char)} :
    t.walk .follow links place pieces = .ok goal ↔ ∃ left, t.Walks links place pieces left goal := by
  refine ⟨fun h => ?_, fun ⟨_, h⟩ => h.walk_eq⟩
  rw [← List.append_nil pieces] at h
  obtain ⟨left, mid, hwalks, hend⟩ := (walk_append_eq_ok_iff (Or.inl rfl)).1 h
  rw [walk_nil] at hend
  exact ⟨left, Except.ok.inj hend ▸ hwalks⟩

/-- The pieces begin in a directory. -/
theorem Walks.item?_place {links left : Nat} {place goal : Location} {piece : List Char}
    {rest : List (List Char)} (h : t.Walks links place (piece :: rest) left goal) :
    t.item? place = some .directory := by
  cases h <;> assumption

/-- No links come back on the way. -/
theorem Walks.left_le {links left : Nat} {place goal : Location} {pieces : List (List Char)}
    (h : t.Walks links place pieces left goal) : left ≤ links := by
  induction h with
  | arrived => exact Nat.le_refl _
  | void _ _ _ ih | up _ _ _ ih | item _ _ _ _ _ _ ih => exact ih
  | link _ _ _ _ _ ih => exact Nat.le_succ_of_le ih

/-- **A way can be cut between any two pieces.** -/
theorem walks_append_iff {links left : Nat} {place goal : Location} {front back : List (List Char)} :
    t.Walks links place (front ++ back) left goal ↔
      ∃ k mid, t.Walks links place front k mid ∧ t.Walks k mid back left goal := by
  constructor
  · intro h
    generalize hpieces : front ++ back = pieces at h
    induction h generalizing front with
    | @arrived links place =>
      obtain ⟨rfl, rfl⟩ := List.append_eq_nil_iff.1 hpieces
      exact ⟨links, place, .arrived, .arrived⟩
    | @void links left place goal piece rest hdir hpiece hrest ih =>
      rcases List.append_eq_cons_iff.1 hpieces with ⟨rfl, rfl⟩ | ⟨front, rfl, rfl⟩
      · exact ⟨links, place, .arrived, .void hdir hpiece hrest⟩
      · obtain ⟨k, mid, hfront, hback⟩ := ih rfl
        exact ⟨k, mid, .void hdir hpiece hfront, hback⟩
    | @up links left place goal piece rest hdir hpiece hrest ih =>
      rcases List.append_eq_cons_iff.1 hpieces with ⟨rfl, rfl⟩ | ⟨front, rfl, rfl⟩
      · exact ⟨links, place, .arrived, .up hdir hpiece hrest⟩
      · obtain ⟨k, mid, hfront, hback⟩ := ih rfl
        exact ⟨k, mid, .up hdir hpiece hfront, hback⟩
    | @item links left place goal piece rest item hdir hpiece hlong hitem hlink hrest ih =>
      rcases List.append_eq_cons_iff.1 hpieces with ⟨rfl, rfl⟩ | ⟨front, rfl, rfl⟩
      · exact ⟨links, place, .arrived, .item hdir hpiece hlong hitem hlink hrest⟩
      · obtain ⟨k, mid, hfront, hback⟩ := ih rfl
        exact ⟨k, mid, .item hdir hpiece hlong hitem hlink hfront, hback⟩
    | @link links left place goal piece rest target hdir hpiece hlong hitem hrest ih =>
      rcases List.append_eq_cons_iff.1 hpieces with ⟨rfl, rfl⟩ | ⟨front, rfl, rfl⟩
      · exact ⟨links + 1, place, .arrived, .link hdir hpiece hlong hitem hrest⟩
      · -- the pieces of the target come before those that are left of the front
        obtain ⟨k, mid, hfront, hback⟩ := ih (List.append_assoc _ front back)
        exact ⟨k, mid, .link hdir hpiece hlong hitem hfront, hback⟩
  · rintro ⟨k, mid, hfront, hback⟩
    induction hfront with
    | arrived => exact hback
    | void hdir hpiece _ ih => exact .void hdir hpiece (ih hback)
    | up hdir hpiece _ ih => exact .up hdir hpiece (ih hback)
    | item hdir hpiece hlong hitem hlink _ ih => exact .item hdir hpiece hlong hitem hlink (ih hback)
    | link hdir hpiece hlong hitem _ ih =>
      have hrest := ih hback
      rw [List.append_assoc] at hrest
      exact .link hdir hpiece hlong hitem hrest

/-! ## Ways of paths -/

/-- From the root, a path leads to a location, and `left` more links can be followed behind. -/
structure Resolves (t : FileTree) (path : List Char) (left : Nat) (goal : Location) : Prop where
  ne_nil : path ≠ []
  walks : t.Walks linkLimit [] (Path.split path) left goal

theorem resolve_eq_ok_iff {path : List Char} {goal : Location} :
    t.resolve .follow path = .ok goal ↔ ∃ left, t.Resolves path left goal := by
  unfold resolve
  split
  · next h =>
    refine iff_of_false (fun h => nomatch h) ?_
    rintro ⟨left, hne, -⟩
    exact hne (List.isEmpty_iff.1 h)
  · next h =>
    rw [walk_eq_ok_iff]
    have hne : path ≠ [] := fun hnil => h (List.isEmpty_iff.2 hnil)
    exact ⟨fun ⟨left, hwalks⟩ => ⟨left, hne, hwalks⟩, fun ⟨left, hwalks⟩ => ⟨left, hwalks.walks⟩⟩

/-- A slash at the end of a path asks for a directory. -/
theorem walks_split_slash_iff {front : List Char} {links left : Nat} {place goal : Location} :
    t.Walks links place (Path.split (front ++ ['/'])) left goal ↔
      t.Walks links place (Path.split front) left goal ∧ t.item? goal = some .directory := by
  rw [Path.split_concat_slash, walks_append_iff]
  constructor
  · rintro ⟨k, mid, hfront, hlast⟩
    have hdir := hlast.item?_place
    cases hlast with
    | void _ _ hrest =>
      cases hrest
      exact ⟨hfront, hdir⟩
    | up _ hpiece | item _ hpiece | link _ hpiece => exact nomatch hpiece
  · rintro ⟨hfront, hdir⟩
    exact ⟨left, goal, hfront, .void hdir rfl .arrived⟩

/-- The pieces of a path below another one come behind those of the other one; a slash at its end
makes no piece of its own. -/
theorem walks_split_join_iff {base path : List Char} (hbase : base ≠ [])
    (hpath : Path.isAbsolute path = false) {links left : Nat} {place goal : Location} :
    t.Walks links place (Path.split (Path.join base path)) left goal ↔
      ∃ k mid, t.Walks links place (Path.split base) k mid ∧
        t.Walks k mid (Path.split path) left goal := by
  by_cases hslash : base.getLast? = some '/'
  · obtain ⟨front, rfl⟩ := List.getLast?_eq_some_iff.1 hslash
    have hjoin : Path.join (front ++ ['/']) path = front ++ '/' :: path := by
      simp [Path.join, hpath]
    rw [hjoin, Path.split_append_slash, walks_append_iff]
    refine exists_congr fun k => exists_congr fun mid => ?_
    rw [walks_split_slash_iff]
    constructor
    · rintro ⟨hfront, hback⟩
      obtain ⟨piece, rest, hpieces⟩ := List.exists_cons_of_ne_nil (Text.splitOn_ne_nil '/' path)
      have hdir : t.item? mid = some .directory := by
        rw [Path.split, hpieces] at hback
        exact hback.item?_place
      exact ⟨⟨hfront, hdir⟩, hback⟩
    · exact fun ⟨⟨hfront, _⟩, hback⟩ => ⟨hfront, hback⟩
  · have hjoin : Path.join base path = base ++ '/' :: path := by
      simp [Path.join, hpath, hbase, hslash]
    rw [hjoin, Path.split_append_slash, walks_append_iff]

theorem join_ne_nil {base path : List Char} (hbase : base ≠ []) : Path.join base path ≠ [] := by
  unfold Path.join
  split
  · next h =>
    rintro rfl
    exact absurd h (by decide)
  · split <;> simp [hbase]

/-- **The way of a path below another one** goes on where the other one ends. -/
theorem resolves_join_iff {base path : List Char} (hbase : base ≠ [])
    (hpath : Path.isAbsolute path = false) {left : Nat} {goal : Location} :
    t.Resolves (Path.join base path) left goal ↔
      ∃ k mid, t.Resolves base k mid ∧ t.Walks k mid (Path.split path) left goal := by
  constructor
  · intro h
    obtain ⟨k, mid, hfront, hback⟩ := (walks_split_join_iff hbase hpath).1 h.walks
    exact ⟨k, mid, ⟨hbase, hfront⟩, hback⟩
  · rintro ⟨k, mid, hfront, hback⟩
    exact ⟨join_ne_nil hbase, (walks_split_join_iff hbase hpath).2 ⟨k, mid, hfront.walks, hback⟩⟩

/-! ## What is at the end -/

theorem isFile_iff {path : List Char} :
    t.isFile path = true ↔
      ∃ place content, t.resolve .follow path = .ok place ∧ t.item? place = some (.file content) := by
  unfold isFile itemAt
  cases t.resolve .follow path with
  | error fault => exact iff_of_false (fun h => nomatch h) fun ⟨_, _, h, _⟩ => nomatch h
  | ok place =>
    constructor
    · intro h
      split at h
      · next content hitem => exact ⟨place, content, rfl, hitem⟩
      · exact nomatch h
    · rintro ⟨_, content, ⟨⟩, hitem⟩
      simp only [Except.toOption, Option.bind_some, hitem]

/-- The text that is read is the one of the file at the end of the way. -/
theorem readText_eq_ok {path : List Char} {goal : Location} {text : String}
    (hgoal : t.resolve .follow path = .ok goal)
    (hitem : t.item? goal = some (.file (.text text))) : t.readText path = .ok text := by
  simp only [readText, read, hgoal, hitem]

/-! ## Ways down -/

/-- The path of what is below another path, told by the names on the way down. -/
def descend (path : List Char) (names : List (List Char)) : List Char := names.foldl Path.join path

/-- **The way down** goes from name to name. -/
theorem resolves_descend_iff {path : List Char} (hpath : path ≠ []) {names : List (List Char)}
    (hnames : ∀ name ∈ names, isItemName name = true) {left : Nat} {goal : Location} :
    t.Resolves (descend path names) left goal ↔
      ∃ k mid, t.Resolves path k mid ∧ t.Walks k mid names left goal := by
  induction names generalizing path with
  | nil =>
    constructor
    · exact fun h => ⟨left, goal, h, .arrived⟩
    · rintro ⟨k, mid, h, hwalks⟩
      cases hwalks
      exact h
  | cons name rest ih =>
    have hname := hnames name List.mem_cons_self
    have hrelative := Path.isAbsolute_of_notMem (slash_notMem_of_isItemName hname)
    have hcons : name :: rest = [name] ++ rest := rfl
    rw [descend, List.foldl_cons, ← descend,
      ih (join_ne_nil hpath) fun n hn => hnames n (List.mem_cons_of_mem _ hn)]
    simp only [resolves_join_iff hpath hrelative, split_of_isItemName hname]
    rw [hcons]
    simp only [walks_append_iff]
    constructor
    · rintro ⟨k, mid, ⟨k', mid', hfront, hname⟩, hback⟩
      exact ⟨k', mid', hfront, k, mid, hname, hback⟩
    · rintro ⟨k', mid', hfront, k, mid, hname, hback⟩
      exact ⟨k, mid, ⟨k', mid', hfront, hname⟩, hback⟩

/-- What is put before a relative path does not depend on it. -/
theorem exists_join_eq (base : List Char) :
    ∃ front, ∀ path, Path.isAbsolute path = false → Path.join base path = front ++ path := by
  by_cases h : (base.isEmpty || base.getLast? == some '/') = true
  · exact ⟨base, fun path hpath => by simp [Path.join, hpath, h]⟩
  · exact ⟨base ++ ['/'], fun path hpath => by simp [Path.join, hpath, h]⟩

theorem isAbsolute_append {name : List Char} (hname : isItemName name = true) (rest : List Char) :
    Path.isAbsolute (name ++ rest) = false := by
  have h := Path.isAbsolute_of_notMem (slash_notMem_of_isItemName hname)
  obtain ⟨c, others, rfl⟩ := List.exists_cons_of_ne_nil (ne_nil_of_isItemName hname)
  exact h

theorem join_join {path name below : List Char} (hname : isItemName name = true)
    (hbelow : Path.isAbsolute below = false) :
    Path.join (Path.join path name) below = Path.join path (name ++ '/' :: below) := by
  obtain ⟨front, hfront⟩ := exists_join_eq path
  have hslash := slash_notMem_of_isItemName hname
  have hne := ne_nil_of_isItemName hname
  have hlast : name.getLast? ≠ some '/' := fun h => hslash (List.mem_of_getLast? h)
  rw [hfront name (Path.isAbsolute_of_notMem hslash), hfront _ (isAbsolute_append hname _)]
  simp [Path.join, hbelow, hne, hlast]

theorem isAbsolute_unsplit {names : List (List Char)}
    (hnames : ∀ name ∈ names, isItemName name = true) :
    Path.isAbsolute (Path.unsplit names) = false := by
  cases names with
  | nil => rfl
  | cons name rest =>
    have hname := hnames name List.mem_cons_self
    cases rest with
    | nil => exact Path.isAbsolute_of_notMem (slash_notMem_of_isItemName hname)
    | cons next others =>
      rw [Path.unsplit, Text.joinWith, List.append_assoc]
      · exact isAbsolute_append hname _
      · exact List.cons_ne_nil next others

/-- The path down is written with slashes between the names. -/
theorem descend_eq_join {path : List Char} {names : List (List Char)} (hne : names ≠ [])
    (hnames : ∀ name ∈ names, isItemName name = true) :
    descend path names = Path.join path (Path.unsplit names) := by
  induction names generalizing path with
  | nil => exact absurd rfl hne
  | cons name rest ih =>
    cases rest with
    | nil => rfl
    | cons next others =>
      have hrest : ∀ n ∈ next :: others, isItemName n = true :=
        fun n hn => hnames n (List.mem_cons_of_mem _ hn)
      rw [descend, List.foldl_cons, ← descend, ih (List.cons_ne_nil next others) hrest,
        join_join (hnames name List.mem_cons_self) (isAbsolute_unsplit hrest)]
      simp [Path.unsplit, Text.joinWith]

end FileTree
end CommandGrove
