import CommandGrove.CommandTree.OfModules
import CommandGrove.Proofs.CommandTree.WellFormed

/-!
# Placing nodes

Going down from a node and making what is missing on the way adds one path to a tree and nothing
else.  All that a list of modules does to a tree is made of such steps.

## What is here

* `Keeps.path` — a node keeps its path for ever.
* `CommandTree.HasPath` — the paths of the nodes of a tree.
* `CommandTree.Adds` — a tree with one more path, and the node at its end.
* `child_adds`, `descend_adds` — that is what the two functions give.
-/

set_option autoImplicit false
namespace CommandGrove
namespace CommandTree

/-! ## Paths stay -/

/-- **A node keeps its path**, whatever is added. -/
theorem Keeps.path {t s : CommandTree} (h : t.Keeps s) (ht : t.WellFormed) (hs : s.WellFormed)
    {i : Nat} (hi : i < t.nodes.size) : s.path i = t.path i := by
  refine ht.induction (P := fun i => s.path i = t.path i) ?_ ?_ hi
  · rw [hs.path_root, ht.path_root]
  · intro i p token hp htoken hup
    have hlt := lt_of_parent hp
    rw [hs.path_eq ((h.parent? i hlt).trans hp) ((h.token? i hlt).trans htoken), hup,
      ht.path_eq hp htoken]

/-- The tokens lead from the root to a node. -/
def HasPath (t : CommandTree) (tokens : List String) : Prop :=
  ∃ i, i < t.nodes.size ∧ t.path i = tokens

theorem Keeps.hasPath_iff {t s : CommandTree} (h : t.Keeps s) (ht : t.WellFormed)
    (hs : s.WellFormed) (hsize : s.nodes.size = t.nodes.size) (tokens : List String) :
    s.HasPath tokens ↔ t.HasPath tokens := by
  constructor
  · rintro ⟨i, hi, rfl⟩
    have hi' : i < t.nodes.size := hsize ▸ hi
    exact ⟨i, hi', (h.path ht hs hi').symm⟩
  · rintro ⟨i, hi, rfl⟩
    exact ⟨i, hsize ▸ hi, h.path ht hs hi⟩

/-- With a path, a tree has all paths it goes on from. -/
theorem WellFormed.hasPath_of_isPrefix {t : CommandTree} (h : t.WellFormed)
    {tokens front : List String} (ht : t.HasPath tokens) (hf : front <+: tokens) :
    t.HasPath front := by
  obtain ⟨i, hi, rfl⟩ := ht
  refine h.induction (P := fun i => ∀ front, front <+: t.path i → t.HasPath front) ?_ ?_ hi
    front hf
  · intro front hf
    rw [h.path_root, List.prefix_nil] at hf
    exact ⟨root, h.nonempty, h.path_root.trans hf.symm⟩
  · intro i p token hp htoken hup front hf
    rw [h.path_eq hp htoken, List.prefix_concat_iff] at hf
    rcases hf with rfl | hf
    · exact ⟨i, lt_of_parent hp, h.path_eq hp htoken⟩
    · exact hup front hf

/-! ## One more path -/

/-- `s` is `t` with the nodes on the path `tokens`, and `i` is the node at its end. -/
structure Adds (t : CommandTree) (tokens : List String) (s : CommandTree) (i : Nat) : Prop where
  reachable : s.Reachable
  grows : t.Grows s
  lt : i < s.nodes.size
  path : s.path i = tokens
  hasPath : ∀ ts, s.HasPath ts ↔ t.HasPath ts ∨ ts <+: tokens

/-- The path of a node adds nothing. -/
theorem Adds.refl {t : CommandTree} (h : t.Reachable) {i : Nat} (hi : i < t.nodes.size) :
    t.Adds (t.path i) t i where
  reachable := h
  grows := .refl t
  lt := hi
  path := rfl
  hasPath ts := by
    refine ⟨Or.inl, fun hts => hts.elim id fun hf => ?_⟩
    exact h.wellFormed.hasPath_of_isPrefix ⟨i, hi, rfl⟩ hf

/-- Going on from a path adds the longer path. -/
theorem Adds.trans {t s r : CommandTree} {tokens longer : List String} {i j : Nat}
    (h : t.Adds tokens s i) (h' : s.Adds longer r j) (hf : tokens <+: longer) :
    t.Adds longer r j where
  reachable := h'.reachable
  grows := h.grows.trans h'.grows
  lt := h'.lt
  path := h'.path
  hasPath ts := by
    rw [h'.hasPath, h.hasPath, or_assoc]
    exact or_congr_right ⟨fun hts => hts.elim (·.trans hf) id, Or.inr⟩

theorem addChild_adds {t : CommandTree} (h : t.Reachable) {p : Nat} (hp : p < t.nodes.size)
    {token : String} (hnew : t.findChild? p token = none) :
    t.Adds (t.path p ++ [token]) (t.addChild p token) t.nodes.size := by
  have hgrows := grows_addChild t p token
  have hwf := h.wellFormed.addChild hp hnew
  have hkeep : ∀ {i}, i < t.nodes.size → (t.addChild p token).path i = t.path i :=
    hgrows.path h.wellFormed hwf
  have hpath : (t.addChild p token).path t.nodes.size = t.path p ++ [token] := by
    rw [← hkeep hp]
    exact hwf.path_eq (by rw [parent?_addChild, if_pos rfl]) (by rw [token?_addChild, if_pos rfl])
  refine ⟨?_, hgrows, by rw [size_addChild]; exact Nat.lt_succ_self _, hpath, fun ts => ?_⟩
  · have hchild := h.child hp token
    rwa [child, hnew] at hchild
  · constructor
    · rintro ⟨i, hi, rfl⟩
      rw [size_addChild, Nat.lt_succ_iff_lt_or_eq] at hi
      rcases hi with hi | rfl
      · exact Or.inl ⟨i, hi, (hkeep hi).symm⟩
      · exact Or.inr (hpath ▸ List.prefix_rfl)
    · have hold : ∀ us, t.HasPath us → (t.addChild p token).HasPath us := by
        rintro us ⟨i, hi, rfl⟩
        exact ⟨i, Nat.lt_of_lt_of_le hi hgrows.size_le, hkeep hi⟩
      rintro (hts | hf)
      · exact hold ts hts
      · rcases List.prefix_concat_iff.1 hf with rfl | hf
        · exact ⟨_, by rw [size_addChild]; exact Nat.lt_succ_self _, hpath⟩
        · exact hold ts (h.wellFormed.hasPath_of_isPrefix ⟨p, hp, rfl⟩ hf)

/-- **Finding or making a child adds the path to it.** -/
theorem child_adds {t : CommandTree} (h : t.Reachable) {p : Nat} (hp : p < t.nodes.size)
    (token : String) : t.Adds (t.path p ++ [token]) (t.child p token).1 (t.child p token).2 := by
  rw [child]
  split
  · next i hi =>
    obtain ⟨hparent, htoken⟩ := h.wellFormed.findChild?_eq_some_iff.1 hi
    rw [← h.wellFormed.path_eq hparent htoken]
    exact .refl h (lt_of_parent hparent)
  · next hnew => exact addChild_adds h hp hnew

/-- **Going down along tokens adds the path to the last of them.** -/
theorem descend_adds {t : CommandTree} (h : t.Reachable) {start : Nat}
    (hs : start < t.nodes.size) (tokens : List String) :
    t.Adds (t.path start ++ tokens) (t.descend start tokens).1 (t.descend start tokens).2 := by
  induction tokens generalizing t start with
  | nil =>
    rw [List.append_nil]
    exact .refl h hs
  | cons token rest ih =>
    have hchild := child_adds h hs token
    have hrest := ih hchild.reachable hchild.lt
    rw [hchild.path, List.append_assoc, List.singleton_append] at hrest
    refine hchild.trans hrest ?_
    rw [List.prefix_append_right_inj, List.cons_prefix_cons]
    exact ⟨rfl, List.nil_prefix⟩

/-- The root never gets a token. -/
theorem Reachable.token?_root {t : CommandTree} (h : t.Reachable) : t.token? root = some "" := by
  induction h with
  | empty => rfl
  | child ht hp token ih =>
    exact ((child_adds ht hp token).grows.token? root ht.wellFormed.nonempty).trans ih
  | bind _ _ b ih => exact (token?_bind root).trans ih
  | own _ _ module ih => exact ih

end CommandTree
end CommandGrove
