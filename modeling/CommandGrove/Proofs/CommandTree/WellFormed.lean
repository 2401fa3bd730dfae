import CommandGrove.Proofs.CommandTree.Nodes
import Mathlib.Data.List.Basic

/-!
# Trees that are well formed

A tree keeps the same facts three times: in the parents, in the lists of children and in the
tokens.  `WellFormed` says that the three agree, and every change of a tree keeps it.

## What is here

* `CommandTree.WellFormed` — numbers grow on the way down, the children of a node are the nodes
  whose parent it is, and siblings differ in their tokens.
* `CommandTree.Reachable` — the trees that the changes make from a root alone;
  `Reachable.wellFormed` says that they are well formed.
* `CommandTree.Ascent` — the way up from a node, one parent after the other;
  `WellFormed.ascent_path` says that it ends and that `path` reads its tokens.
* `CommandTree.walk?` — the way down along tokens; `WellFormed.walk?_path` says that the way down
  along the path of a node ends at the node.
-/

set_option autoImplicit false
namespace CommandGrove
namespace CommandTree

/-! ## The invariant -/

/-- The nodes form a tree whose root is the node 0. -/
structure WellFormed (t : CommandTree) : Prop where
  nonempty : root < t.nodes.size
  root_parent : t.parent? root = none
  /-- Every other node has a parent, and was made after it. -/
  parent_lt : ∀ i, i < t.nodes.size → i ≠ root → ∃ p, t.parent? i = some p ∧ p < i
  children_sorted : ∀ p, (t.children p).Pairwise (· < ·)
  mem_children : ∀ p i, i ∈ t.children p ↔ t.parent? i = some p
  /-- Two children of one node differ in their tokens. -/
  token_inj : ∀ p i j, t.parent? i = some p → t.parent? j = some p → t.token? i = t.token? j →
    i = j

/-- The root is the only node without a parent. -/
theorem WellFormed.parent?_eq_none_iff {t : CommandTree} (h : t.WellFormed) {i : Nat}
    (hi : i < t.nodes.size) : t.parent? i = none ↔ i = root := by
  constructor
  · intro hnone
    by_contra hne
    obtain ⟨p, hp, -⟩ := h.parent_lt i hi hne
    rw [hp] at hnone
    exact Option.some_ne_none p hnone
  · rintro rfl
    exact h.root_parent

theorem WellFormed.lt_of_parent_eq {t : CommandTree} (h : t.WellFormed) {i p : Nat}
    (hp : t.parent? i = some p) : p < i := by
  have hne : i ≠ root := by
    rintro rfl
    rw [h.root_parent] at hp
    exact Option.some_ne_none p hp.symm
  obtain ⟨q, hq, hlt⟩ := h.parent_lt i (lt_of_parent hp) hne
  rw [hp, Option.some_inj] at hq
  exact hq ▸ hlt

/-! ## Looking up a child -/

theorem findChild?_eq_none_iff {t : CommandTree} {p : Nat} {token : String} :
    t.findChild? p token = none ↔ ∀ i ∈ t.children p, t.token? i ≠ some token := by
  rw [findChild?, List.find?_eq_none]
  exact forall₂_congr fun i _ => not_congr hasToken_iff

/-- Looking up a child finds the one child that has the token. -/
theorem WellFormed.findChild?_eq_some_iff {t : CommandTree} (h : t.WellFormed) {p i : Nat}
    {token : String} :
    t.findChild? p token = some i ↔ t.parent? i = some p ∧ t.token? i = some token := by
  constructor
  · intro hi
    exact ⟨(h.mem_children p i).1 (List.mem_of_find?_eq_some hi),
      hasToken_iff.1 (List.find?_some hi)⟩
  · rintro ⟨hp, htoken⟩
    have hsome : (t.findChild? p token).isSome := by
      rw [findChild?, List.find?_isSome]
      exact ⟨i, (h.mem_children p i).2 hp, hasToken_iff.2 htoken⟩
    obtain ⟨j, hj⟩ := Option.isSome_iff_exists.1 hsome
    have hjp : t.parent? j = some p := (h.mem_children p j).1 (List.mem_of_find?_eq_some hj)
    have hjt : t.token? j = some token := hasToken_iff.1 (List.find?_some hj)
    rw [hj, h.token_inj p j i hjp hp (hjt.trans htoken.symm)]

/-! ## Every change keeps it -/

theorem children_empty (p : Nat) : empty.children p = [] := by
  cases p with
  | zero => rfl
  | succ p => rfl

theorem parent?_empty (i : Nat) : empty.parent? i = none := by
  cases i with
  | zero => rfl
  | succ i => rfl

theorem wellFormed_empty : empty.WellFormed where
  nonempty := Nat.one_pos
  root_parent := rfl
  parent_lt i hi hne := absurd (Nat.lt_one_iff.1 hi) hne
  children_sorted p := by
    rw [children_empty]
    exact List.Pairwise.nil
  mem_children p i := by
    rw [children_empty, parent?_empty]
    exact iff_of_false List.not_mem_nil (Option.some_ne_none p).symm
  token_inj p i j hi := absurd (hi.symm.trans (parent?_empty i)) (Option.some_ne_none p)

/-- A new child may be made where none has its token. -/
theorem WellFormed.addChild {t : CommandTree} (h : t.WellFormed) {p : Nat} {token : String}
    (hp : p < t.nodes.size) (hnew : t.findChild? p token = none) :
    (t.addChild p token).WellFormed where
  nonempty := by rw [size_addChild]; exact Nat.lt_succ_of_lt h.nonempty
  root_parent := by rw [parent?_addChild, if_neg (Nat.ne_of_lt h.nonempty), h.root_parent]
  parent_lt i hi hne := by
    rw [size_addChild] at hi
    rw [parent?_addChild]
    by_cases his : i = t.nodes.size
    · exact ⟨p, if_pos his, his ▸ hp⟩
    · rw [if_neg his]
      exact h.parent_lt i (Nat.lt_of_le_of_ne (Nat.le_of_lt_succ hi) his) hne
  children_sorted q := by
    rw [children_addChild hp]
    split
    · refine List.pairwise_append.2 ⟨h.children_sorted q, List.pairwise_singleton _ _, ?_⟩
      intro i hi j hj
      rw [List.mem_singleton.1 hj]
      exact lt_of_parent ((h.mem_children q i).1 hi)
    · exact h.children_sorted q
  mem_children q i := by
    have hold : t.parent? t.nodes.size ≠ some q := fun hq => Nat.lt_irrefl _ (lt_of_parent hq)
    rw [children_addChild hp, parent?_addChild]
    by_cases hq : q = p <;> by_cases hi : i = t.nodes.size
    · simp [hq, hi]
    · simp [hq, hi, h.mem_children]
    · rw [if_neg hq, if_pos hi, h.mem_children, hi, Option.some_inj]
      exact iff_of_false hold fun e => hq e.symm
    · rw [if_neg hq, if_neg hi, h.mem_children]
  token_inj q i j hi hj htoken := by
    have hfresh : ∀ k, t.parent? k = some p → t.token? k ≠ some token := fun k hk =>
      findChild?_eq_none_iff.1 hnew k ((h.mem_children p k).2 hk)
    rw [parent?_addChild] at hi hj
    rw [token?_addChild, token?_addChild] at htoken
    -- The only new sibling is the node just made, and its token was free.
    by_cases his : i = t.nodes.size <;> by_cases hjs : j = t.nodes.size
    · rw [his, hjs]
    · rw [if_pos his, Option.some_inj] at hi
      rw [if_neg hjs, ← hi] at hj
      rw [if_pos his, if_neg hjs] at htoken
      exact absurd htoken.symm (hfresh j hj)
    · rw [if_pos hjs, Option.some_inj] at hj
      rw [if_neg his, ← hj] at hi
      rw [if_neg his, if_pos hjs] at htoken
      exact absurd htoken (hfresh i hi)
    · rw [if_neg his] at hi htoken
      rw [if_neg hjs] at hj htoken
      exact h.token_inj q i j hi hj htoken

theorem WellFormed.child {t : CommandTree} (h : t.WellFormed) {p : Nat} (hp : p < t.nodes.size)
    (token : String) : (t.child p token).1.WellFormed := by
  rw [CommandTree.child]
  split
  · exact h
  · next hnew => exact h.addChild hp hnew

/-- Parents, children and tokens are all that counts. -/
theorem WellFormed.congr {t s : CommandTree} (h : t.WellFormed)
    (hsize : s.nodes.size = t.nodes.size) (hparent : ∀ i, s.parent? i = t.parent? i)
    (hchildren : ∀ i, s.children i = t.children i) (htoken : ∀ i, s.token? i = t.token? i) :
    s.WellFormed where
  nonempty := hsize ▸ h.nonempty
  root_parent := (hparent _).trans h.root_parent
  parent_lt i hi hne := by rw [hparent]; exact h.parent_lt i (hsize ▸ hi) hne
  children_sorted p := by rw [hchildren]; exact h.children_sorted p
  mem_children p i := by rw [hchildren, hparent]; exact h.mem_children p i
  token_inj p i j hi hj e := by
    rw [hparent] at hi hj
    rw [htoken, htoken] at e
    exact h.token_inj p i j hi hj e

theorem WellFormed.bind {t : CommandTree} (h : t.WellFormed) (n : Nat) (b : Binding) :
    (t.bind n b).WellFormed :=
  h.congr size_bind parent?_bind children_bind token?_bind

theorem WellFormed.own {t : CommandTree} (h : t.WellFormed) (module : ModulePath) (i : Nat) :
    (t.own module i).WellFormed :=
  h.congr rfl (fun _ => rfl) (fun _ => rfl) fun _ => rfl

/-! ## The trees that can be made -/

/-- The trees made from a root alone, one change after the other.  Each change names a node that
is there. -/
inductive Reachable : CommandTree → Prop
  | empty : Reachable empty
  | child {t : CommandTree} {p : Nat} (h : Reachable t) (hp : p < t.nodes.size)
      (token : String) : Reachable (t.child p token).1
  | bind {t : CommandTree} {n : Nat} (h : Reachable t) (hn : n < t.nodes.size) (b : Binding) :
      Reachable (t.bind n b)
  | own {t : CommandTree} {i : Nat} (h : Reachable t) (hi : i < t.nodes.size)
      (module : ModulePath) : Reachable (t.own module i)

/-- **Every tree that can be made is well formed.** -/
theorem Reachable.wellFormed {t : CommandTree} (h : t.Reachable) : t.WellFormed := by
  induction h with
  | empty => exact wellFormed_empty
  | child _ hp token ih => exact ih.child hp token
  | bind _ _ b ih => exact ih.bind _ b
  | own _ _ module ih => exact ih.own module _

/-! ## The way up -/

/-- The way up from a node to the root, one parent after the other, and the tokens on it in the
order of the way down.  Nothing but the tree makes it end. -/
inductive Ascent (t : CommandTree) : Nat → List String → Prop
  | root {i : Nat} {token : String} (htoken : t.token? i = some token)
      (hp : t.parent? i = none) : Ascent t i []
  | step {i p : Nat} {token : String} {tokens : List String} (htoken : t.token? i = some token)
      (hp : t.parent? i = some p) (h : Ascent t p tokens) : Ascent t i (tokens ++ [token])

theorem path_of_parent_eq_none {t : CommandTree} {i : Nat} (hp : t.parent? i = none) :
    t.path i = [] := by
  rw [path]
  split
  · rfl
  · next node hnode =>
    rw [parent?, hnode, Option.bind_some] at hp
    rw [hp]

theorem path_of_parent_lt {t : CommandTree} {i p : Nat} {token : String}
    (hp : t.parent? i = some p) (htoken : t.token? i = some token) (hlt : p < i) :
    t.path i = t.path p ++ [token] := by
  obtain ⟨node, hnode, rfl⟩ := Option.map_eq_some_iff.1 htoken
  rw [parent?, hnode, Option.bind_some] at hp
  rw [path, hnode]
  simp only [hp, if_pos hlt]

section Path

variable {t : CommandTree} (h : t.WellFormed)

include h

@[simp] theorem WellFormed.path_root : t.path root = [] :=
  path_of_parent_eq_none h.root_parent

theorem WellFormed.path_eq {i p : Nat} {token : String} (hp : t.parent? i = some p)
    (htoken : t.token? i = some token) : t.path i = t.path p ++ [token] :=
  path_of_parent_lt hp htoken (h.lt_of_parent_eq hp)

/-- A fact about all nodes holds of the root, and goes from a parent to its children. -/
theorem WellFormed.induction {P : Nat → Prop} (hroot : P root)
    (hstep : ∀ i p token, t.parent? i = some p → t.token? i = some token → P p → P i) {i : Nat}
    (hi : i < t.nodes.size) : P i := by
  induction i using Nat.strongRecOn with
  | ind i ih =>
    by_cases hne : i = root
    · exact hne ▸ hroot
    · obtain ⟨p, hp, hlt⟩ := h.parent_lt i hi hne
      obtain ⟨token, htoken⟩ := exists_token_of_lt hi
      exact hstep i p token hp htoken (ih p hlt (Nat.lt_trans hlt hi))

/-- **The way up from every node ends**, and `path` gives the tokens on it. -/
theorem WellFormed.ascent_path {i : Nat} (hi : i < t.nodes.size) : t.Ascent i (t.path i) := by
  refine h.induction (P := fun i => t.Ascent i (t.path i)) ?_ ?_ hi
  · obtain ⟨token, htoken⟩ := exists_token_of_lt h.nonempty
    rw [h.path_root]
    exact .root htoken h.root_parent
  · intro i p token hp htoken hup
    rw [h.path_eq hp htoken]
    exact .step htoken hp hup

end Path

/-! ## The way down -/

/-- The node that tokens lead to from `start`, looking up one child after the other. -/
def walk? (t : CommandTree) (start : Nat) (tokens : List String) : Option Nat :=
  tokens.foldlM t.findChild? start

theorem walk?_nil (t : CommandTree) (start : Nat) : t.walk? start [] = some start := rfl

theorem walk?_concat (t : CommandTree) (start : Nat) (tokens : List String) (token : String) :
    t.walk? start (tokens ++ [token])
      = (t.walk? start tokens).bind fun i => t.findChild? i token := by
  rw [walk?, List.foldlM_append]
  exact Option.bind_congr fun i _ => by simp [List.foldlM_cons, List.foldlM_nil]

section Walk

variable {t : CommandTree} (h : t.WellFormed)

include h

/-- **The way down along the path of a node ends at the node.** -/
theorem WellFormed.walk?_path {i : Nat} (hi : i < t.nodes.size) :
    t.walk? root (t.path i) = some i := by
  refine h.induction (P := fun i => t.walk? root (t.path i) = some i) ?_ ?_ hi
  · rw [h.path_root, walk?_nil]
  · intro i p token hp htoken hdown
    rw [h.path_eq hp htoken, walk?_concat, hdown, Option.bind_some]
    exact h.findChild?_eq_some_iff.2 ⟨hp, htoken⟩

/-- Different nodes have different paths. -/
theorem WellFormed.path_injective {i j : Nat} (hi : i < t.nodes.size) (hj : j < t.nodes.size)
    (hij : t.path i = t.path j) : i = j := by
  have hwalk := h.walk?_path hi
  rw [hij, h.walk?_path hj] at hwalk
  exact (Option.some_inj.1 hwalk).symm

end Walk

end CommandTree
end CommandGrove
