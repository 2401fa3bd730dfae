import CommandGrove.CommandTree

/-!
# Nodes of a command tree

A node is looked at through what it holds at a number: its token, its parent, its children, its
function.  This file says what each change of a tree does to these four views, so that no later
proof opens a change again.

## What is here

* `CommandTree.token?`, `CommandTree.parent?` — the two views that looking up a child does not
  need.
* one equation for each change and each view: `token?_addChild`, `children_addChild`,
  `binding?_bind` and so on.
* `CommandTree.Keeps` — the frame of every change: a number means the same node before and after;
  `CommandTree.Grows` — the frame of the changes that only make nodes.
-/

set_option autoImplicit false
namespace CommandGrove
namespace CommandTree

/-! ## Views -/

/-- The token of a node. -/
def token? (t : CommandTree) (i : Nat) : Option String := t.nodes[i]?.map Node.token

/-- The parent of a node, if it has one. -/
def parent? (t : CommandTree) (i : Nat) : Option Nat := t.nodes[i]?.bind Node.parent

/-- A node can be looked at if its number is below the size of the tree. -/
theorem exists_token_of_lt {t : CommandTree} {i : Nat} (h : i < t.nodes.size) :
    ∃ token, t.token? i = some token :=
  ⟨t.nodes[i].token, by rw [token?, Array.getElem?_eq_getElem h]; rfl⟩

theorem lt_of_token {t : CommandTree} {i : Nat} {token : String} (h : t.token? i = some token) :
    i < t.nodes.size := by
  obtain ⟨node, hnode, -⟩ := Option.map_eq_some_iff.1 h
  exact (Array.getElem?_eq_some_iff.1 hnode).1

theorem lt_of_parent {t : CommandTree} {i p : Nat} (h : t.parent? i = some p) :
    i < t.nodes.size := by
  obtain ⟨node, hnode, -⟩ := Option.bind_eq_some_iff.1 h
  exact (Array.getElem?_eq_some_iff.1 hnode).1

theorem lt_of_binding {t : CommandTree} {i : Nat} {b : Binding} (h : t.binding? i = some b) :
    i < t.nodes.size := by
  obtain ⟨node, hnode, -⟩ := Option.bind_eq_some_iff.1 h
  exact (Array.getElem?_eq_some_iff.1 hnode).1

theorem hasToken_iff {t : CommandTree} {token : String} {i : Nat} :
    t.hasToken token i = true ↔ t.token? i = some token := by
  rw [hasToken, token?, Option.any_eq_true_iff_get]
  cases t.nodes[i]? <;> simp

/-! ## Changing a node -/

section Modify

variable (t : CommandTree) (i : Nat) (f : Node → Node)

@[simp] theorem size_modify : (t.modify i f).nodes.size = t.nodes.size := by
  rw [modify, Array.size_modify]

theorem getElem?_modify (j : Nat) :
    (t.modify i f).nodes[j]? = if i = j then t.nodes[j]?.map f else t.nodes[j]? := by
  rw [modify, Array.getElem?_modify]

/-- A view that a change of a node leaves alone reads the same everywhere. -/
theorem map_modify {α : Type} {g : Node → α} (hg : ∀ node, g (f node) = g node) (j : Nat) :
    (t.modify i f).nodes[j]?.map g = t.nodes[j]?.map g := by
  rw [getElem?_modify]
  split
  · rw [Option.map_map, show g ∘ f = g from funext hg]
  · rfl

theorem bind_modify {α : Type} {g : Node → Option α} (hg : ∀ node, g (f node) = g node)
    (j : Nat) : (t.modify i f).nodes[j]?.bind g = t.nodes[j]?.bind g := by
  rw [getElem?_modify]
  split
  · rw [Option.bind_map, show g ∘ f = g from funext hg]
  · rfl

end Modify

/-! ## Making a child -/

section AddChild

variable {t : CommandTree} {p : Nat} {token : String}

@[simp] theorem size_addChild : (t.addChild p token).nodes.size = t.nodes.size + 1 := by
  rw [addChild, size_modify, Array.size_push]

@[simp] theorem owners_addChild : (t.addChild p token).owners = t.owners := rfl

@[simp] theorem collisions_addChild : (t.addChild p token).collisions = t.collisions := rfl

theorem token?_addChild (i : Nat) :
    (t.addChild p token).token? i = if i = t.nodes.size then some token else t.token? i := by
  rw [token?, addChild, map_modify, Array.getElem?_push]
  · split <;> rfl
  · exact fun _ => rfl

theorem parent?_addChild (i : Nat) :
    (t.addChild p token).parent? i = if i = t.nodes.size then some p else t.parent? i := by
  rw [parent?, addChild, bind_modify, Array.getElem?_push]
  · split <;> rfl
  · exact fun _ => rfl

theorem binding?_addChild (i : Nat) : (t.addChild p token).binding? i = t.binding? i := by
  rw [binding?, addChild, bind_modify, Array.getElem?_push]
  · split
    · next h => rw [binding?, h, Array.getElem?_size]; rfl
    · rfl
  · exact fun _ => rfl

/-- A new node is the last child of its parent, and has no children itself. -/
theorem children_addChild (hp : p < t.nodes.size) (i : Nat) :
    (t.addChild p token).children i
      = if i = p then t.children i ++ [t.nodes.size] else t.children i := by
  rw [children, addChild, getElem?_modify, Array.getElem?_push]
  have hne : p ≠ t.nodes.size := Nat.ne_of_lt hp
  by_cases hi : i = p
  · subst hi
    rw [if_pos rfl, if_neg hne, if_pos rfl, children, Array.getElem?_eq_getElem hp]
    rfl
  · rw [if_neg fun h => hi h.symm, if_neg hi]
    by_cases hs : i = t.nodes.size
    · rw [if_pos hs, children, hs, Array.getElem?_size]; rfl
    · rw [if_neg hs, children]

end AddChild

/-! ## Giving a node its function -/

section Bind

variable {t : CommandTree} {n : Nat} {b : Binding}

@[simp] theorem size_bind : (t.bind n b).nodes.size = t.nodes.size := by
  rw [bind, size_modify]

@[simp] theorem owners_bind : (t.bind n b).owners = t.owners := rfl

@[simp] theorem token?_bind (i : Nat) : (t.bind n b).token? i = t.token? i := by
  rw [token?, bind, map_modify]
  · rfl
  · exact fun _ => rfl

@[simp] theorem parent?_bind (i : Nat) : (t.bind n b).parent? i = t.parent? i := by
  rw [parent?, bind, bind_modify]
  · rfl
  · exact fun _ => rfl

@[simp] theorem children_bind (i : Nat) : (t.bind n b).children i = t.children i := by
  rw [children, bind, map_modify]
  · rfl
  · exact fun _ => rfl

theorem binding?_bind (hn : n < t.nodes.size) (i : Nat) :
    (t.bind n b).binding? i = if i = n then some b else t.binding? i := by
  rw [binding?, bind, getElem?_modify]
  by_cases hi : i = n
  · rw [if_pos hi.symm, if_pos hi, hi, Array.getElem?_eq_getElem hn]; rfl
  · rw [if_neg fun h => hi h.symm, if_neg hi]; rfl

theorem collisions_bind : (t.bind n b).collisions
    = t.collisions ++ ((t.binding? n).map fun old => ⟨n, old.source, b.source⟩).toList := rfl

end Bind

/-! ## Placing a module -/

/-- A module takes a node for its own. -/
def own (t : CommandTree) (module : ModulePath) (i : Nat) : CommandTree :=
  { t with owners := t.owners ++ [(module, i)] }

/-! ## Trees that only grow -/

/-- The nodes of `t` are in `s` under the same numbers, below the same parents. -/
structure Keeps (t s : CommandTree) : Prop where
  size_le : t.nodes.size ≤ s.nodes.size
  token? : ∀ i, i < t.nodes.size → s.token? i = t.token? i
  parent? : ∀ i, i < t.nodes.size → s.parent? i = t.parent? i

/-- `s` is `t` with nothing but some more nodes, which have no function yet. -/
structure Grows (t s : CommandTree) : Prop extends Keeps t s where
  binding? : ∀ i, s.binding? i = t.binding? i
  owners : s.owners = t.owners
  collisions : s.collisions = t.collisions

theorem Keeps.refl (t : CommandTree) : t.Keeps t :=
  ⟨Nat.le_refl _, fun _ _ => rfl, fun _ _ => rfl⟩

theorem Keeps.trans {t s r : CommandTree} (h : t.Keeps s) (h' : s.Keeps r) : t.Keeps r where
  size_le := Nat.le_trans h.size_le h'.size_le
  token? i hi := (h'.token? i (Nat.lt_of_lt_of_le hi h.size_le)).trans (h.token? i hi)
  parent? i hi := (h'.parent? i (Nat.lt_of_lt_of_le hi h.size_le)).trans (h.parent? i hi)

theorem Grows.refl (t : CommandTree) : t.Grows t :=
  ⟨.refl t, fun _ => rfl, rfl, rfl⟩

theorem Grows.trans {t s r : CommandTree} (h : t.Grows s) (h' : s.Grows r) : t.Grows r where
  toKeeps := h.toKeeps.trans h'.toKeeps
  binding? i := (h'.binding? i).trans (h.binding? i)
  owners := h'.owners.trans h.owners
  collisions := h'.collisions.trans h.collisions

theorem grows_addChild (t : CommandTree) (p : Nat) (token : String) :
    t.Grows (t.addChild p token) where
  size_le := by rw [size_addChild]; exact Nat.le_succ _
  token? i hi := by rw [token?_addChild, if_neg (Nat.ne_of_lt hi)]
  parent? i hi := by rw [parent?_addChild, if_neg (Nat.ne_of_lt hi)]
  binding? := binding?_addChild
  owners := owners_addChild
  collisions := collisions_addChild

theorem keeps_bind (t : CommandTree) (n : Nat) (b : Binding) : t.Keeps (t.bind n b) :=
  ⟨Nat.le_of_eq size_bind.symm, fun i _ => token?_bind i, fun i _ => parent?_bind i⟩

theorem keeps_own (t : CommandTree) (module : ModulePath) (i : Nat) : t.Keeps (t.own module i) :=
  ⟨Nat.le_refl _, fun _ _ => rfl, fun _ _ => rfl⟩

end CommandTree
end CommandGrove
