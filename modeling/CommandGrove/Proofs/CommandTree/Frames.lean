import CommandGrove.Proofs.CommandTree.Placement

/-!
# What changes leave alone

Owners, parents and collisions hold numbers of nodes that were handed out earlier.  They stay good
because a change touches no more than it has to: finding or making a child touches the children of
one node, at their end, and giving a node its function touches that function.

## What is here

* `CommandTree.FindsOrMakes` — all that finding or making a child does, node by node;
  `Reachable.findsOrMakes_child`.
* `CommandTree.Rebinds` — all that giving a node its function does; `Reachable.rebinds_bind`.
* `descend_of_walk?` — going down where there is a way makes nothing, so that going down twice
  makes nothing the second time: `Reachable.descend_descend`.
* `changes_of_reachable` — the three together.
-/

set_option autoImplicit false
namespace CommandGrove
namespace CommandTree

/-! ## Finding or making a child -/

/-- The tree `s` is `t` in which the child of `p` with this token was found or made, and `c` is the
child.  The nodes of `t` are told field by field. -/
structure FindsOrMakes (t : CommandTree) (p : Nat) (token : String) (s : CommandTree) (c : Nat) :
    Prop where
  findChild? : s.findChild? p token = some c
  path_child : s.path c = t.path p ++ [token]
  size : s.nodes.size
    = if (t.findChild? p token).isSome then t.nodes.size else t.nodes.size + 1
  token? : ∀ i, i < t.nodes.size → s.token? i = t.token? i
  parent? : ∀ i, i < t.nodes.size → s.parent? i = t.parent? i
  binding? : ∀ i, i < t.nodes.size → s.binding? i = t.binding? i
  path : ∀ i, i < t.nodes.size → s.path i = t.path i
  /-- The child is the last one of its parent if it was made, and nothing else changes. -/
  children : ∀ i, i < t.nodes.size → s.children i
    = if i = p ∧ t.findChild? p token = none then t.children i ++ [c] else t.children i
  owners : s.owners = t.owners
  collisions : s.collisions = t.collisions

theorem child_of_findChild? {t : CommandTree} {p c : Nat} {token : String}
    (h : t.findChild? p token = some c) : t.child p token = (t, c) := by
  rw [child, h]

theorem child_of_findChild?_eq_none {t : CommandTree} {p : Nat} {token : String}
    (h : t.findChild? p token = none) : t.child p token = (t.addChild p token, t.nodes.size) := by
  rw [child, h]

/-- A child that is there is found, and the tree is left as it is. -/
theorem WellFormed.findsOrMakes_of_found {t : CommandTree} (h : t.WellFormed) {p c : Nat}
    {token : String} (hfound : t.findChild? p token = some c) : t.FindsOrMakes p token t c where
  findChild? := hfound
  path_child := by
    obtain ⟨hparent, htoken⟩ := h.findChild?_eq_some_iff.1 hfound
    exact h.path_eq hparent htoken
  size := by simp [hfound]
  token? _ _ := rfl
  parent? _ _ := rfl
  binding? _ _ := rfl
  path _ _ := rfl
  children i _ := by simp [hfound]
  owners := rfl
  collisions := rfl

/-- A child that is not there is made. -/
theorem Reachable.findsOrMakes_addChild {t : CommandTree} (h : t.Reachable) {p : Nat}
    {token : String} (hp : p < t.nodes.size) (hnew : t.findChild? p token = none) :
    t.FindsOrMakes p token (t.addChild p token) t.nodes.size := by
  have hgrows := grows_addChild t p token
  have hwf := h.wellFormed.addChild hp hnew
  refine
    { findChild? := ?_
      path_child := (addChild_adds h hp hnew).path
      size := by simp [hnew]
      token? := hgrows.token?
      parent? := hgrows.parent?
      binding? := fun i _ => hgrows.binding? i
      path := fun i hi => hgrows.path h.wellFormed hwf hi
      children := fun i _ => ?_
      owners := hgrows.owners
      collisions := hgrows.collisions }
  · rw [hwf.findChild?_eq_some_iff, parent?_addChild, token?_addChild, if_pos rfl, if_pos rfl]
    exact ⟨rfl, rfl⟩
  · rw [children_addChild hp]
    simp [hnew]

/-- **Finding or making a child** does nothing else. -/
theorem Reachable.findsOrMakes_child {t : CommandTree} (h : t.Reachable) {p : Nat}
    (hp : p < t.nodes.size) (token : String) :
    t.FindsOrMakes p token (t.child p token).1 (t.child p token).2 := by
  cases hfound : t.findChild? p token with
  | some c =>
    rw [child_of_findChild? hfound]
    exact h.wellFormed.findsOrMakes_of_found hfound
  | none =>
    rw [child_of_findChild?_eq_none hfound]
    exact h.findsOrMakes_addChild hp hfound

/-! ## Giving a node its function -/

/-- The tree `s` is `t` in which the node `n` was given the function `b`. -/
structure Rebinds (t : CommandTree) (n : Nat) (b : Binding) (s : CommandTree) : Prop where
  size : s.nodes.size = t.nodes.size
  token? : ∀ i, s.token? i = t.token? i
  parent? : ∀ i, s.parent? i = t.parent? i
  children : ∀ i, s.children i = t.children i
  path : ∀ i, i < t.nodes.size → s.path i = t.path i
  binding? : ∀ i, s.binding? i = if i = n then some b else t.binding? i
  owners : s.owners = t.owners
  collisions_of_unbound : t.binding? n = none → s.collisions = t.collisions
  collisions_of_bound : ∀ old, t.binding? n = some old →
    s.collisions = t.collisions ++ [⟨n, old.source, b.source⟩]

/-- **Giving a node its function** does nothing else. -/
theorem Reachable.rebinds_bind {t : CommandTree} (h : t.Reachable) {n : Nat}
    (hn : n < t.nodes.size) (b : Binding) : t.Rebinds n b (t.bind n b) where
  size := size_bind
  token? := token?_bind
  parent? := parent?_bind
  children := children_bind
  path _ hi := (keeps_bind t n b).path h.wellFormed (h.wellFormed.bind n b) hi
  binding? := binding?_bind hn
  owners := owners_bind
  collisions_of_unbound hnone := by rw [collisions_bind, hnone]; simp
  collisions_of_bound old hold := by rw [collisions_bind, hold]; simp

/-! ## Going down twice -/

theorem descend_cons (t : CommandTree) (start : Nat) (token : String) (rest : List String) :
    t.descend start (token :: rest)
      = (t.child start token).1.descend (t.child start token).2 rest := rfl

/-- Going down where there is a way finds every child on it. -/
theorem descend_of_walk? {t : CommandTree} {start i : Nat} {tokens : List String}
    (h : t.walk? start tokens = some i) : t.descend start tokens = (t, i) := by
  induction tokens generalizing start with
  | nil =>
    rw [walk?_nil, Option.some_inj] at h
    rw [← h]
    rfl
  | cons token rest ih =>
    rw [walk?, List.foldlM_cons] at h
    obtain ⟨c, hc, hrest⟩ := Option.bind_eq_some_iff.1 h
    rw [descend_cons, child_of_findChild? hc]
    exact ih hrest

/-- **Going down a second time** ends at the same node and makes nothing. -/
theorem Reachable.descend_descend {t : CommandTree} (h : t.Reachable) (tokens : List String) :
    (t.descend root tokens).1.descend root tokens = t.descend root tokens := by
  have hadds := descend_adds h h.wellFormed.nonempty tokens
  have hpath : (t.descend root tokens).1.path (t.descend root tokens).2 = tokens := by
    rw [hadds.path, h.wellFormed.path_root, List.nil_append]
  have hwalk := hadds.reachable.wellFormed.walk?_path hadds.lt
  rw [hpath] at hwalk
  exact descend_of_walk? hwalk

/-! ## Main result -/

/-- **A change touches no more than it has to.**  In every tree that can be made, finding or making
a child adds at most that child, giving a node its function replaces at most its function, both
leave all other nodes as they are, and going down along tokens for a second time changes nothing. -/
theorem changes_of_reachable {t : CommandTree} (h : t.Reachable) :
    (∀ p, p < t.nodes.size → ∀ token,
      t.FindsOrMakes p token (t.child p token).1 (t.child p token).2) ∧
    (∀ n, n < t.nodes.size → ∀ b, t.Rebinds n b (t.bind n b)) ∧
    ∀ tokens, (t.descend root tokens).1.descend root tokens = t.descend root tokens :=
  ⟨fun _ hp token => h.findsOrMakes_child hp token, fun _ hn b => h.rebinds_bind hn b,
    h.descend_descend⟩

/-- In a tree of two commands a third one is made behind the second, the function of the second is
replaced, and a longer way is gone down twice. -/
theorem changes_of_reachable_seed :
    let b : Binding := ⟨.ofText "db/seed.ts", "default", ⟨true, none, none, [], false⟩⟩
    let b' : Binding := ⟨.ofText "db.ts", "seed", ⟨false, none, none, [], false⟩⟩
    let t := ((empty.child root "db").1.child 1 "seed").1.bind 2 b
    t.Reachable ∧
      ((t.child 1 "dump").2 = 3 ∧ (t.child 1 "dump").1.children 1 = [2, 3] ∧
        (t.child 1 "dump").1.path 3 = ["db", "dump"]) ∧
      (t.bind 2 b').collisions = [⟨2, "db/seed.ts#default", "db.ts#seed"⟩] ∧
      (t.descend root ["db", "seed", "users"]).1.descend root ["db", "seed", "users"]
        = t.descend root ["db", "seed", "users"] := by
  intro b b' t
  have hdb : (empty.child root "db").1.Reachable := Reachable.empty.child (by decide) "db"
  have hseed : ((empty.child root "db").1.child 1 "seed").1.Reachable :=
    hdb.child (by decide) "seed"
  have ht : t.Reachable := hseed.bind (by decide) b
  obtain ⟨hchild, hbind, hdescend⟩ := changes_of_reachable ht
  have hdump := hchild 1 (by decide) "dump"
  have hnew : t.findChild? 1 "dump" = none := by decide +kernel
  have hsecond : t.children 1 = [2] := by decide +kernel
  have hnumber : (t.child 1 "dump").2 = 3 := by decide +kernel
  have hpath : t.path 1 = ["db"] := by decide +kernel
  refine ⟨ht, ⟨hnumber, ?_, ?_⟩, ?_, hdescend _⟩
  · rw [hdump.children 1 (by decide), hnew, hsecond, hnumber]
    rfl
  · rw [← hnumber, hdump.path_child, hpath]
    rfl
  · rw [(hbind 2 (by decide) b').collisions_of_bound b (by decide +kernel)]
    decide +kernel

end CommandTree
end CommandGrove
