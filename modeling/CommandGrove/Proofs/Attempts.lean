import Mathlib.Data.List.Forall2

/-!
# Steps that can fail

A run of steps that can fail ends with the first failure.

## What is here

* `bind_eq_ok_iff`, `bind_eq_error_iff` — how two steps end, one behind the other.
* `mapError_eq_ok_iff` — a step whose failures are told in another way.
* `mapM_eq_ok_iff`, `mapM_eq_error_iff` — how a step for each element of a list ends: all of them
  succeed, or the first one that fails is told.
* `exists_of_mem_result`, `exists_of_mem_steps`, `pairwise_results` — results and steps.
-/

set_option autoImplicit false
namespace CommandGrove
namespace Attempt

variable {ε α β : Type}

theorem bind_eq_ok_iff {x : Except ε α} {f : α → Except ε β} {b : β} :
    (x >>= f) = .ok b ↔ ∃ a, x = .ok a ∧ f a = .ok b := by
  cases x with
  | error e => exact iff_of_false (fun h => nomatch h) fun ⟨_, h, _⟩ => nomatch h
  | ok a =>
    refine ⟨fun h => ⟨a, rfl, h⟩, ?_⟩
    rintro ⟨_, ⟨⟩, h⟩
    exact h

theorem bind_eq_error_iff {x : Except ε α} {f : α → Except ε β} {e : ε} :
    (x >>= f) = .error e ↔ x = .error e ∨ ∃ a, x = .ok a ∧ f a = .error e := by
  cases x with
  | error e' =>
    refine ⟨fun h => Or.inl (congrArg Except.error (Except.error.inj h)), ?_⟩
    rintro (h | ⟨_, h, _⟩)
    · exact congrArg Except.error (Except.error.inj h)
    · exact nomatch h
  | ok a =>
    refine ⟨fun h => Or.inr ⟨a, rfl, h⟩, ?_⟩
    rintro (h | ⟨_, ⟨⟩, h⟩)
    · exact nomatch h
    · exact h

theorem mapError_eq_ok_iff {ε' : Type} {x : Except ε α} {f : ε → ε'} {a : α} :
    x.mapError f = .ok a ↔ x = .ok a := by
  cases x with
  | error e => exact iff_of_false (fun h => nomatch h) fun h => nomatch h
  | ok found =>
    exact ⟨fun h => congrArg Except.ok (Except.ok.inj h), fun h =>
      congrArg Except.ok (Except.ok.inj h)⟩

/-- All steps succeed just if the results are told one by one. -/
theorem mapM_eq_ok_iff {f : α → Except ε β} {xs : List α} {ys : List β} :
    xs.mapM f = .ok ys ↔ List.Forall₂ (fun x y => f x = .ok y) xs ys := by
  induction xs generalizing ys with
  | nil =>
    rw [List.mapM_nil, List.forall₂_nil_left_iff]
    exact ⟨fun h => (Except.ok.inj h).symm, fun h => congrArg Except.ok h.symm⟩
  | cons x rest ih =>
    rw [List.mapM_cons, bind_eq_ok_iff, List.forall₂_cons_left_iff]
    refine exists_congr fun y => ?_
    rw [bind_eq_ok_iff]
    constructor
    · rintro ⟨hx, others, hothers, hys⟩
      exact ⟨others, hx, ih.1 hothers, (Except.ok.inj hys).symm⟩
    · rintro ⟨others, hx, hothers, rfl⟩
      exact ⟨hx, others, ih.2 hothers, rfl⟩

/-- All steps succeed just if each of them does. -/
theorem exists_mapM_eq_ok_iff {f : α → Except ε β} {xs : List α} :
    (∃ ys, xs.mapM f = .ok ys) ↔ ∀ x ∈ xs, ∃ y, f x = .ok y := by
  induction xs with
  | nil => exact iff_of_true ⟨[], rfl⟩ fun x hx => absurd hx List.not_mem_nil
  | cons x rest ih =>
    rw [List.forall_mem_cons, ← ih]
    simp only [mapM_eq_ok_iff, List.forall₂_cons_left_iff]
    constructor
    · rintro ⟨_, y, ys, hx, hrest, -⟩
      exact ⟨⟨y, hx⟩, ys, hrest⟩
    · rintro ⟨⟨y, hx⟩, ys, hrest⟩
      exact ⟨_, y, ys, hx, hrest, rfl⟩

/-- Steps that agree on the elements of a list end in the same way. -/
theorem mapM_congr {f g : α → Except ε β} {xs : List α} (h : ∀ x ∈ xs, f x = g x) :
    xs.mapM f = xs.mapM g := by
  induction xs with
  | nil => rfl
  | cons x rest ih =>
    obtain ⟨hx, hrest⟩ := List.forall_mem_cons.1 h
    rw [List.mapM_cons, List.mapM_cons, hx, ih hrest]

section Steps

variable {f : α → Except ε β} {xs : List α} {ys : List β} (h : xs.mapM f = .ok ys)

include h

/-- Each result is the one of a step. -/
theorem exists_of_mem_result {y : β} (hy : y ∈ ys) : ∃ x ∈ xs, f x = .ok y := by
  have hsteps := mapM_eq_ok_iff.1 h
  clear h
  induction hsteps with
  | nil => exact absurd hy List.not_mem_nil
  | @cons x first xs ys hx _ ih =>
    rcases List.mem_cons.1 hy with rfl | hy
    · exact ⟨x, List.mem_cons_self, hx⟩
    · obtain ⟨x', hx', hstep⟩ := ih hy
      exact ⟨x', List.mem_cons_of_mem x hx', hstep⟩

/-- Each step has a result. -/
theorem exists_of_mem_steps {x : α} (hx : x ∈ xs) : ∃ y ∈ ys, f x = .ok y := by
  have hsteps := mapM_eq_ok_iff.1 h
  clear h
  induction hsteps with
  | nil => exact absurd hx List.not_mem_nil
  | @cons first y xs ys hy _ ih =>
    rcases List.mem_cons.1 hx with rfl | hx
    · exact ⟨y, List.mem_cons_self, hy⟩
    · obtain ⟨y', hy', hstep⟩ := ih hx
      exact ⟨y', List.mem_cons_of_mem y hy', hstep⟩

/-- What holds between each two steps tells what holds between their results. -/
theorem pairwise_results {S : α → α → Prop} {T : β → β → Prop} (hxs : xs.Pairwise S)
    (hresults : ∀ x x' y y', S x x' → f x = .ok y → f x' = .ok y' → T y y') : ys.Pairwise T := by
  induction xs generalizing ys with
  | nil =>
    rw [← Except.ok.inj h]
    exact .nil
  | cons x rest ih =>
    obtain ⟨y, others, hy, hothers, rfl⟩ := List.forall₂_cons_left_iff.1 (mapM_eq_ok_iff.1 h)
    have hrest := mapM_eq_ok_iff.2 hothers
    obtain ⟨hx, hpairs⟩ := List.pairwise_cons.1 hxs
    refine List.pairwise_cons.2 ⟨fun y' hy' => ?_, ih hrest hpairs⟩
    obtain ⟨x', hx', hstep⟩ := exists_of_mem_result hrest hy'
    exact hresults x x' y y' (hx x' hx') hy hstep

end Steps

/-- **The first step that fails** is told, and all before it succeed. -/
theorem mapM_eq_error_iff {f : α → Except ε β} {xs : List α} {e : ε} :
    xs.mapM f = .error e ↔
      ∃ front x back, xs = front ++ x :: back ∧ (∀ y ∈ front, ∃ b, f y = .ok b) ∧
        f x = .error e := by
  induction xs with
  | nil =>
    refine iff_of_false (fun h => nomatch h) ?_
    rintro ⟨front, x, back, h, -⟩
    exact List.append_ne_nil_of_right_ne_nil front (List.cons_ne_nil x back) h.symm
  | cons first rest ih =>
    rw [List.mapM_cons, bind_eq_error_iff]
    constructor
    · rintro (h | ⟨b, hfirst, h⟩)
      · exact ⟨[], first, rest, rfl, fun y hy => absurd hy List.not_mem_nil, h⟩
      · rcases bind_eq_error_iff.1 h with h | ⟨_, -, h⟩
        · obtain ⟨front, x, back, rfl, hfront, hx⟩ := ih.1 h
          refine ⟨first :: front, x, back, rfl, fun y hy => ?_, hx⟩
          rcases List.mem_cons.1 hy with rfl | hy
          · exact ⟨b, hfirst⟩
          · exact hfront y hy
        · exact nomatch h
    · rintro ⟨front, x, back, hlist, hfront, hx⟩
      rcases List.cons_eq_append_iff.1 hlist with ⟨rfl, hlist⟩ | ⟨front, rfl, rfl⟩
      · rw [← (List.cons.inj hlist).1] at hx
        exact Or.inl hx
      · obtain ⟨b, hb⟩ := hfront first List.mem_cons_self
        have hrest := ih.2 ⟨front, x, back, rfl, fun y hy => hfront y (List.mem_cons_of_mem _ hy), hx⟩
        exact Or.inr ⟨b, hb, bind_eq_error_iff.2 (Or.inl hrest)⟩

end Attempt
end CommandGrove
