import CommandGrove.Proofs.Text.Lines
import CommandGrove.Text.Affix

/-!
# Cuts at the ends of a text

Marks are taken from the front of a text, once or as often as there is one, and from its end.  Where
the marks have no blanks in them, none of this reaches from one line into the next, and so the
contents of the lines tell what is left.

## What is here

* `CutsFront` — taking something from the front of a text that reaches beyond no blank.
* `CutsFront.lineContents_eq` — such a cut is one in the first content;
  `CutsFront.lineContents_congr` and `CutsFront.lineContents_congr_end` say that the contents tell
  what is left after a cut at either end.
* `cutsFront_dropAllMarks`, `cutsFront_stripPrefix?` — taking away marks is a cut.
* `isSome_stripPrefix?_congr` — the contents tell whether there is a mark.
-/

set_option autoImplicit false
namespace CommandGrove
namespace Text

/-! ## Cuts -/

/-- The function takes something from the front of a text, and a blank there and all behind it stay
as they are. -/
structure CutsFront (cut : List Char → List Char) : Prop where
  suffix : ∀ s, cut s <:+ s
  append : ∀ s c rest, isBlank c = true → cut (s ++ c :: rest) = cut s ++ c :: rest

namespace CutsFront

variable {cut : List Char → List Char}

theorem nil (h : CutsFront cut) : cut [] = [] := List.suffix_nil.1 (h.suffix [])

theorem append_of_endsLine (h : CutsFront cut) (s : List Char) {rest : List Char}
    (hrest : EndsLine rest) : cut (s ++ rest) = cut s ++ rest := by
  rcases hrest.eq_nil_or_cons with rfl | ⟨c, others, rfl, hc⟩
  · rw [List.append_nil, List.append_nil]
  · exact h.append s c others hc

/-- **A cut at the front is one in the first content.** -/
theorem lineContents_eq (h : CutsFront cut) {s : List Char} (hfront : IsTightFront s) :
    lineContents (cut s) =
      match lineContents s with
      | [] => []
      | first :: others => lineContents (cut first) ++ others := by
  by_cases hne : s = []
  · rw [hne, h.nil]
    rfl
  · obtain ⟨first, rest, rfl, hrest, hcontents⟩ := exists_firstContent hfront hne
    rw [hcontents, h.append_of_endsLine first hrest, hrest.lineContents_append]

theorem lineContents_congr (h : CutsFront cut) {s t : List Char} (hs : IsTightFront s)
    (ht : IsTightFront t) (heq : lineContents s = lineContents t) :
    lineContents (cut s) = lineContents (cut t) := by
  rw [h.lineContents_eq hs, h.lineContents_eq ht, heq]

/-- A cut from the end, as one from the front of the reversed text. -/
theorem lineContents_congr_end (h : CutsFront cut) {s t : List Char}
    (hs : IsTightFront s.reverse) (ht : IsTightFront t.reverse)
    (heq : lineContents s = lineContents t) :
    lineContents (cut s.reverse).reverse = lineContents (cut t.reverse).reverse := by
  have hreverse : lineContents s.reverse = lineContents t.reverse := by
    rw [lineContents_reverse, lineContents_reverse, heq]
  rw [lineContents_reverse, lineContents_reverse, h.lineContents_congr hs ht hreverse]

/-- A cut at the front leaves the end. -/
theorem isTightFront_reverse (h : CutsFront cut) {s : List Char} (hs : IsTightFront s.reverse) :
    IsTightFront (cut s).reverse := by
  obtain ⟨taken, htaken⟩ := h.suffix s
  intro c hc
  refine hs c ?_
  rw [← htaken, List.reverse_append, List.head?_append, hc, Option.some_or]

end CutsFront

/-! ### Marks -/

section Marks

variable {mark : List Char}

theorem isPrefixOf_append_cons {c : Char} (hc : c ∉ mark) (s rest : List Char) :
    mark.isPrefixOf (s ++ c :: rest) = mark.isPrefixOf s := by
  induction mark generalizing s with
  | nil => simp
  | cons m others ih =>
    rw [List.mem_cons, not_or] at hc
    cases s with
    | nil => simp [List.isPrefixOf, Ne.symm hc.1]
    | cons x xs =>
      rw [List.cons_append, List.isPrefixOf, List.isPrefixOf, ih hc.2]

theorem stripPrefix?_append_cons {c : Char} (hc : c ∉ mark) (s rest : List Char) :
    stripPrefix? mark (s ++ c :: rest) = (stripPrefix? mark s).map (· ++ c :: rest) := by
  rw [stripPrefix?, stripPrefix?, isPrefixOf_append_cons hc]
  by_cases hbegins : mark.isPrefixOf s = true
  · have hlength := (List.isPrefixOf_iff_prefix.1 hbegins).length_le
    rw [if_pos hbegins, if_pos hbegins, List.drop_append_of_le_length hlength, Option.map_some]
  · rw [if_neg hbegins, if_neg hbegins, Option.map_none]

theorem length_lt_of_stripPrefix? (hne : mark ≠ []) {s rest : List Char}
    (h : stripPrefix? mark s = some rest) : rest.length < s.length := by
  have hlength := List.length_pos_iff.2 hne
  rw [stripPrefix?_eq_some_iff.1 h, List.length_append]
  omega

/-- Once a text has no room for more marks, one more try finds none. -/
theorem dropMarks_succ (hne : mark ≠ []) {n : Nat} {s : List Char} (hn : s.length ≤ n) :
    dropMarks mark (n + 1) s = dropMarks mark n s := by
  induction n generalizing s with
  | zero =>
    cases h : stripPrefix? mark s with
    | none => rw [dropMarks, dropMarks, h]
    | some rest =>
      have hlength := length_lt_of_stripPrefix? hne h
      omega
  | succ n ih =>
    rw [dropMarks, dropMarks]
    cases h : stripPrefix? mark s with
    | none => rfl
    | some rest =>
      have hlength := length_lt_of_stripPrefix? hne h
      exact ih (by omega)

/-- A bound that is large enough does not matter. -/
theorem dropMarks_eq_dropAllMarks (hne : mark ≠ []) {n : Nat} {s : List Char}
    (hn : s.length ≤ n) : dropMarks mark n s = dropAllMarks mark s := by
  induction n, hn using Nat.le_induction with
  | base => rfl
  | succ n hn ih => rw [dropMarks_succ hne hn, ih]

theorem dropMarks_append_cons {c : Char} (hc : c ∉ mark) (n : Nat) (s rest : List Char) :
    dropMarks mark n (s ++ c :: rest) = dropMarks mark n s ++ c :: rest := by
  induction n generalizing s with
  | zero => rfl
  | succ n ih =>
    rw [dropMarks, dropMarks, stripPrefix?_append_cons hc]
    cases stripPrefix? mark s with
    | none => rfl
    | some behind => exact ih behind

theorem dropMarks_suffix (n : Nat) (s : List Char) : dropMarks mark n s <:+ s := by
  induction n generalizing s with
  | zero => exact List.suffix_refl s
  | succ n ih =>
    rw [dropMarks]
    split
    · next rest h =>
      rw [stripPrefix?_eq_some_iff] at h
      exact (ih rest).trans (h ▸ List.suffix_append mark rest)
    · exact List.suffix_refl s

theorem notMem_of_isBlank (hmark : mark.any isBlank = false) {c : Char}
    (hc : isBlank c = true) : c ∉ mark :=
  fun hmem => List.any_eq_false.1 hmark c hmem hc

theorem cutsFront_dropAllMarks (hne : mark ≠ []) (hmark : mark.any isBlank = false) :
    CutsFront (dropAllMarks mark) where
  suffix s := dropMarks_suffix s.length s
  append s c rest hc := by
    have hlong : s.length ≤ (s ++ c :: rest).length := by
      rw [List.length_append]
      omega
    rw [dropAllMarks, dropMarks_append_cons (notMem_of_isBlank hmark hc),
      dropMarks_eq_dropAllMarks hne hlong]

theorem cutsFront_stripPrefix? (hmark : mark.any isBlank = false) :
    CutsFront fun s => (stripPrefix? mark s).getD s where
  suffix s := by
    cases h : stripPrefix? mark s with
    | none => exact List.suffix_refl s
    | some rest =>
      rw [stripPrefix?_eq_some_iff.1 h]
      exact List.suffix_append mark rest
  append s c rest hc := by
    rw [stripPrefix?_append_cons (notMem_of_isBlank hmark hc)]
    cases stripPrefix? mark s <;> rfl

/-- Taking a mark from the end is taking it, reversed, from the front of the reversed text. -/
theorem getD_stripSuffix? (mark s : List Char) :
    (stripSuffix? mark s).getD s
      = ((stripPrefix? mark.reverse s.reverse).getD s.reverse).reverse := by
  rw [stripSuffix?]
  cases stripPrefix? mark.reverse s.reverse with
  | none => exact (List.reverse_reverse s).symm
  | some rest => rfl

/-- Whether a text begins with a mark is told by the contents of its lines. -/
theorem isSome_stripPrefix?_congr (hmark : mark.any isBlank = false) {s t : List Char}
    (hs : IsTightFront s) (ht : IsTightFront t) (heq : lineContents s = lineContents t) :
    (stripPrefix? mark s).isSome = (stripPrefix? mark t).isSome := by
  have hfirst {s : List Char} (hfront : IsTightFront s) :
      (stripPrefix? mark s).isSome =
        (stripPrefix? mark ((lineContents s).head?.getD [])).isSome := by
    by_cases hs : s = []
    · rw [hs]
      rfl
    · obtain ⟨first, rest, rfl, hrest, hcontents⟩ := exists_firstContent hfront hs
      rw [hcontents, List.head?_cons, Option.getD_some]
      rcases hrest.eq_nil_or_cons with rfl | ⟨c, others, rfl, hc⟩
      · rw [List.append_nil]
      · rw [stripPrefix?_append_cons (notMem_of_isBlank hmark hc), Option.isSome_map]
  rw [hfirst hs, hfirst ht, heq]

end Marks

end Text
end CommandGrove
