/-!
# Beginnings and ends

## What is here

* `stripPrefix?`, `stripSuffix?` — a text without what it begins or ends with.
* `dropAllMarks`, `dropAllEndMarks` — a text without any repetition of a mark at one of its ends.
-/

set_option autoImplicit false
namespace CommandGrove
namespace Text

/-! ## Once -/

/-- The text without `mark` at its front, if it begins with it. -/
def stripPrefix? (mark text : List Char) : Option (List Char) :=
  if mark.isPrefixOf text then some (text.drop mark.length) else none

/-- The text without `mark` at its end, if it ends with it. -/
def stripSuffix? (mark text : List Char) : Option (List Char) :=
  (stripPrefix? mark.reverse text.reverse).map List.reverse

/-- What follows the front is the rest. -/
theorem stripPrefix?_append (mark rest : List Char) :
    stripPrefix? mark (mark ++ rest) = some rest := by
  simp [stripPrefix?]

theorem stripPrefix?_eq_some_iff {mark text rest : List Char} :
    stripPrefix? mark text = some rest ↔ text = mark ++ rest := by
  refine ⟨fun h => ?_, fun h => h ▸ stripPrefix?_append mark rest⟩
  unfold stripPrefix? at h
  split at h
  · next hmark =>
    obtain ⟨behind, rfl⟩ := List.isPrefixOf_iff_prefix.1 hmark
    rw [← Option.some.inj h, List.drop_left]
  · exact nomatch h

/-! ## As often as there is one -/

/-- Takes `mark` away from the front up to `n` times. -/
def dropMarks (mark : List Char) : Nat → List Char → List Char
  | 0, text => text
  | n + 1, text =>
    match stripPrefix? mark text with
    | some rest => dropMarks mark n rest
    | none => text

/-- The text without any `mark` at its front. -/
def dropAllMarks (mark text : List Char) : List Char := dropMarks mark text.length text

/-- The text without any `mark` at its end. -/
def dropAllEndMarks (mark text : List Char) : List Char :=
  (dropAllMarks mark.reverse text.reverse).reverse

end Text
end CommandGrove
