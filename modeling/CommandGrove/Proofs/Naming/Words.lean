import CommandGrove.Proofs.Naming
import CommandGrove.Proofs.Text.LowerCase

/-!
# Words in names

The hyphens of a token are found in one pass that takes two characters at a time where a word ends
and another begins.  No place is missed for that: a capital that was taken with the character before
it ends no word, so the pass could have gone on from the capital itself.

## What is here

* `Naming.separated` — a name with a hyphen wherever a word ends and another begins, said of all
  places at once; `Naming.hyphenate_eq_separated` says that the pass finds just these.
* `Naming.hyphenate_cons_cons` — the pass, one character at a time.
* `Naming.token_eq_and_token_token` — a token is the name with these hyphens in lower case, and
  its own token.
-/

set_option autoImplicit false
namespace CommandGrove
namespace Naming

open Text

/-! ## Where words end -/

/-- A word ends with the first character and another begins with the second. -/
def isBoundary (a b : Char) : Bool := isLowerOrDigit a && b.isUpper

/-- The name with a hyphen between every two neighbours where a word ends and another begins. -/
def separated (name : List Char) : List Char :=
  name.head?.toList ++
    (name.zip name.tail).flatMap fun (a, b) => if isBoundary a b then ['-', b] else [b]

theorem separated_cons_cons (a b : Char) (rest : List Char) :
    separated (a :: b :: rest)
      = if isBoundary a b then a :: '-' :: separated (b :: rest)
        else a :: separated (b :: rest) := by
  by_cases h : isBoundary a b = true
  · simp [separated, h]
  · simp [separated, h]

theorem isLowerOrDigit_iff {c : Char} :
    isLowerOrDigit c = true ↔ 97 ≤ c.toNat ∧ c.toNat ≤ 122 ∨ 48 ≤ c.toNat ∧ c.toNat ≤ 57 := by
  simp [isLowerOrDigit, Char.isLower, Char.isDigit, UInt32.le_iff_toNat_le, ← Char.toNat_val]

theorem isLowerOrDigit_eq_false {c : Char} (h : c.isUpper = true) : isLowerOrDigit c = false := by
  rw [isUpper_iff] at h
  rw [← Bool.not_eq_true, isLowerOrDigit_iff]
  omega

/-- No word ends with a capital. -/
theorem separated_cons_of_isUpper {c : Char} (h : c.isUpper = true) (rest : List Char) :
    separated (c :: rest) = c :: separated rest := by
  cases rest with
  | nil => rfl
  | cons b rest =>
    rw [separated_cons_cons, isBoundary, isLowerOrDigit_eq_false h]
    rfl

/-- **The pass misses no place** where a word ends and another begins. -/
theorem hyphenate_eq_separated (name : List Char) : hyphenate name = separated name := by
  fun_induction hyphenate name with
  | case1 a b rest hwords ih =>
    -- The pass goes on behind the capital, where no word ends.
    have hupper : b.isUpper = true := (Bool.and_eq_true_iff.1 hwords).2
    rw [separated_cons_cons, isBoundary, if_pos hwords, separated_cons_of_isUpper hupper, ih]
  | case2 a b rest hwords ih => rw [separated_cons_cons, isBoundary, if_neg hwords, ih]
  | case3 s hshort =>
    cases s with
    | nil => rfl
    | cons a others =>
      cases others with
      | nil => rfl
      | cons b rest => exact absurd rfl (hshort a b rest)

theorem hyphenate_cons_cons (a b : Char) (rest : List Char) :
    hyphenate (a :: b :: rest)
      = if isBoundary a b then a :: '-' :: hyphenate (b :: rest)
        else a :: hyphenate (b :: rest) := by
  simp only [hyphenate_eq_separated, separated_cons_cons]

/-! ## Tokens of tokens -/

/-- No word begins in a name without capitals. -/
theorem hyphenate_of_lower {s : List Char} (h : ∀ c ∈ s, c.isUpper = false) : hyphenate s = s := by
  fun_induction hyphenate s with
  | case1 a b rest hwords ih =>
    have hupper : b.isUpper = true := (Bool.and_eq_true_iff.1 hwords).2
    rw [h b (by simp)] at hupper
    exact absurd hupper Bool.false_ne_true
  | case2 a b rest hwords ih => rw [ih fun c hc => h c (List.mem_cons_of_mem a hc)]
  | case3 s hshort => rfl

/-- A token is its own token. -/
theorem token_of_token (name : String) : token (token name) = token name := by
  have hlower : ∀ c ∈ toLower (hyphenate name.toList), c.isUpper = false := fun c hc =>
    (isLowered_of_mem_toLower hc).isUpper_eq_false
  rw [token, toList_token, hyphenate_of_lower hlower, toLower_toLower, ← token]

/-- **What a token is.**  It is the name in lower case with a hyphen between every two neighbours of
which the first is a small letter or a digit of ASCII and the second a capital of ASCII; and the
token of a token is this token. -/
theorem token_eq_and_token_token (name : String) :
    token name = String.ofList (toLower (separated name.toList)) ∧
      token (token name) = token name := by
  refine ⟨?_, token_of_token name⟩
  rw [token, hyphenate_eq_separated]

example : token "aBcD1EΣ" = "a-bc-d1-eς" := by decide +kernel

end Naming
end CommandGrove
