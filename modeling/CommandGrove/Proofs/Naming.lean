import CommandGrove.Naming
import CommandGrove.Proofs.Text.Case

/-!
# What names keep

A token has hyphens that its name does not have, and none of its capitals.  Blanks stay where they
are, and so does a hyphen at the front: whether a token can be registered is seen by its name.

## What is here

* `Naming.mem_hyphenate_iff`, `Naming.head?_hyphenate` — what hyphens between words leave alone.
* `Naming.isCommand_iff`, `Naming.isCommand_token` — a token can name a command just if its name
  can.
* `Naming.mem_optionKey_iff` — the key of a flag has the blanks of the flag.
-/

set_option autoImplicit false
namespace CommandGrove
namespace Naming

open Text

/-! ## Tokens -/

theorem mem_hyphenate_iff {c : Char} (hc : c ≠ '-') {s : List Char} : c ∈ hyphenate s ↔ c ∈ s := by
  fun_induction hyphenate s with
  | case1 a b rest hwords ih => simp [ih, hc]
  | case2 a b rest hwords ih => simp [ih]
  | case3 s hshort => rfl

theorem head?_hyphenate (s : List Char) : (hyphenate s).head? = s.head? := by
  fun_cases hyphenate s <;> rfl

theorem toList_token (name : String) :
    (token name).toList = toLower (hyphenate name.toList) :=
  String.toList_ofList

theorem isCommand_iff {token : String} :
    isCommand token = true ↔ token.toList ≠ [] ∧ token.toList.head? ≠ some '-' ∧
      ∀ c ∈ token.toList, isBlank c = false := by
  simp only [isCommand, Bool.and_eq_true, Bool.not_eq_true', bne_iff_ne, List.any_eq_false,
    Bool.not_eq_true, and_assoc, String.isEmpty_eq_false_iff, ne_eq, String.toList_eq_nil_iff]

theorem hyphenate_eq_nil_iff {s : List Char} : hyphenate s = [] ↔ s = [] := by
  rw [← List.head?_eq_none_iff, head?_hyphenate, List.head?_eq_none_iff]

theorem ne_hyphen_of_isBlank {c : Char} (hc : isBlank c = true) : c ≠ '-' := by
  rintro rfl
  exact absurd hc (by decide)

/-- **A token can name a command** just if the name that it is made of can. -/
theorem isCommand_token (name : String) : isCommand (token name) = isCommand name := by
  have hblank (c : Char) (hc : isBlank c = true) :
      c ∈ toLower (hyphenate name.toList) ↔ c ∈ name.toList := by
    rw [mem_toLower_iff (isCaseless_of_isBlank hc), mem_hyphenate_iff (ne_hyphen_of_isBlank hc)]
  rw [Bool.eq_iff_iff, isCommand_iff, isCommand_iff, toList_token]
  refine and_congr ?_ (and_congr ?_ (forall_congr' fun c => ?_))
  · rw [Ne, toLower_eq_nil_iff, hyphenate_eq_nil_iff]
  · rw [Ne, head?_toLower_eq_iff isCaseless_hyphen, head?_hyphenate]
  · cases hc : isBlank c with
    | false => simp
    | true => rw [hblank c hc]

/-! ## Keys of flags -/

theorem mem_capitalize_iff {c : Char} (hc : isCaseless c = true) {part : List Char} :
    c ∈ capitalize part ↔ c ∈ part := by
  cases part with
  | nil => rfl
  | cons first rest => rw [capitalize, List.mem_append, mem_upperChar_iff hc, List.mem_cons, eq_comm]

/-- What a flag switches off has the blanks of the flag. -/
theorem mem_negated?_getD_iff {c : Char} (hc : isBlank c = true) (flag : String) :
    c ∈ (negated? flag).getD flag.toList ↔ c ∈ flag.toList := by
  cases h : negated? flag with
  | none => rfl
  | some rest =>
    have hmark : c ∉ ['n', 'o', '-'] := by
      simp only [List.mem_cons, List.not_mem_nil, or_false]
      rintro (rfl | rfl | rfl) <;> exact absurd hc (by decide)
    have hflag : flag.toList = ['n', 'o', '-'] ++ rest :=
      stripPrefix?_eq_some_iff.1 (Option.filter_eq_some_iff.1 h).1
    rw [Option.getD_some, hflag, List.mem_append, or_iff_right hmark]

/-- **The key of a flag** has the blanks of the flag. -/
theorem mem_optionKey_iff {c : Char} (hc : isBlank c = true) {flag : String} :
    c ∈ (optionKey flag).toList ↔ c ∈ flag.toList := by
  rw [← mem_negated?_getD_iff hc flag, optionKey]
  generalize (negated? flag).getD flag.toList = text
  rw [← exists_mem_splitOn_iff (ne_hyphen_of_isBlank hc) (s := text)]
  cases splitOn '-' text with
  | nil => simp
  | cons first others =>
    have hothers : c ∈ (others.map capitalize).flatten ↔ ∃ part ∈ others, c ∈ part := by
      simp only [← List.flatMap_def, List.mem_flatMap,
        mem_capitalize_iff (isCaseless_of_isBlank hc)]
    simp only [String.toList_ofList, List.mem_append, hothers, List.mem_cons, or_and_right,
      exists_or, exists_eq_left]

end Naming
end CommandGrove
