import CommandGrove.Plan.OfTree

/-!
# The identifiers of a plan

Commands are named by their numbers, and imports by their places and the words of the paths of
their modules.  Whatever characters such a path has, only letters and digits of ASCII get into the
name, and the number in it keeps it apart from every other one.

## What is here

* `isIdentifier` — the text is an identifier of ASCII.
* `Naming.isPlain_of_mem_bindingSuffix` — what the words of a module path are made of.
* `isIdentifier_identifierFor`, `isIdentifier_importBinding` — the names are identifiers.
* `identifierFor_inj`, `importBinding_inj`, `identifierFor_ne_importBinding` — no name is given
  twice.
-/

set_option autoImplicit false
namespace CommandGrove

/-! ## Identifiers -/

/-- The character may stand in an identifier: a letter or a digit of ASCII, or an underscore. -/
def isIdentifierChar (c : Char) : Bool := c.isAlphanum || c == '_'

/-- The text is an identifier: it is not empty, may stand in one, and does not begin with a
digit. -/
def isIdentifier (name : String) : Bool :=
  !name.toList.isEmpty && name.toList.all isIdentifierChar && !name.toList.head?.any Char.isDigit

/-- An identifier may be continued. -/
theorem isIdentifier_append {name rest : String} (hname : isIdentifier name = true)
    (hrest : ∀ c ∈ rest.toList, isIdentifierChar c = true) : isIdentifier (name ++ rest) = true := by
  simp only [isIdentifier, Bool.and_eq_true, Bool.not_eq_true', List.all_eq_true] at hname ⊢
  obtain ⟨⟨hempty, hall⟩, hhead⟩ := hname
  rw [String.toList_append]
  cases hs : name.toList with
  | nil => rw [hs] at hempty; exact nomatch hempty
  | cons first others =>
    rw [hs] at hall hhead
    refine ⟨⟨rfl, fun c hc => ?_⟩, hhead⟩
    rcases List.mem_append.1 hc with hc | hc
    · exact hall c hc
    · exact hrest c hc

/-! ## Numbers -/

theorem toList_toString (n : Nat) : (toString n).toList = Nat.toDigits 10 n := by
  rw [Nat.toString_eq_ofList_toDigits, String.toList_ofList]

/-- A number can be read back from its digits. -/
theorem toString_inj {n k : Nat} (h : toString n = toString k) : n = k := by
  have hdigits : Nat.toDigits 10 n = Nat.toDigits 10 k := by
    rw [← toList_toString, ← toList_toString, h]
  rw [← Nat.ofDigitChars_ten_toDigits (n := n), hdigits, Nat.ofDigitChars_ten_toDigits]

theorem isDigit_of_mem_toString {n : Nat} {c : Char} (h : c ∈ (toString n).toList) :
    c.isDigit = true := by
  rw [toList_toString] at h
  exact Nat.isDigit_of_mem_toDigits (by decide) (by decide) h

theorem isIdentifierChar_of_isDigit {c : Char} (h : c.isDigit = true) :
    isIdentifierChar c = true := by
  rw [isIdentifierChar, Char.isAlphanum, h, Bool.or_true, Bool.true_or]

/-! ## The words of a module path -/

namespace Naming

/-- Dividing a piece into words adds no characters. -/
theorem mem_of_mem_splitWords {mode : WordMode} {word piece part : List Char}
    (hpart : part ∈ splitWords mode word piece) {c : Char} (hc : c ∈ part) :
    c ∈ word ∨ c ∈ piece := by
  fun_induction splitWords mode word piece with
  | case1 mode word => exact nomatch hpart
  | case2 mode word last =>
    rw [List.mem_singleton.1 hpart, List.mem_reverse, List.mem_cons] at hc
    exact hc.elim (fun h => Or.inr (h ▸ List.mem_cons_self)) Or.inl
  | case3 mode word first next rest hcase ih =>
    rcases List.mem_cons.1 hpart with rfl | hpart
    · rw [List.mem_reverse, List.mem_cons] at hc
      exact hc.elim (fun h => Or.inr (h ▸ List.mem_cons_self)) Or.inl
    · exact Or.inr (List.mem_cons_of_mem _ ((ih hpart).resolve_left List.not_mem_nil))
  | case4 mode word first next rest hcase hcase' ih =>
    rcases List.mem_cons.1 hpart with rfl | hpart
    · exact Or.inl (List.mem_reverse.1 hc)
    · rcases ih hpart with h | h
      · exact Or.inr (List.mem_singleton.1 h ▸ List.mem_cons_self)
      · exact Or.inr (List.mem_cons_of_mem _ h)
  | case5 mode word first next rest hcase hcase' ih =>
    rcases ih hpart with h | h
    · exact (List.mem_cons.1 h).elim (fun h => Or.inr (h ▸ List.mem_cons_self)) Or.inl
    · exact Or.inr (List.mem_cons_of_mem _ h)

theorem toNat_lt_of_isPlain {c : Char} (h : isPlain c = true) : c.toNat < 128 := by
  unfold isPlain Char.isAlphanum Char.isAlpha Char.isUpper Char.isLower Char.isDigit at h
  simp only [Bool.or_eq_true, Bool.and_eq_true, decide_eq_true_eq, ge_iff_le,
    UInt32.le_iff_toNat_le] at h
  have hZ : 'Z'.val.toNat = 90 := rfl
  have hz : 'z'.val.toNat = 122 := rfl
  have h9 : '9'.val.toNat = 57 := rfl
  rw [Char.toNat]
  omega

/-- Changing the case of a letter or digit of ASCII gives one again. -/
theorem isPlain_changeCase {c : Char} (h : isPlain c = true) :
    isPlain c.toUpper = true ∧ isPlain c.toLower = true := by
  have hall : ∀ n < 128, isPlain (Char.ofNat n) = true →
      isPlain (Char.ofNat n).toUpper = true ∧ isPlain (Char.ofNat n).toLower = true := by
    decide
  have hc := hall c.toNat (toNat_lt_of_isPlain h)
  rw [Char.ofNat_toNat] at hc
  exact hc h

theorem isPlain_of_mem_titled {word : List Char} (hword : ∀ c ∈ word, isPlain c = true) {c : Char}
    (hc : c ∈ titled word) : isPlain c = true := by
  cases word with
  | nil => exact nomatch hc
  | cons first rest =>
    rcases List.mem_cons.1 hc with rfl | hc
    · exact (isPlain_changeCase (hword first List.mem_cons_self)).1
    · obtain ⟨x, hx, rfl⟩ := List.mem_map.1 hc
      exact (isPlain_changeCase (hword x (List.mem_cons_of_mem _ hx))).2

/-- **The identifier for a module path has letters and digits of ASCII only**, whatever the path. -/
theorem isPlain_of_mem_bindingSuffix {path : String} {c : Char}
    (hc : c ∈ (bindingSuffix path).toList) : isPlain c = true := by
  rw [bindingSuffix] at hc
  split at hc
  · exact List.all_eq_true.1 (by decide) c hc
  · rw [String.toList_ofList, List.mem_flatten] at hc
    obtain ⟨_, htitled, hc⟩ := hc
    rw [List.mem_map] at htitled
    obtain ⟨word, hword, rfl⟩ := htitled
    rw [List.mem_flatMap] at hword
    obtain ⟨piece, hpiece, hword⟩ := hword
    refine isPlain_of_mem_titled (fun x hx => ?_) hc
    have hx := (mem_of_mem_splitWords hword hx).resolve_left List.not_mem_nil
    obtain ⟨hx, hne⟩ := Text.mem_of_mem_splitOn hpiece hx
    -- What was no letter or digit has become an underscore, and those are between the pieces.
    rw [List.mem_map] at hx
    obtain ⟨y, -, rfl⟩ := hx
    by_cases hy : isPlain y = true
    · rw [if_pos hy]
      exact hy
    · rw [if_neg hy] at hne
      exact absurd rfl hne

end Naming

/-! ## Names of commands and imports -/

theorem isIdentifier_identifierFor (i : Nat) : isIdentifier (identifierFor i) = true := by
  rw [identifierFor]
  split
  · decide
  · exact isIdentifier_append (by decide) fun c hc =>
      isIdentifierChar_of_isDigit (isDigit_of_mem_toString hc)

theorem isIdentifier_importBinding (i : Nat) (m : ModulePath) :
    isIdentifier (importBinding i m) = true := by
  rw [importBinding]
  refine isIdentifier_append (isIdentifier_append (isIdentifier_append (by decide) ?_) ?_) ?_
  · exact fun c hc => isIdentifierChar_of_isDigit (isDigit_of_mem_toString hc)
  · exact List.all_eq_true.1 (by decide)
  · intro c hc
    have hplain : c.isAlphanum = true := Naming.isPlain_of_mem_bindingSuffix hc
    rw [isIdentifierChar, hplain, Bool.true_or]

theorem identifierFor_inj {i j : Nat} (h : identifierFor i = identifierFor j) : i = j := by
  have hhead (k : Nat) : ("cmd_" ++ toString k).toList.head? = some 'c' := by
    rw [String.toList_append]
    rfl
  have hne (k : Nat) : rootIdentifier ≠ "cmd_" ++ toString k := by
    intro hk
    have := hhead k
    rw [← hk] at this
    exact absurd this (by decide)
  rw [identifierFor, identifierFor] at h
  split at h <;> split at h
  · next hi hj => exact hi.trans hj.symm
  · exact absurd h (hne j)
  · exact absurd h.symm (hne i)
  · exact toString_inj ((String.append_right_inj "cmd_").1 h)

/-- The number in the name of an import can be read back: it ends at the next underscore. -/
theorem importBinding_inj {i j : Nat} {m n : ModulePath}
    (h : importBinding i m = importBinding j n) : i = j := by
  have hdigits (k : Nat) (p : ModulePath) :
      ((importBinding k p).toList.drop 4).takeWhile Char.isDigit = (toString k).toList := by
    rw [importBinding, String.toList_append, String.toList_append, String.toList_append,
      List.append_assoc, List.append_assoc, List.drop_left' (by decide),
      List.takeWhile_append_of_pos fun c hc => isDigit_of_mem_toString hc]
    exact List.append_nil _
  have hstring : (toString i).toList = (toString j).toList := by rw [← hdigits i m, h, hdigits]
  exact toString_inj (String.toList_inj.1 hstring)

theorem identifierFor_ne_importBinding (i j : Nat) (m : ModulePath) :
    identifierFor i ≠ importBinding j m := by
  intro h
  have hhead : (identifierFor i).toList.head? = some 'm' := by
    rw [h, importBinding, String.toList_append, String.toList_append, String.toList_append]
    rfl
  rw [identifierFor] at hhead
  split at hhead
  · exact absurd hhead (by decide)
  · rw [String.toList_append] at hhead
    exact absurd (Option.some.inj hhead) (by decide)

end CommandGrove
