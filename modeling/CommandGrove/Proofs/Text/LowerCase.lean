import CommandGrove.Proofs.Text.Case
import Mathlib

/-!
# Lower case is final

The table of lower cases leads to no character that it changes again, and the sigma that ends a word
is told from the other one only while it is a capital.  So a text in lower case is left alone when
it is put in lower case once more.

## What is here

* `IsLowered` — the character is its own lower case.  `isLowered_of_mem_toLower` says that lower
  case is made of such characters, `toLower_of_isLowered` that such a text stays as it is.
* `toLower_toLower` — lower case is final.
* `lowerChar_of_ascii`, `upperChar_of_ascii` — in ASCII both mappings are those of the letters from
  `A` to `Z`.
-/

set_option autoImplicit false
namespace CommandGrove
namespace Text

/-! ## Characters -/

/-- The character is its own lower case. -/
def IsLowered (c : Char) : Prop := mapCode lowerRanges c.toNat = c.toNat ∧ c.toNat ≠ 0x130

instance (c : Char) : Decidable (IsLowered c) := inferInstanceAs (Decidable (_ ∧ _))

theorem IsLowered.lowerChar_eq {c : Char} (h : IsLowered c) : lowerChar c = [c] := by
  simp [lowerChar, h.1, h.2]

theorem IsLowered.ne_capitalSigma {c : Char} (h : IsLowered c) : c ≠ capitalSigma := by
  rintro rfl
  exact absurd h.1 (by decide)

theorem isLowered_ofNat {n : Nat} (h : mapCode lowerRanges n = n) (hn : n ≠ 0x130) :
    IsLowered (Char.ofNat n) := by
  by_cases hvalid : n.isValidChar
  · have hcode : (Char.ofNat n).toNat = n := by rw [Char.ofNat, dif_pos hvalid]; rfl
    exact ⟨by rw [hcode, h], by rw [hcode]; exact hn⟩
  · rw [Char.ofNat, dif_neg hvalid]
    decide

theorem isLowered_of_mem_lowerChar {c d : Char} (h : d ∈ lowerChar c) : IsLowered d := by
  unfold lowerChar at h
  split at h
  · rw [List.mem_cons, List.mem_singleton] at h
    rcases h with rfl | rfl
    · decide
    · decide
  · next hc =>
    have hdotted : lowerRanges.all (·.avoids 0x130) = true := (avoids_of_mem List.mem_cons_self).1
    rw [List.mem_singleton] at h
    rw [h]
    refine isLowered_ofNat (mapCode_mapCode isFinal_lowerRanges _) fun heq => hc ?_
    simpa using (mapCode_eq_iff (by decide) hdotted).1 heq

theorem isLowered_lowerSigma (before after : List Char) : IsLowered (lowerSigma before after) := by
  unfold lowerSigma
  split
  · decide
  · decide

/-! ## Texts -/

theorem isLowered_of_mem_toLowerFrom {d : Char} {before s : List Char}
    (h : d ∈ toLowerFrom before s) : IsLowered d := by
  induction s generalizing before with
  | nil => exact nomatch h
  | cons c rest ih =>
    rw [toLowerFrom, List.mem_append] at h
    rcases h with h | h
    · split at h
      · rw [List.mem_singleton.1 h]
        exact isLowered_lowerSigma before rest
      · exact isLowered_of_mem_lowerChar h
    · exact ih h

/-- Lower case is made of characters that are their own lower case. -/
theorem isLowered_of_mem_toLower {d : Char} {s : List Char} (h : d ∈ toLower s) : IsLowered d :=
  isLowered_of_mem_toLowerFrom h

/-- Where no sigma is a capital, lower case goes from character to character. -/
theorem toLowerFrom_eq_flatMap {before s : List Char} (h : ∀ c ∈ s, c ≠ capitalSigma) :
    toLowerFrom before s = s.flatMap lowerChar := by
  induction s generalizing before with
  | nil => rfl
  | cons c rest ih =>
    rw [toLowerFrom, if_neg (h c List.mem_cons_self), List.flatMap_cons,
      ih fun d hd => h d (List.mem_cons_of_mem c hd)]

theorem toLower_of_isLowered {s : List Char} (h : ∀ c ∈ s, IsLowered c) : toLower s = s := by
  have hmap : s.flatMap lowerChar = s.flatMap fun c => [c] :=
    List.flatMap_congr fun c hc => (h c hc).lowerChar_eq
  rw [toLower, toLowerFrom_eq_flatMap fun c hc => (h c hc).ne_capitalSigma, hmap]
  simp

/-- **Lower case is final.** -/
theorem toLower_toLower (s : List Char) : toLower (toLower s) = toLower s :=
  toLower_of_isLowered fun _ hc => isLowered_of_mem_toLower hc

/-! ## ASCII -/

theorem isUpper_iff {c : Char} : c.isUpper = true ↔ 65 ≤ c.toNat ∧ c.toNat ≤ 90 := by
  simp [Char.isUpper, UInt32.le_iff_toNat_le, ← Char.toNat_val]

theorem isLower_iff {c : Char} : c.isLower = true ↔ 97 ≤ c.toNat ∧ c.toNat ≤ 122 := by
  simp [Char.isLower, UInt32.le_iff_toNat_le, ← Char.toNat_val]

theorem mapCode_lowerRanges {c : Char} (h : c.toNat < 128) :
    mapCode lowerRanges c.toNat = if c.isUpper then c.toNat + 32 else c.toNat := by
  have hfirst : CaseRange.holds ⟨0x41, 0x5A, 1, 32⟩ c.toNat = c.isUpper := by
    rw [Bool.eq_iff_iff, isUpper_iff, CaseRange.holds_iff, Nat.mod_one, eq_self, and_true]
  have hmap := mapCode_cons_of_lt (r := ⟨0x41, 0x5A, 1, 32⟩) fun r hr =>
    Nat.lt_of_lt_of_le h (le_first_of_mem_tail (List.mem_append_left upperRanges.tail hr))
  rw [hfirst] at hmap
  exact hmap

theorem mapCode_upperRanges {c : Char} (h : c.toNat < 128) :
    mapCode upperRanges c.toNat = if c.isLower then c.toNat - 32 else c.toNat := by
  have hfirst : CaseRange.holds ⟨0x61, 0x7A, 1, -32⟩ c.toNat = c.isLower := by
    rw [Bool.eq_iff_iff, isLower_iff, CaseRange.holds_iff, Nat.mod_one, eq_self, and_true]
  have hmap := mapCode_cons_of_lt (r := ⟨0x61, 0x7A, 1, -32⟩) fun r hr =>
    Nat.lt_of_lt_of_le h (le_first_of_mem_tail (List.mem_append_right lowerRanges.tail hr))
  have hshift : ((c.toNat : Int) + -32).toNat = c.toNat - 32 := by omega
  rw [hfirst, hshift] at hmap
  exact hmap

/-- No capital of ASCII is left in lower case. -/
theorem IsLowered.isUpper_eq_false {c : Char} (h : IsLowered c) : c.isUpper = false := by
  by_contra hupper
  rw [Bool.not_eq_false] at hupper
  have hascii := (isUpper_iff.1 hupper).2
  have hmap := h.1
  rw [mapCode_lowerRanges (by omega), if_pos hupper] at hmap
  omega

/-- What holds of the characters of ASCII one by one holds of all of them. -/
theorem forall_ascii {P : Char → Prop} (h : ∀ n < 128, P (Char.ofNat n)) {c : Char}
    (hc : c.toNat < 128) : P c := by
  simpa using h c.toNat hc

theorem lowerChar_of_ascii {c : Char} (h : c.toNat < 128) : lowerChar c = [c.toLower] := by
  have hdotted : c.toNat ≠ 0x130 := by omega
  by_cases hupper : c.isUpper = true
  · simp [lowerChar, hdotted, mapCode_lowerRanges h, hupper, Char.toLower_eq_of_isUpper]
  · simp [lowerChar, hdotted, mapCode_lowerRanges h, hupper, Char.toLower_eq_of_not_isUpper]

theorem upperChar_of_ascii {c : Char} (h : c.toNat < 128) : upperChar c = [c.toUpper] := by
  have hnone : upperSequences.find? (·.1 == c.toNat) = none := by
    rw [List.find?_eq_none]
    intro s hs heq
    have := le_of_mem_upperSequences hs
    rw [beq_iff_eq] at heq
    omega
  by_cases hlower : c.isLower = true
  · simp [upperChar, hnone, mapCode_upperRanges h, hlower, Char.toUpper_eq_of_isLower]
  · simp [upperChar, hnone, mapCode_upperRanges h, hlower, Char.toUpper_eq_of_not_isLower]

theorem toLower_of_ascii {s : List Char} (h : ∀ c ∈ s, c.toNat < 128) :
    toLower s = s.map Char.toLower := by
  have hsigma : ∀ c ∈ s, c ≠ capitalSigma := by
    rintro c hc rfl
    exact absurd (h _ hc) (by decide)
  have hmap : s.flatMap lowerChar = s.flatMap fun c => [c.toLower] :=
    List.flatMap_congr fun c hc => lowerChar_of_ascii (h c hc)
  rw [toLower, toLowerFrom_eq_flatMap hsigma, hmap]
  exact List.flatMap_pure_eq_map Char.toLower s

end Text
end CommandGrove
