import CommandGrove.Proofs.Text.CaseTables
import CommandGrove.Text.Blank

/-!
# What has no case

Blanks and hyphens have no case: the mappings leave them alone, and nothing else is mapped to one
of them.

## What is here

* `isCaseless` — the character has no case; `isCaseless_of_isBlank`.
* `mem_lowerChar_iff`, `mem_upperChar_iff` — it stands for itself in the other case.
* `mem_toLower_iff`, `head?_toLower_eq_iff` — where it stands in a text.
-/

set_option autoImplicit false
namespace CommandGrove
namespace Text

/-! ## Characters -/

/-- The characters that are not mapped by ranges alone: the dotted capital I, the sigmas, and what
these are mapped to. -/
def specialCodes : List Nat := [0x130, 0x69, 0x307, 0x3A3, 0x3C2, 0x3C3]

/-- The code point is the one of a character without a case. -/
def isCaselessCode (n : Nat) : Bool :=
  0 < n && lowerRanges.all (·.avoids n) && upperRanges.all (·.avoids n) &&
    upperSequences.all (fun s => s.1 != n && !s.2.contains n) && !specialCodes.contains n

/-- The character has no case. -/
def isCaseless (c : Char) : Bool := isCaselessCode c.toNat

theorem ofNat_eq_iff {n : Nat} {c : Char} (hc : 0 < c.toNat) : Char.ofNat n = c ↔ n = c.toNat := by
  constructor
  · rintro rfl
    by_cases hn : n.isValidChar
    · rw [Char.ofNat, dif_pos hn]
      rfl
    · rw [Char.ofNat, dif_neg hn] at hc
      exact absurd hc (Nat.lt_irrefl 0)
  · rintro rfl
    exact Char.ofNat_toNat c

/-- No character is lost in lower case. -/
theorem lowered_ne_nil (c : Char) (before rest : List Char) :
    (if c = capitalSigma then [lowerSigma before rest] else lowerChar c) ≠ [] := by
  unfold lowerChar
  split
  · exact List.cons_ne_nil _ _
  · split <;> exact List.cons_ne_nil _ _

theorem toLower_eq_nil_iff {s : List Char} : toLower s = [] ↔ s = [] := by
  cases s with
  | nil => rfl
  | cons c rest =>
    rw [toLower, toLowerFrom]
    exact iff_of_false (List.append_ne_nil_of_left_ne_nil (lowered_ne_nil c [] rest) _)
      (List.cons_ne_nil c rest)

section Caseless

variable {d : Char} (hd : isCaseless d = true)

include hd

theorem ne_of_mem_specialCodes {c : Char} (hc : c.toNat ∈ specialCodes) : c ≠ d := by
  rintro rfl
  simp only [isCaseless, isCaselessCode, Bool.and_eq_true, Bool.not_eq_true', List.contains_eq_mem,
    decide_eq_false_iff_not] at hd
  exact hd.2 hc

theorem mem_lowerChar_iff {c : Char} : d ∈ lowerChar c ↔ c = d := by
  unfold lowerChar
  split
  · next hc =>
    rw [beq_iff_eq] at hc
    refine iff_of_false ?_ (ne_of_mem_specialCodes hd (hc ▸ by decide))
    rw [List.mem_cons, List.mem_singleton]
    rintro (heq | heq)
    · exact ne_of_mem_specialCodes hd (by decide) heq.symm
    · exact ne_of_mem_specialCodes hd (by decide) heq.symm
  · simp only [isCaseless, isCaselessCode, Bool.and_eq_true, decide_eq_true_eq] at hd
    obtain ⟨⟨⟨⟨hpos, hlower⟩, -⟩, -⟩, -⟩ := hd
    rw [List.mem_singleton, eq_comm, ofNat_eq_iff hpos, mapCode_eq_iff hpos hlower, Char.toNat_inj]

theorem mem_upperChar_iff {c : Char} : d ∈ upperChar c ↔ c = d := by
  simp only [isCaseless, isCaselessCode, Bool.and_eq_true, decide_eq_true_eq,
    Bool.not_eq_true'] at hd
  obtain ⟨⟨⟨⟨hpos, -⟩, hupper⟩, hsequences⟩, -⟩ := hd
  unfold upperChar
  split
  · next s hs =>
    have hcode : s.1 = c.toNat := by simpa using List.find?_some hs
    have hs := List.all_eq_true.1 hsequences s (List.mem_of_find?_eq_some hs)
    simp only [Bool.and_eq_true, bne_iff_ne, Bool.not_eq_true', List.contains_eq_mem,
      decide_eq_false_iff_not] at hs
    refine iff_of_false ?_ ?_
    · rintro hmem
      obtain ⟨n, hn, hchar⟩ := List.mem_map.1 hmem
      rw [ofNat_eq_iff hpos] at hchar
      exact hs.2 (hchar ▸ hn)
    · rintro rfl
      exact hs.1 hcode
  · rw [List.mem_singleton, eq_comm, ofNat_eq_iff hpos, mapCode_eq_iff hpos hupper, Char.toNat_inj]

/-! ## Texts -/

/-- The character is in the lower case of another one just if it is this one, also at the end of a
word. -/
theorem mem_lowered_iff {c : Char} {before rest : List Char} :
    d ∈ (if c = capitalSigma then [lowerSigma before rest] else lowerChar c) ↔ c = d := by
  split
  · next hc =>
    have hsigma : (lowerSigma before rest).toNat ∈ specialCodes := by
      unfold lowerSigma
      split <;> decide
    rw [hc, List.mem_singleton]
    exact iff_of_false (ne_of_mem_specialCodes hd hsigma).symm
      (ne_of_mem_specialCodes hd (by decide))
  · exact mem_lowerChar_iff hd

theorem mem_toLowerFrom_iff {before s : List Char} : d ∈ toLowerFrom before s ↔ d ∈ s := by
  induction s generalizing before with
  | nil => rfl
  | cons c rest ih =>
    rw [toLowerFrom, List.mem_append, mem_lowered_iff hd, ih, List.mem_cons, eq_comm]

/-- **Where there is no case** a text in lower case has the same characters. -/
theorem mem_toLower_iff {s : List Char} : d ∈ toLower s ↔ d ∈ s := mem_toLowerFrom_iff hd

theorem lowerChar_eq : lowerChar d = [d] := by
  have hmem := (mem_lowerChar_iff hd (c := d)).2 rfl
  unfold lowerChar at hmem ⊢
  split
  · next hc => exact absurd rfl (ne_of_mem_specialCodes hd (beq_iff_eq.1 hc ▸ by decide))
  · next hc =>
    rw [if_neg hc] at hmem
    rw [← List.mem_singleton.1 hmem]

theorem head?_toLower_eq_iff {s : List Char} : (toLower s).head? = some d ↔ s.head? = some d := by
  cases s with
  | nil => rfl
  | cons c rest =>
    have hmem : d ∈ (if c = capitalSigma then [lowerSigma [] rest] else lowerChar c) ↔ c = d :=
      mem_lowered_iff hd
    obtain ⟨first, others, himage⟩ := List.exists_cons_of_ne_nil (lowered_ne_nil c [] rest)
    rw [toLower, toLowerFrom, himage, List.cons_append, List.head?_cons, List.head?_cons,
      Option.some.injEq, Option.some.injEq]
    constructor
    · rintro rfl
      exact hmem.1 (himage ▸ List.mem_cons_self)
    · rintro rfl
      rw [if_neg (ne_of_mem_specialCodes hd (by decide)).symm, lowerChar_eq hd] at himage
      exact (List.cons.inj himage).1.symm

end Caseless

/-! ## Blanks and hyphens -/

theorem toNat_mem_blankCodes {c : Char} (h : isBlank c = true) : c.toNat ∈ blankCodes := by
  have hcontrols : c.toNat ∈ List.range' 9 5 ↔ 9 ≤ c.toNat ∧ c.toNat ≤ 13 := by
    rw [List.mem_range'_1]
    omega
  have hspaces : c.toNat ∈ List.range' 0x2000 11 ↔ 0x2000 ≤ c.toNat ∧ c.toNat ≤ 0x200A := by
    rw [List.mem_range'_1]
    omega
  simpa [isBlank, blankCodes, hcontrols, hspaces, or_assoc] using h

theorem isCaseless_of_mem_spacing {c : Char} (h : c.toNat ∈ spacing) : isCaseless c = true := by
  have hrest : ∀ n ∈ spacing, 0 < n ∧ n ∉ specialCodes := by decide
  obtain ⟨hpos, hspecial⟩ := hrest c.toNat h
  obtain ⟨hlower, hupper⟩ := avoids_of_mem (List.mem_cons_of_mem 0x130 h)
  have hsequences : upperSequences.all (fun s => s.1 != c.toNat && !s.2.contains c.toNat)
      = true := by
    rw [List.all_eq_true]
    intro s hs
    have hnot := not_mem_of_mem_spacing h hs
    rw [List.mem_cons, not_or] at hnot
    simp [hnot.2, Ne.symm hnot.1]
  rw [isCaseless, isCaselessCode, hlower, hupper, hsequences]
  simp [hpos, hspecial]

theorem isCaseless_of_isBlank {c : Char} (h : isBlank c = true) : isCaseless c = true :=
  isCaseless_of_mem_spacing (List.mem_cons_of_mem 0x2D (toNat_mem_blankCodes h))

theorem isCaseless_hyphen : isCaseless '-' = true := isCaseless_of_mem_spacing List.mem_cons_self

end Text
end CommandGrove
