import CommandGrove.Text.Case
import Mathlib.Algebra.Ring.GeomSum

/-!
# The tables of cases as sets

What a table of cases holds and what it leads to are sets of code points.  A set is written as a
number with a bit for each member, so that a whole table is compared with another set at once.

## What is here

* `union`, `setOf` — the members of several sets and those of a list; `stripes` — members at equal
  distances.
* `CaseRange.sources`, `CaseRange.goals` — what a range holds and what it leads to.
* `CaseRange.avoids` — a range neither holds a code point nor leads to it; `mapCode_eq_iff`.
* `isClearOf` — the ranges of a table avoid all members of a set.
* `isFinal` — they lead to nothing that one of them holds; `mapCode_mapCode` says what this does to
  the mapping.
* `tables_checked` — what the two tables and the sequences are like; `isFinal_lowerRanges`,
  `avoids_of_mem`, `not_mem_of_mem_spacing` and the bounds for ASCII are read off it.
-/

set_option autoImplicit false
namespace CommandGrove
namespace Text

/-! ## Sets -/

/-- The members of any of the sets. -/
def union (sets : List Nat) : Nat := sets.foldr (· ||| ·) 0

theorem testBit_union {sets : List Nat} {set n : Nat} (hset : set ∈ sets)
    (hn : set.testBit n = true) : (union sets).testBit n = true := by
  induction sets with
  | nil => exact nomatch hset
  | cons first rest ih =>
    rw [union, List.foldr_cons, Nat.testBit_or, Bool.or_eq_true]
    rcases List.mem_cons.1 hset with rfl | hrest
    · exact .inl hn
    · exact .inr (ih hrest)

/-- The members of a list as a set. -/
def setOf (members : List Nat) : Nat := union (members.map (2 ^ ·))

theorem testBit_setOf {members : List Nat} {n : Nat} (h : n ∈ members) :
    (setOf members).testBit n = true :=
  testBit_union (List.mem_map_of_mem h) Nat.testBit_two_pow_self

/-- Sets without a common member. -/
theorem not_testBit_of_land_eq_zero {m k n : Nat} (h : m &&& k = 0) (hm : m.testBit n = true) :
    ¬ k.testBit n = true := by
  intro hk
  have hboth : (m &&& k).testBit n = true := by rw [Nat.testBit_and, hm, hk]; rfl
  rw [h, Nat.zero_testBit] at hboth
  exact nomatch hboth

/-- The set of `0`, `step`, `2 * step` and so on, with `count` members.  It is the sum of a
geometric series, so no member has to be added by itself. -/
def stripes (step count : Nat) : Nat := (2 ^ (step * count) - 1) / (2 ^ step - 1)

theorem stripes_succ {step count : Nat} (h : step ≠ 0) :
    stripes step (count + 1) = 2 ^ step * stripes step count + 1 := by
  have hpos : 0 < 2 ^ step - 1 := Nat.sub_pos_of_lt (Nat.one_lt_two_pow h)
  have hdvd : 2 ^ step - 1 ∣ 2 ^ (step * count) - 1 := by
    simpa [Nat.pow_mul] using Nat.sub_dvd_pow_sub_pow (2 ^ step) 1 count
  have hle : 2 ^ step ≤ 2 ^ step * 2 ^ (step * count) :=
    Nat.le_mul_of_pos_right (2 ^ step) (Nat.two_pow_pos (step * count))
  have hsplit : 2 ^ (step * (count + 1)) - 1
      = 2 ^ step * (2 ^ (step * count) - 1) + (2 ^ step - 1) := by
    rw [Nat.mul_succ, Nat.pow_add, Nat.mul_comm (2 ^ (step * count)), Nat.mul_sub_one]
    omega
  rw [stripes, hsplit, Nat.add_div_right _ hpos, Nat.mul_div_assoc _ hdvd, stripes]

theorem testBit_stripes {step count k : Nat} (h : step ≠ 0) (hk : k < count) :
    (stripes step count).testBit (step * k) = true := by
  induction count generalizing k with
  | zero => exact absurd hk (Nat.not_lt_zero k)
  | succ count ih =>
    rw [stripes_succ h, Nat.testBit_two_pow_mul_add _ (Nat.one_lt_two_pow h)]
    cases k with
    | zero => simp [Nat.pos_of_ne_zero h]
    | succ k =>
      rw [Nat.mul_succ, if_neg (Nat.not_lt.2 (Nat.le_add_left _ _)), Nat.add_sub_cancel]
      exact ih (Nat.lt_of_succ_lt_succ hk)

/-! ## Ranges -/

theorem CaseRange.holds_iff {r : CaseRange} {n : Nat} :
    r.holds n = true ↔ r.first ≤ n ∧ n ≤ r.last ∧ (n - r.first) % r.step = 0 := by
  simp [CaseRange.holds, and_assoc]

/-- The code points that the range holds. -/
def CaseRange.sources (r : CaseRange) : Nat :=
  stripes r.step ((r.last - r.first) / r.step + 1) <<< r.first

/-- The code points that the range leads to. -/
def CaseRange.goals (r : CaseRange) : Nat :=
  match r.shift with
  | .ofNat k => r.sources <<< k
  | .negSucc k => r.sources >>> (k + 1)

theorem CaseRange.testBit_sources {r : CaseRange} (hstep : r.step ≠ 0) {n : Nat}
    (h : r.holds n = true) : r.sources.testBit n = true := by
  obtain ⟨hfirst, hlast, hmod⟩ := CaseRange.holds_iff.1 h
  have hcount : (n - r.first) / r.step ≤ (r.last - r.first) / r.step :=
    Nat.div_le_div_right (Nat.sub_le_sub_right hlast r.first)
  have hplace : n - r.first = r.step * ((n - r.first) / r.step) :=
    (Nat.mul_div_cancel' (Nat.dvd_of_mod_eq_zero hmod)).symm
  rw [sources, Nat.testBit_shiftLeft, Bool.and_eq_true, decide_eq_true_eq, hplace]
  exact ⟨hfirst, testBit_stripes hstep (Nat.lt_succ_of_le hcount)⟩

theorem CaseRange.testBit_goals {r : CaseRange} (hstep : r.step ≠ 0) {m n : Nat}
    (h : r.holds m = true) (hn : (n : Int) = m + r.shift) : r.goals.testBit n = true := by
  have hsource := testBit_sources hstep h
  unfold goals
  split
  · next k hk =>
    have hsum : n = m + k := by
      rw [hk, Int.ofNat_eq_natCast] at hn
      omega
    rw [hsum, Nat.testBit_shiftLeft, Nat.add_sub_cancel, hsource, Bool.and_true,
      decide_eq_true_eq]
    exact Nat.le_add_left k m
  · next k hk =>
    have hm : k + 1 + n = m := by omega
    rw [Nat.testBit_shiftRight, hm, hsource]

/-- No code point of the range, and no other case of one, is this one. -/
def CaseRange.avoids (r : CaseRange) (n : Nat) : Bool :=
  !r.holds n && !r.holds ((n : Int) - r.shift).toNat

/-! ## Tables -/

theorem mapCode_eq_iff {table : List CaseRange} {m : Nat} (hm : 0 < m)
    (h : table.all (·.avoids m) = true) {n : Nat} : mapCode table n = m ↔ n = m := by
  have havoids : ∀ r ∈ table, r.holds m = false ∧ r.holds ((m : Int) - r.shift).toNat = false := by
    simpa [CaseRange.avoids, List.all_eq_true] using h
  unfold mapCode
  split
  · next r hr =>
    obtain ⟨hsource, hgoal⟩ := havoids r (List.mem_of_find?_eq_some hr)
    have hholds : r.holds n = true := by simpa using List.find?_some hr
    constructor
    · intro heq
      have hn : ((m : Int) - r.shift).toNat = n := by omega
      rw [hn, hholds] at hgoal
      exact nomatch hgoal
    · rintro rfl
      exact nomatch hholds.symm.trans hsource
  · rfl

/-- The ranges neither hold a member of the set nor lead to one. -/
def isClearOf (set : Nat) (table : List CaseRange) : Bool :=
  table.all (fun r => r.step != 0 && r.first != 0) &&
    union (table.map fun r => r.sources ||| r.goals) &&& set == 0

theorem avoids_of_isClearOf {set : Nat} {table : List CaseRange} (h : isClearOf set table = true)
    {r : CaseRange} (hr : r ∈ table) {n : Nat} (hn : set.testBit n = true) : r.avoids n = true := by
  rw [isClearOf, Bool.and_eq_true, List.all_eq_true, beq_iff_eq] at h
  have hregular := h.1 r hr
  rw [Bool.and_eq_true, bne_iff_ne, bne_iff_ne] at hregular
  obtain ⟨hstep, hfirst⟩ := hregular
  have hclear : ¬ (r.sources ||| r.goals).testBit n = true := fun hbit =>
    not_testBit_of_land_eq_zero h.2
      (testBit_union (List.mem_map_of_mem (f := fun r => r.sources ||| r.goals) hr) hbit) hn
  rw [Nat.testBit_or, Bool.or_eq_true, not_or] at hclear
  rw [CaseRange.avoids, Bool.and_eq_true, Bool.not_eq_true', Bool.not_eq_true', ← Bool.not_eq_true,
    ← Bool.not_eq_true]
  refine ⟨fun hheld => hclear.1 (CaseRange.testBit_sources hstep hheld), fun hheld =>
    hclear.2 (CaseRange.testBit_goals hstep hheld ?_)⟩
  have := (CaseRange.holds_iff.1 hheld).1
  omega

/-- The ranges lead to nothing that one of them holds. -/
def isFinal (table : List CaseRange) : Bool :=
  table.all (fun r => r.step != 0 && 0 ≤ (r.first : Int) + r.shift) &&
    union (table.map (·.sources)) &&& union (table.map (·.goals)) == 0

/-- Such a mapping leads to code points that it leaves alone. -/
theorem mapCode_mapCode {table : List CaseRange} (h : isFinal table = true) (n : Nat) :
    mapCode table (mapCode table n) = mapCode table n := by
  rw [isFinal, Bool.and_eq_true, List.all_eq_true, beq_iff_eq] at h
  have hregular : ∀ r ∈ table, r.step ≠ 0 ∧ 0 ≤ (r.first : Int) + r.shift := by
    simpa using h.1
  cases hr : table.find? (·.holds n) with
  | none => simp [mapCode, hr]
  | some r =>
    have hmem : r ∈ table := List.mem_of_find?_eq_some hr
    have hholds : r.holds n = true := by simpa using List.find?_some hr
    have hfirst := (CaseRange.holds_iff.1 hholds).1
    have hnonneg := (hregular r hmem).2
    have hgoal : r.goals.testBit ((n : Int) + r.shift).toNat = true :=
      CaseRange.testBit_goals (hregular r hmem).1 hholds (by omega)
    have hnone : table.find? (·.holds ((n : Int) + r.shift).toNat) = none := by
      rw [List.find?_eq_none]
      intro q hq hagain
      have hsource := CaseRange.testBit_sources (hregular q hq).1 hagain
      exact not_testBit_of_land_eq_zero h.2 (testBit_union (List.mem_map_of_mem hq) hsource)
        (testBit_union (List.mem_map_of_mem hmem) hgoal)
    simp [mapCode, hr, hnone]

/-- Below all other ranges a mapping goes by the first. -/
theorem mapCode_cons_of_lt {r : CaseRange} {table : List CaseRange} {n : Nat}
    (h : ∀ q ∈ table, n < q.first) :
    mapCode (r :: table) n = if r.holds n then ((n : Int) + r.shift).toNat else n := by
  have hnone : table.find? (·.holds n) = none := by
    rw [List.find?_eq_none]
    intro q hq hholds
    have := h q hq
    have := (CaseRange.holds_iff.1 hholds).1
    omega
  by_cases hr : r.holds n = true
  · simp [mapCode, hr]
  · simp [mapCode, hr, hnone]

/-! ## What is checked of the tables -/

/-- The code points of blanks. -/
def blankCodes : List Nat :=
  List.range' 9 5 ++ [0x20, 0x85, 0xA0, 0x1680] ++ List.range' 0x2000 11 ++
    [0x2028, 0x2029, 0x202F, 0x205F, 0x3000]

/-- The code points of blanks and of the hyphen. -/
def spacing : List Nat := 0x2D :: blankCodes

/-- All that is evaluated on the tables, in one computation: lower case is final, both mappings
leave the dotted capital and the spacing alone, no sequence has to do with the spacing, and in ASCII
only the first range of a table counts. -/
theorem tables_checked :
    isFinal lowerRanges = true ∧
      isClearOf (setOf (0x130 :: spacing)) (lowerRanges ++ upperRanges) = true ∧
      setOf (upperSequences.flatMap fun s => s.1 :: s.2) &&& setOf spacing = 0 ∧
      (∀ r ∈ lowerRanges.tail ++ upperRanges.tail, 128 ≤ r.first) ∧
      ∀ s ∈ upperSequences, 128 ≤ s.1 := by
  decide +kernel

theorem isFinal_lowerRanges : isFinal lowerRanges = true := tables_checked.1

theorem avoids_of_mem {n : Nat} (h : n ∈ 0x130 :: spacing) :
    lowerRanges.all (·.avoids n) = true ∧ upperRanges.all (·.avoids n) = true := by
  have havoids : ∀ r ∈ lowerRanges ++ upperRanges, r.avoids n = true := fun r hr =>
    avoids_of_isClearOf tables_checked.2.1 hr (testBit_setOf h)
  rw [List.all_eq_true, List.all_eq_true]
  exact ⟨fun r hr => havoids r (List.mem_append_left upperRanges hr),
    fun r hr => havoids r (List.mem_append_right lowerRanges hr)⟩

theorem not_mem_of_mem_spacing {n : Nat} (h : n ∈ spacing) {s : Nat × List Nat}
    (hs : s ∈ upperSequences) : n ∉ s.1 :: s.2 := fun hn =>
  not_testBit_of_land_eq_zero tables_checked.2.2.1
    (testBit_setOf (List.mem_flatMap.2 ⟨s, hs, hn⟩)) (testBit_setOf h)

theorem le_first_of_mem_tail {r : CaseRange} (h : r ∈ lowerRanges.tail ++ upperRanges.tail) :
    128 ≤ r.first :=
  tables_checked.2.2.2.1 r h

theorem le_of_mem_upperSequences {s : Nat × List Nat} (h : s ∈ upperSequences) : 128 ≤ s.1 :=
  tables_checked.2.2.2.2 s h

end Text
end CommandGrove
