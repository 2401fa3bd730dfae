import CommandGrove.Text.Quoted

/-!
# Literals inside a source

A text is quoted in such a way that it can be read back whatever follows it, and that looking for
the next quote without a backslash is enough to find its end.

## What is here

* `Escapes` — the three ways in which a character stands in a literal.
* `unquote?_quote_append` — reading the literal for a text gives the text and leaves what follows;
  `quote_append_inj` — so both can be told from the characters.
* `le_toNat_of_mem_quote` — a literal has no control characters.
* `emptyLiterals` — a source with nothing between the quotes of its literals;
  `emptyLiterals_quote_append` — the literal for a text is found as a whole.
-/

set_option autoImplicit false
namespace CommandGrove
namespace Text

/-! ## Escapes -/

/-- How a character stands in a literal: as it is, as a letter behind a backslash, or by its
number. -/
inductive Escapes (c : Char) : List Char → Prop
  | plain (hquote : c ≠ '"') (hbackslash : c ≠ '\\') (hc : 32 ≤ c.toNat) : Escapes c [c]
  | letter {x : Char} (hu : x ≠ 'u') (hx : 32 ≤ x.toNat) (h : unescape? x = some c) :
      Escapes c ['\\', x]
  | number (hc : c.toNat < 32) :
      Escapes c ['\\', 'u', '0', '0', hexDigit (c.toNat / 16), hexDigit (c.toNat % 16)]

/-- The letters of the short escapes stand for their characters. -/
theorem escapes_of_mem_shortEscapes {e : Char × Char} (h : e ∈ shortEscapes) :
    Escapes e.1 ['\\', e.2] := by
  have hall : ∀ e ∈ shortEscapes, e.2 ≠ 'u' ∧ 32 ≤ e.2.toNat ∧ unescape? e.2 = some e.1 := by
    decide
  obtain ⟨hu, hx, hread⟩ := hall e h
  exact .letter hu hx hread

theorem escapes_escape (c : Char) : Escapes c (escape c) := by
  rw [escape]
  split
  · next h => rcases h with rfl | rfl <;> exact .letter (by decide) (by decide) (by decide)
  · next h =>
    rw [not_or] at h
    split
    · next e he =>
      have hc : e.1 = c := by simpa using List.find?_some he
      rw [← hc]
      exact escapes_of_mem_shortEscapes (List.mem_of_find?_eq_some he)
    · split
      · next hc => exact .number hc
      · next hc => exact .plain h.1 h.2 (Nat.le_of_not_lt hc)

/-- What is known of the digits of an escape by number. -/
theorem hexDigit_facts {n : Nat} (h : n < 16) :
    hexValue? (hexDigit n) = some n ∧ 32 ≤ (hexDigit n).toNat ∧ hexDigit n ≠ '"' ∧
      hexDigit n ≠ '\\' := by
  have hall : ∀ n < 16, hexValue? (hexDigit n) = some n ∧ 32 ≤ (hexDigit n).toNat ∧
      hexDigit n ≠ '"' ∧ hexDigit n ≠ '\\' := by
    decide
  exact hall n h

/-! ## Reading back -/

/-- An escape is read as its character. -/
theorem unquoteBody?_escape_append (c : Char) (rest : List Char) :
    unquoteBody? (escape c ++ rest)
      = (unquoteBody? rest).map fun (s, after) => (c :: s, after) := by
  have h := escapes_escape c
  generalize escape c = text at h
  cases h with
  | plain hquote hbackslash hc =>
    rw [List.singleton_append, unquoteBody?]
    · rw [if_neg]
      rintro (hlt | heq)
      · omega
      · exact hbackslash heq
    · exact fun heq => hquote heq
    · exact fun a b d e rest heq _ => hbackslash heq
    · exact fun letter rest heq _ => hbackslash heq
  | @letter x hu hx hread =>
    rw [List.cons_append, List.singleton_append, unquoteBody?]
    · rw [hread]
    · exact fun a b d e rest heq _ => hu heq
  | number hc =>
    have hhigh := (hexDigit_facts (n := c.toNat / 16) (by omega)).1
    have hlow := (hexDigit_facts (n := c.toNat % 16) (by omega)).1
    have hcode : codeUnit? '0' '0' (hexDigit (c.toNat / 16)) (hexDigit (c.toNat % 16))
        = some c.toNat := by
      have hzero : hexValue? '0' = some 0 := by decide
      have hsum : ((0 * 16 + 0) * 16 + c.toNat / 16) * 16 + c.toNat % 16 = c.toNat := by omega
      rw [codeUnit?, hzero, hhigh, hlow]
      simp only
      rw [hsum]
    have hwhole : isHighHalf c.toNat = false ∧ isLowHalf c.toNat = false := by
      simp only [isHighHalf, isLowHalf, Bool.and_eq_false_iff, decide_eq_false_iff_not]
      omega
    simp only [List.cons_append, List.nil_append]
    rw [unquoteBody?, hcode]
    simp only [hwhole, Bool.false_eq_true, if_false, Char.ofNat_toNat]

theorem unquoteBody?_flatMap_escape (s rest : List Char) :
    unquoteBody? (s.flatMap escape ++ '"' :: rest) = some (s, rest) := by
  induction s with
  | nil => rw [List.flatMap_nil, List.nil_append, unquoteBody?]
  | cons c s ih =>
    rw [List.flatMap_cons, List.append_assoc, unquoteBody?_escape_append, ih]
    rfl

theorem quote_append (s rest : List Char) :
    quote s ++ rest = '"' :: (s.flatMap escape ++ '"' :: rest) := by
  simp [quote]

/-- **A quoted text reads back**, and nothing of what follows it is read. -/
theorem unquote?_quote_append (s rest : List Char) :
    unquote? (quote s ++ rest) = some (s, rest) := by
  rw [quote_append, unquote?, unquoteBody?_flatMap_escape]

/-- A quoted text and what follows it can be told from the characters of both. -/
theorem quote_append_inj {s t rest after : List Char} (h : quote s ++ rest = quote t ++ after) :
    s = t ∧ rest = after := by
  have hread := unquote?_quote_append s rest
  rw [h, unquote?_quote_append, Option.some_inj, Prod.mk.injEq] at hread
  exact ⟨hread.1.symm, hread.2.symm⟩

/-! ## Control characters -/

theorem le_toNat_of_mem_escape {c x : Char} (hx : x ∈ escape c) : 32 ≤ x.toNat := by
  have h := escapes_escape c
  generalize escape c = text at h hx
  cases h with
  | plain _ _ hc => rwa [List.mem_singleton.1 hx]
  | letter _ hletter _ =>
    rcases List.mem_cons.1 hx with rfl | hx
    · decide
    · rwa [List.mem_singleton.1 hx]
  | number hc =>
    have hhigh := (hexDigit_facts (n := c.toNat / 16) (by omega)).2.1
    have hlow := (hexDigit_facts (n := c.toNat % 16) (by omega)).2.1
    simp only [List.mem_cons, List.not_mem_nil, or_false] at hx
    rcases hx with rfl | rfl | rfl | rfl | rfl | rfl
    · decide
    · decide
    · decide
    · decide
    · exact hhigh
    · exact hlow

/-- A literal has no control characters. -/
theorem le_toNat_of_mem_quote {s : List Char} {x : Char} (hx : x ∈ quote s) : 32 ≤ x.toNat := by
  rw [quote, List.mem_append, List.mem_cons, List.mem_flatMap, List.mem_singleton] at hx
  rcases hx with (rfl | ⟨c, -, hx⟩) | rfl
  · decide
  · exact le_toNat_of_mem_escape hx
  · decide

theorem newline_notMem_quote (s : List Char) : '\n' ∉ quote s := fun h =>
  absurd (le_toNat_of_mem_quote h) (by decide)

/-! ## Emptying literals -/

/-- Where a scan of a source stands: outside of all literals, inside one, or inside one behind a
backslash. -/
inductive ScanMode where
  | outside
  | inside
  | escaped
  deriving DecidableEq, Repr

/-- The source without what stands in its literals.  A literal goes from a quote to the next one
that has no backslash before it; a character behind a backslash is passed over. -/
def emptyLiterals : ScanMode → List Char → List Char
  | _, [] => []
  | .outside, c :: rest => c :: emptyLiterals (if c = '"' then .inside else .outside) rest
  | .inside, c :: rest =>
    if c = '"' then c :: emptyLiterals .outside rest
    else emptyLiterals (if c = '\\' then .escaped else .inside) rest
  | .escaped, _ :: rest => emptyLiterals .inside rest

theorem emptyLiterals_inside_cons {c : Char} (hquote : c ≠ '"') (hbackslash : c ≠ '\\')
    (rest : List Char) : emptyLiterals .inside (c :: rest) = emptyLiterals .inside rest := by
  rw [emptyLiterals, if_neg hquote, if_neg hbackslash]

theorem emptyLiterals_inside_escaped (x : Char) (rest : List Char) :
    emptyLiterals .inside ('\\' :: x :: rest) = emptyLiterals .inside rest := by
  rw [emptyLiterals, if_neg (by decide), if_pos rfl, emptyLiterals]

/-- No escape ends the literal it stands in. -/
theorem emptyLiterals_escape_append (c : Char) (rest : List Char) :
    emptyLiterals .inside (escape c ++ rest) = emptyLiterals .inside rest := by
  have h := escapes_escape c
  generalize escape c = text at h
  cases h with
  | plain hquote hbackslash _ =>
    rw [List.singleton_append, emptyLiterals_inside_cons hquote hbackslash]
  | letter _ _ _ =>
    rw [List.cons_append, List.singleton_append, emptyLiterals_inside_escaped]
  | number hc =>
    have hhigh := (hexDigit_facts (n := c.toNat / 16) (by omega)).2.2
    have hlow := (hexDigit_facts (n := c.toNat % 16) (by omega)).2.2
    simp only [List.cons_append, List.nil_append]
    rw [emptyLiterals_inside_escaped, emptyLiterals_inside_cons (by decide) (by decide),
      emptyLiterals_inside_cons (by decide) (by decide),
      emptyLiterals_inside_cons hhigh.1 hhigh.2, emptyLiterals_inside_cons hlow.1 hlow.2]

/-- **The literal for a text is found as a whole**: of it nothing but its quotes is left, and the
scan goes on behind it. -/
theorem emptyLiterals_quote_append (s rest : List Char) :
    emptyLiterals .outside (quote s ++ rest) = '"' :: '"' :: emptyLiterals .outside rest := by
  rw [quote_append, emptyLiterals, if_pos rfl]
  congr 1
  induction s with
  | nil => rw [List.flatMap_nil, List.nil_append, emptyLiterals, if_pos rfl]
  | cons c s ih => rw [List.flatMap_cons, List.append_assoc, emptyLiterals_escape_append, ih]

/-- What has no quotes is left as it is. -/
theorem emptyLiterals_append_of_notMem {s : List Char} (h : '"' ∉ s) (rest : List Char) :
    emptyLiterals .outside (s ++ rest) = s ++ emptyLiterals .outside rest := by
  induction s with
  | nil => rfl
  | cons c s ih =>
    rw [List.mem_cons, not_or] at h
    rw [List.cons_append, emptyLiterals, if_neg (Ne.symm h.1), ih h.2, List.cons_append]

/-- A quote behind a backslash does not end a literal. -/
example : emptyLiterals .outside "f(\"a\\\"b\\\\\", \"c\");".toList = "f(\"\", \"\");".toList := by
  decide

end Text
end CommandGrove
