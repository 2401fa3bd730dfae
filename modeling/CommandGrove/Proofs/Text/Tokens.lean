import CommandGrove.Proofs.Text.Literals
import CommandGrove.Script.Lexer

/-!
# Quoted texts as tokens

A quoted text is read by two readers that know nothing of each other: the one of literals, and the
lexer of scripts, which has more escapes and tells where in a source its tokens stand.  Both give
the text back and stop at the same quote, which is the first one that is not escaped.

## What is here

* `backslashes`, `QuotesEscaped` — a quote inside a literal is told by the backslashes before it;
  `quotesEscaped_flatMap_escape` — inside a quoted text there is none that ends it.
* `Scans` — what the lexer does with a stretch of a string, whatever comes before and behind;
  `scans_escape` — it takes an escape for its character.
* `textOfUnits_map_toNat` — the code points of a text write the text.
* `scanLexeme_quote_append` — a quoted text is one token.
* `quote_reads_back` — the main result.
-/

set_option autoImplicit false
namespace CommandGrove

open Script

namespace Text

/-! ## Quotes behind backslashes -/

/-- The number of backslashes at the end of a text. -/
def backslashes (s : List Char) : Nat := (s.reverse.takeWhile (· == '\\')).length

/-- Every quote in a text is escaped: an odd number of backslashes stands right before it, so the
last of them belongs to the quote. -/
def QuotesEscaped (s : List Char) : Prop :=
  ∀ front back, s = front ++ '"' :: back → backslashes front % 2 = 1

/-- Backslashes that belong together in pairs do not change what comes behind them. -/
theorem backslashes_append {s : List Char} (hs : backslashes s % 2 = 0) (t : List Char) :
    backslashes (s ++ t) % 2 = backslashes t % 2 := by
  rw [backslashes] at hs
  rw [backslashes, List.reverse_append, List.takeWhile_append]
  split
  · next hall =>
    -- `t` is made of backslashes alone, so those of `s` come before them
    rw [List.length_append, backslashes, hall]
    omega
  · rfl

theorem QuotesEscaped.append {s t : List Char} (hs : QuotesEscaped s)
    (heven : backslashes s % 2 = 0) (ht : QuotesEscaped t) : QuotesEscaped (s ++ t) := by
  intro front back h
  rcases List.append_eq_append_iff.1 h with ⟨mid, rfl, ht'⟩ | ⟨mid, rfl, hmid⟩
  · rw [backslashes_append heven]
    exact ht mid back ht'
  · cases mid with
    | nil =>
      rw [List.append_nil] at hs heven
      have hzero : backslashes [] % 2 = 1 := ht [] back hmid.symm
      exact absurd hzero (by decide)
    | cons c mid =>
      obtain ⟨rfl, -⟩ := List.cons.inj hmid
      exact hs front mid rfl

theorem quotesEscaped_of_notMem {s : List Char} (h : '"' ∉ s) : QuotesEscaped s := by
  rintro front back rfl
  exact absurd (List.mem_append_right front List.mem_cons_self) h

/-- An escape has no quote that could end the literal, and its backslashes belong to it. -/
theorem quotesEscaped_escape (c : Char) :
    QuotesEscaped (escape c) ∧ backslashes (escape c) % 2 = 0 := by
  have h := escapes_escape c
  generalize escape c = text at h
  cases h with
  | plain hquote hbackslash _ =>
    refine ⟨quotesEscaped_of_notMem (by simpa using hquote.symm), ?_⟩
    simp [backslashes, hbackslash]
  | @letter x hu hx _ =>
    refine ⟨?_, ?_⟩
    · intro front back hsplit
      rcases List.cons_eq_append_iff.1 hsplit with ⟨rfl, hnil⟩ | ⟨mid, rfl, hmid⟩
      · exact absurd (List.cons.inj hnil).1 (by decide)
      · rcases List.cons_eq_append_iff.1 hmid with ⟨rfl, -⟩ | ⟨mid, rfl, hmid⟩
        · decide
        · simp at hmid
    · by_cases hbackslash : x = '\\'
      · rw [hbackslash]
        decide
      · simp [backslashes, hbackslash]
  | number hc =>
    have hhigh := (hexDigit_facts (n := c.toNat / 16) (by omega)).2.2
    have hlow := (hexDigit_facts (n := c.toNat % 16) (by omega)).2.2
    refine ⟨quotesEscaped_of_notMem ?_, ?_⟩
    · simp [hhigh.1.symm, hlow.1.symm]
    · simp [backslashes, hlow.2]

/-- **Inside a quoted text every quote is escaped.** -/
theorem quotesEscaped_flatMap_escape (s : List Char) : QuotesEscaped (s.flatMap escape) := by
  induction s with
  | nil => exact quotesEscaped_of_notMem List.not_mem_nil
  | cons c s ih =>
    rw [List.flatMap_cons]
    exact (quotesEscaped_escape c).1.append (quotesEscaped_escape c).2 ih

/-! ## Strings of scripts -/

/-- In one state the lexer goes through a stretch of a string in double quotes without a fault, and
it comes out of it in another state, having met these code points. -/
def Scans (state : EscapeState) (text : List Char) (units : List Nat) (next : EscapeState) :
    Prop :=
  ∀ before bad mark used rest, ∃ place,
    scanStringFrom '"' state before bad mark used (text ++ rest) =
      scanStringFrom '"' next (units.reverse ++ before) bad place (used + text.length) rest

theorem Scans.nil (state : EscapeState) : Scans state [] [] state :=
  fun _ _ mark _ _ => ⟨mark, rfl⟩

theorem Scans.append {first mid last : EscapeState} {text more : List Char} {units others : List Nat}
    (htext : Scans first text units mid) (hmore : Scans mid more others last) :
    Scans first (text ++ more) (units ++ others) last := by
  intro before bad mark used rest
  obtain ⟨place, hplace⟩ := htext before bad mark used (more ++ rest)
  obtain ⟨place', hplace'⟩ := hmore (units.reverse ++ before) bad place (used + text.length) rest
  refine ⟨place', ?_⟩
  rw [List.append_assoc, hplace, hplace', List.reverse_append, List.append_assoc,
    List.length_append, Nat.add_assoc]

/-- One character that does not end the string. -/
theorem scans_char {state next : EscapeState} {c : Char} {units : List Nat} (hc : 32 ≤ c.toNat)
    (hquote : c ≠ '"' ∨ state.mayEnd = false)
    (hstep : escapeStep false state c = ⟨next, units, false⟩) : Scans state [c] units next := by
  have hend : (c == '"' && state.mayEnd) = false := by
    rwa [Bool.and_eq_false_iff, beq_eq_false_iff_ne]
  have hline : (c == '\n' || c == '\r') = false := by
    rw [Bool.or_eq_false_iff, beq_eq_false_iff_ne, beq_eq_false_iff_ne]
    constructor
    · rintro rfl
      exact absurd hc (by decide)
    · rintro rfl
      exact absurd hc (by decide)
  intro before bad mark used rest
  rw [List.singleton_append, scanStringFrom, if_neg (Bool.not_eq_true _ ▸ hend), hline]
  simp only [hstep]
  cases state <;> exact ⟨_, rfl⟩

/-- The letters of the short escapes stand for the same characters. -/
theorem begunStep_of_unescape? {c x : Char} (h : unescape? x = some c) :
    begunStep false x = ⟨.plain, [c.toNat], false⟩ := by
  rw [unescape?] at h
  split at h
  · next hx =>
    rw [← Option.some.inj h]
    rcases hx with rfl | rfl | rfl <;> rfl
  · obtain ⟨e, he, rfl⟩ := Option.map_eq_some_iff.1 h
    have hx : e.2 = x := by simpa using List.find?_some he
    have hall : ∀ e ∈ shortEscapes, controlEscape e.2 = some e.1.toNat := by decide
    rw [← hx, begunStep, hall e (List.mem_of_find?_eq_some he)]

theorem hexDigit_hexDigit {n : Nat} (h : n < 16) : Script.hexDigit (hexDigit n) = some n := by
  have hall : ∀ n < 16, Script.hexDigit (hexDigit n) = some n := by decide
  exact hall n h

/-- **The lexer takes an escape for its character.** -/
theorem scans_escape (c : Char) : Scans .plain (escape c) [c.toNat] .plain := by
  have hbegun : Scans .plain ['\\'] [] .begun := scans_char (by decide) (Or.inl (by decide)) rfl
  have h := escapes_escape c
  generalize escape c = text at h
  cases h with
  | plain hquote hbackslash hc =>
    refine scans_char hc (Or.inl hquote) ?_
    rw [escapeStep, plainStep, if_neg (by simpa using hbackslash)]
    rfl
  | letter _ hx hread =>
    exact hbegun.append (scans_char hx (Or.inr rfl) (begunStep_of_unescape? hread))
  | number hc =>
    have hdigit {n : Nat} (hn : n < 16) {next : EscapeState} {left value : Nat} {units : List Nat}
        (hnext : (if left ≤ 1 then ⟨.plain, [16 * value + n], false⟩
          else ⟨.digits (left - 1) (16 * value + n), [], false⟩ : EscapeStep) =
            ⟨next, units, false⟩) :
        Scans (.digits left value) [hexDigit n] units next := by
      have hfacts := (hexDigit_facts hn).2
      refine scans_char hfacts.1 (Or.inl hfacts.2.1) ?_
      rw [escapeStep]
      simp only [hexDigit_hexDigit hn]
      exact hnext
    have hunicode : Scans .begun ['u'] [] .unicode :=
      scans_char (by decide) (Or.inl (by decide)) rfl
    have hzero : Scans .unicode ['0'] [] (.digits 3 0) :=
      scans_char (by decide) (Or.inl (by decide)) rfl
    have hsecond : Scans (.digits 3 0) ['0'] [] (.digits 2 0) := hdigit (n := 0) (by decide) rfl
    have hhigh : Scans (.digits 2 0) [hexDigit (c.toNat / 16)] [] (.digits 1 (c.toNat / 16)) :=
      hdigit (by omega) (by simp)
    have hlow : Scans (.digits 1 (c.toNat / 16)) [hexDigit (c.toNat % 16)] [c.toNat] .plain :=
      hdigit (by omega) (by rw [if_pos (Nat.le_refl 1), Nat.div_add_mod])
    exact hbegun.append (hunicode.append (hzero.append (hsecond.append (hhigh.append hlow))))

theorem scans_flatMap_escape (s : List Char) :
    Scans .plain (s.flatMap escape) (s.map Char.toNat) .plain := by
  induction s with
  | nil => exact Scans.nil .plain
  | cons c s ih =>
    rw [List.flatMap_cons, List.map_cons, ← List.singleton_append]
    exact (scans_escape c).append ih

/-- **The lexer reads the inside of a quoted text** up to the quote that ends it. -/
theorem scanString_flatMap_escape (s rest : List Char) :
    scanString '"' (s.flatMap escape ++ '"' :: rest) =
      ⟨s.map Char.toNat, (s.flatMap escape).length + 1, rest, [], true, false⟩ := by
  obtain ⟨place, hplace⟩ := scans_flatMap_escape s [] [] 0 0 ('"' :: rest)
  rw [scanString, hplace, scanStringFrom, if_pos (by decide)]
  simp [EscapeState.flush, EscapeState.isCut]

/-! ## Code points -/

/-- The code point of a character is no half of a surrogate pair. -/
theorem isHighSurrogate_toNat (c : Char) :
    isHighSurrogate c.toNat = false ∧ isLowSurrogate c.toNat = false := by
  have hvalid : c.toNat < 0xD800 ∨ 0xDFFF < c.toNat ∧ c.toNat < 0x110000 := c.valid
  simp only [isHighSurrogate, isLowSurrogate, Bool.and_eq_false_iff, decide_eq_false_iff_not]
  omega

theorem joinSurrogates_map_toNat (s : List Char) :
    joinSurrogates (s.map Char.toNat) = s.map Char.toNat := by
  induction s with
  | nil => rfl
  | cons c s ih =>
    cases s with
    | nil => rfl
    | cons d s =>
      simp only [List.map_cons] at ih ⊢
      rw [joinSurrogates, (isHighSurrogate_toNat c).1, Bool.false_and, if_neg Bool.false_ne_true, ih]

/-- **The code points of a text write the text.** -/
theorem textOfUnits_map_toNat (s : List Char) :
    textOfUnits (s.map Char.toNat) = String.ofList s := by
  have hwhole (c : Char) : (isHighSurrogate c.toNat || isLowSurrogate c.toNat) = false := by
    rw [(isHighSurrogate_toNat c).1, (isHighSurrogate_toNat c).2, Bool.or_false]
  have hlone : ((s.map Char.toNat).any fun n => isHighSurrogate n || isLowSurrogate n) = false := by
    rw [List.any_map, List.any_eq_false]
    exact fun c _ => Bool.not_eq_true _ ▸ hwhole c
  rw [textOfUnits, joinSurrogates_map_toNat]
  simp only [hlone, Bool.false_and, Bool.or_false]
  congr 1
  rw [List.flatMap_map]
  induction s with
  | nil => rfl
  | cons c s ih =>
    have hlone' := hlone
    rw [List.map_cons, List.any_cons, Bool.or_eq_false_iff] at hlone'
    rw [List.flatMap_cons, hwhole, if_neg Bool.false_ne_true, Char.ofNat_toNat, ih hlone'.2]
    rfl

/-! ## Whole literals -/

/-- **A quoted text is one token of a script**: a string with the text for its value, from one quote
to the other. -/
theorem scanLexeme_quote_append (s : String) (rest : List Char) (start : Nat) (fresh : Bool) :
    scanLexeme start fresh (quote s.toList ++ rest) =
      (⟨.string s, start, start + (quote s.toList).length, fresh, quote s.toList ++ rest⟩, rest,
        []) := by
  have hbegins : (beginsIdentifier '"' || '"' == '\\') = false := by decide +kernel
  have hnumber (after : List Char) :
      ('"'.isDigit || '"' == '.' && after.head?.any Char.isDigit) = false := rfl
  have hlength : (quote s.toList).length = 1 + ((s.toList.flatMap escape).length + 1) := by
    rw [quote, List.length_append, List.length_cons, List.length_singleton]
    omega
  rw [quote_append, scanLexeme]
  simp only [hbegins, hnumber, Bool.false_eq_true, if_false, beq_self_eq_true, Bool.true_or, if_true,
    scanString_flatMap_escape, stringToken, textOfUnits_map_toNat, String.ofList_toList,
    List.reverse_nil, List.map_nil]
  rw [hlength, Nat.add_assoc]

/-- **A quoted text reads back, whatever follows it.**  The reader of literals gives the text and
leaves what follows; the lexer of scripts makes one token of it, with the text for its value.  There
is no control character in it, and no quote that is not escaped between the outer two. -/
theorem quote_reads_back (s : String) (rest : List Char) :
    unquote? (quote s.toList ++ rest) = some (s.toList, rest) ∧
    (∀ start fresh, scanLexeme start fresh (quote s.toList ++ rest) =
      (⟨.string s, start, start + (quote s.toList).length, fresh, quote s.toList ++ rest⟩, rest,
        [])) ∧
    (∀ c ∈ quote s.toList, 0x20 ≤ c.toNat) ∧
    ∃ inside, quote s.toList = '"' :: inside ++ ['"'] ∧ QuotesEscaped inside :=
  ⟨unquote?_quote_append s.toList rest, scanLexeme_quote_append s rest,
    fun _ => le_toNat_of_mem_quote, s.toList.flatMap escape, rfl,
    quotesEscaped_flatMap_escape s.toList⟩

end Text
end CommandGrove
