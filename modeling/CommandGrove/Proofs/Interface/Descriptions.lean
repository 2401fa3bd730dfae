import CommandGrove.Interface.Description
import CommandGrove.Proofs.Text.Cuts
import Mathlib.Data.List.Forall2

/-!
# What descriptions keep of comments

A description is one line that neither begins nor ends with a blank, whatever the comment looks
like.  It is made of what the lines of the comment hold: how the lines end, how far they are
indented and what blanks stand behind them makes no difference.

## What is here

* `IsOneLine` — a text in one line without blanks at its ends; `isOneLine_joinWith` — several of
  them with spaces between are one.
* `docBody`, `docTexts`, `flagBody`, `flagTexts` — the stages of a description;
  `functionDescription_eq` and `flagDescription_eq` say what it is made of.
* `isOneLine_functionDescription`, `isOneLine_flagDescription` — descriptions are one line.
* `functionDescription_congr`, `flagDescription_congr` — comments whose lines hold the same have the
  same descriptions.
* `withReturns`, `IsPaddedInside` — comments with other ends of lines, and with other blanks.
* `descriptions_of_any_layout` — the main result.
-/

set_option autoImplicit false
namespace CommandGrove

open Text

/-! ## One line -/

/-- The text is a line or a part of one, and blanks neither begin nor end it. -/
structure IsOneLine (s : List Char) : Prop where
  noFeed : '\n' ∉ s
  tight : IsTight s

theorem head?_joinWith_cons (sep : List Char) {part : List Char} (hpart : part ≠ [])
    (rest : List (List Char)) : (joinWith sep (part :: rest)).head? = part.head? := by
  cases rest with
  | nil => rfl
  | cons next others =>
    rw [joinWith, List.append_assoc, List.head?_append_of_ne_nil _ hpart]
    exact List.cons_ne_nil next others

theorem getLast?_joinWith_concat (sep : List Char) (front : List (List Char)) {part : List Char}
    (hpart : part ≠ []) : (joinWith sep (front ++ [part])).getLast? = part.getLast? := by
  induction front with
  | nil => rfl
  | cons first others ih =>
    have hne : others ++ [part] ≠ [] := by simp
    have hjoined : joinWith sep (others ++ [part]) ≠ [] := by
      intro hnil
      rw [hnil, List.getLast?_nil, eq_comm, List.getLast?_eq_none_iff] at ih
      exact hpart ih
    rw [List.cons_append, joinWith, List.getLast?_append_of_ne_nil _ hjoined, ih]
    exact hne

/-- **Lines with spaces between them are one line.** -/
theorem isOneLine_joinWith {parts : List (List Char)}
    (h : ∀ part ∈ parts, part ≠ [] ∧ IsOneLine part) : IsOneLine (joinWith [' '] parts) where
  noFeed hmem := by
    obtain ⟨part, hpart, hfeed⟩ := (mem_joinWith_iff (by decide)).1 hmem
    exact (h part hpart).2.noFeed hfeed
  tight := by
    cases parts using List.reverseRecOn with
    | nil => exact isTight_nil
    | append_singleton front last =>
      have hlast := h last (List.mem_append_right front List.mem_cons_self)
      refine ⟨fun c hc => ?_, fun c hc => ?_⟩
      · cases front with
        | nil => exact hlast.2.tight.front c hc
        | cons first others =>
          have hfirst := h first List.mem_cons_self
          rw [List.cons_append, head?_joinWith_cons _ hfirst.1] at hc
          exact hfirst.2.tight.front c hc
      · rw [getLast?_joinWith_concat _ front hlast.1] at hc
        exact hlast.2.tight.back c hc

/-- A part of a line without the blanks at its ends is one line. -/
theorem isOneLine_trim {s line : List Char} (hline : '\n' ∉ line) (h : s.Sublist line) :
    IsOneLine (trim s) :=
  ⟨fun hmem => hline (((trim_sublist s).trans h).subset hmem), isTight_trim s⟩

/-! ## Descriptions of functions -/

/-- A documentation block without its delimiters. -/
def docBody (comment : List Char) : List Char :=
  dropAllEndMarks ['*', '/'] (dropAllMarks ['/', '*', '*'] (trim comment))

/-- The lines that the description of a function is made of. -/
def docTexts (comment : List Char) : List (List Char) :=
  (((lineContents (docBody comment)).map cleanDocLine).filter fun line => !line.isEmpty).filter
    fun line => line.head? != some '@'

theorem cleanDocLine_trim (line : List Char) : cleanDocLine (trim line) = cleanDocLine line := by
  rw [cleanDocLine, cleanDocLine, trim_trim]

theorem functionDescription_eq (comment : List Char) :
    functionDescription comment =
      if (joinWith [' '] (docTexts comment)).isEmpty then none
      else some (joinWith [' '] (docTexts comment)) := by
  have hlines : joinLines (((lines (docBody comment)).map cleanDocLine).filter
      fun line => line.head? != some '@') = joinWith [' '] (docTexts comment) := by
    rw [joinLines, List.filter_comm, filter_map_lines cleanDocLine_trim rfl, docTexts]
  rw [← hlines]
  rfl

theorem isOneLine_of_mem_docTexts {comment line : List Char} (h : line ∈ docTexts comment) :
    line ≠ [] ∧ IsOneLine line ∧ line.head? ≠ some '@' := by
  obtain ⟨hkept, htag⟩ := List.mem_filter.1 h
  obtain ⟨hmem, hne⟩ := List.mem_filter.1 hkept
  obtain ⟨content, hcontent, rfl⟩ := List.mem_map.1 hmem
  refine ⟨by simpa using hne, ?_, by simpa using htag⟩
  exact isOneLine_trim (newline_notMem_of_mem_lineContents hcontent)
    ((List.dropWhile_sublist _).trans (trim_sublist content))

/-- **The description of a function** is one line, and no tag. -/
theorem isOneLine_functionDescription {comment text : List Char}
    (h : functionDescription comment = some text) :
    text ≠ [] ∧ IsOneLine text ∧ text.head? ≠ some '@' := by
  rw [functionDescription_eq] at h
  split at h
  · exact nomatch h
  · next hne =>
    obtain rfl := Option.some.inj h
    refine ⟨by simpa using hne, isOneLine_joinWith fun line hline =>
      ⟨(isOneLine_of_mem_docTexts hline).1, (isOneLine_of_mem_docTexts hline).2.1⟩, ?_⟩
    cases hlines : docTexts comment with
    | nil => simp [joinWith]
    | cons first rest =>
      have hmem : first ∈ docTexts comment := hlines ▸ List.mem_cons_self
      have hfirst := isOneLine_of_mem_docTexts hmem
      rw [head?_joinWith_cons _ hfirst.1]
      exact hfirst.2.2

/-- The delimiters are taken from what the lines hold. -/
theorem lineContents_docBody_congr {s t : List Char} (h : lineContents s = lineContents t) :
    lineContents (docBody s) = lineContents (docBody t) := by
  have hopening : CutsFront (dropAllMarks ['/', '*', '*']) :=
    cutsFront_dropAllMarks (by decide) (by decide)
  have hclosing : CutsFront (dropAllMarks ['/', '*']) :=
    cutsFront_dropAllMarks (by decide) (by decide)
  have hback (comment : List Char) :
      IsTightFront (dropAllMarks ['/', '*', '*'] (trim comment)).reverse :=
    hopening.isTightFront_reverse (isTight_trim comment).reverse.front
  have htrim : lineContents (trim s) = lineContents (trim t) := by
    rw [lineContents_trim, lineContents_trim, h]
  exact hclosing.lineContents_congr_end (hback s) (hback t)
    (hopening.lineContents_congr (isTight_trim s).front (isTight_trim t).front htrim)

/-- **Documentation whose lines hold the same describes the same.** -/
theorem functionDescription_congr {s t : List Char} (h : lineContents s = lineContents t) :
    functionDescription s = functionDescription t := by
  rw [functionDescription_eq, functionDescription_eq, docTexts, docTexts,
    lineContents_docBody_congr h]

/-! ## Descriptions of flags -/

/-- A comment without the delimiters of a block, if it is one. -/
def flagBody (comment : List Char) : List Char :=
  match stripPrefix? ['/', '*'] (trim comment) with
  | some block => (stripSuffix? ['*', '/'] block).getD block
  | none => trim comment

/-- The lines that the description of a flag is made of. -/
def flagTexts (comment : List Char) : List (List Char) :=
  ((lineContents (flagBody comment)).map cleanFlagLine).filter fun line => !line.isEmpty

theorem cleanFlagLine_trim (line : List Char) : cleanFlagLine (trim line) = cleanFlagLine line := by
  simp only [cleanFlagLine, trim_trim]

theorem flagDescription_eq (comment : List Char) :
    flagDescription comment = joinWith [' '] (flagTexts comment) := by
  have hlines : joinLines ((lines (flagBody comment)).map cleanFlagLine)
      = joinWith [' '] (flagTexts comment) := by
    rw [joinLines, filter_map_lines cleanFlagLine_trim rfl, flagTexts]
  rw [← hlines]
  rfl

theorem isOneLine_of_mem_flagTexts {comment line : List Char} (h : line ∈ flagTexts comment) :
    line ≠ [] ∧ IsOneLine line ∧ '*' ∉ line := by
  obtain ⟨hmem, hne⟩ := List.mem_filter.1 h
  obtain ⟨content, hcontent, rfl⟩ := List.mem_map.1 hmem
  have hcut : CutsFront fun s => (stripPrefix? ['/', '/'] s).getD s :=
    cutsFront_stripPrefix? (by decide)
  have hrest : ((stripPrefix? ['/', '/'] (trim content)).getD (trim content)).Sublist content :=
    (hcut.suffix (trim content)).sublist.trans (trim_sublist content)
  refine ⟨by simpa using hne, ?_, fun hstar => ?_⟩
  · exact isOneLine_trim (newline_notMem_of_mem_lineContents hcontent)
      (List.filter_sublist.trans hrest)
  · have hkept := (List.mem_filter.1 ((trim_sublist _).subset hstar)).2
    exact absurd hkept (by decide)

/-- **The description of a flag** is one line without asterisks. -/
theorem isOneLine_flagDescription (comment : List Char) :
    IsOneLine (flagDescription comment) ∧ '*' ∉ flagDescription comment := by
  rw [flagDescription_eq]
  refine ⟨isOneLine_joinWith fun line hline =>
    ⟨(isOneLine_of_mem_flagTexts hline).1, (isOneLine_of_mem_flagTexts hline).2.1⟩, fun hstar => ?_⟩
  obtain ⟨line, hline, hmem⟩ := (mem_joinWith_iff (by decide)).1 hstar
  exact (isOneLine_of_mem_flagTexts hline).2.2 hmem

/-- The text without the opening of a block at its front. -/
def withoutOpening (s : List Char) : List Char := (stripPrefix? ['/', '*'] s).getD s

/-- The closing of a block is its opening, read from the end. -/
theorem flagBody_eq (comment : List Char) :
    flagBody comment =
      if (stripPrefix? ['/', '*'] (trim comment)).isSome then
        (withoutOpening (withoutOpening (trim comment)).reverse).reverse
      else trim comment := by
  rw [flagBody, withoutOpening, withoutOpening]
  cases stripPrefix? ['/', '*'] (trim comment) with
  | none => rfl
  | some block => exact getD_stripSuffix? ['*', '/'] block

theorem lineContents_flagBody_congr {s t : List Char} (h : lineContents s = lineContents t) :
    lineContents (flagBody s) = lineContents (flagBody t) := by
  have hmark : ['/', '*'].any isBlank = false := by decide
  have hcut : CutsFront withoutOpening := cutsFront_stripPrefix? hmark
  have hback (comment : List Char) : IsTightFront (withoutOpening (trim comment)).reverse :=
    hcut.isTightFront_reverse (isTight_trim comment).reverse.front
  have htrim : lineContents (trim s) = lineContents (trim t) := by
    rw [lineContents_trim, lineContents_trim, h]
  have hblock := isSome_stripPrefix?_congr hmark (isTight_trim s).front (isTight_trim t).front htrim
  rw [flagBody_eq, flagBody_eq, ← hblock]
  split
  · exact hcut.lineContents_congr_end (hback s) (hback t)
      (hcut.lineContents_congr (isTight_trim s).front (isTight_trim t).front htrim)
  · exact htrim

/-- **Comments whose lines hold the same describe the same flag.** -/
theorem flagDescription_congr {s t : List Char} (h : lineContents s = lineContents t) :
    flagDescription s = flagDescription t := by
  rw [flagDescription_eq, flagDescription_eq, flagTexts, flagTexts, lineContents_flagBody_congr h]

/-! ## Other layouts -/

/-- The text with a carriage return before each line feed. -/
def withReturns (s : List Char) : List Char :=
  s.flatMap fun c => if c = '\n' then ['\r', '\n'] else [c]

theorem withReturns_of_notMem {line : List Char} (h : '\n' ∉ line) : withReturns line = line := by
  have hsame : ∀ c ∈ line, (if c = '\n' then ['\r', '\n'] else [c]) = [c] :=
    fun c hc => if_neg fun hfeed : c = '\n' => h (hfeed ▸ hc)
  rw [withReturns, List.flatMap_congr hsame]
  exact List.flatMap_singleton' line

theorem withReturns_append_feed (s t : List Char) :
    withReturns (s ++ '\n' :: t) = withReturns s ++ '\r' :: '\n' :: withReturns t := by
  rw [withReturns, List.flatMap_append, List.flatMap_cons]
  rfl

theorem lineContents_withReturns (s : List Char) : lineContents (withReturns s) = lineContents s := by
  induction s using line_induction with
  | line s hs => rw [withReturns_of_notMem hs]
  | feed s rest hs ih =>
    have hreturn : IsBlankText ['\r'] := isBlankText_singleton rfl
    rw [withReturns_append_feed, withReturns_of_notMem hs, List.append_cons,
      lineContents_append_feed, lineContents_append_feed, lineContents_append_blanks hreturn, ih]

/-- The line with spaces and tabs added at its ends. -/
def IsPadded (line padded : List Char) : Prop :=
  ∃ before after, (∀ c ∈ before ++ after, c = ' ' ∨ c = '\t') ∧ padded = before ++ line ++ after

/-- The text with spaces and tabs added at the ends of lines that are neither its first nor its
last one. -/
def IsPaddedInside (s padded : List Char) : Prop :=
  ∃ first middle middle' last,
    splitOn '\n' s = first :: middle ++ [last] ∧
    splitOn '\n' padded = first :: middle' ++ [last] ∧ List.Forall₂ IsPadded middle middle'

theorem IsPadded.trim_eq {line padded : List Char} (h : IsPadded line padded) :
    trim padded = trim line := by
  obtain ⟨before, after, hpad, rfl⟩ := h
  have hblank (c : Char) (hc : c ∈ before ++ after) : isBlank c = true := by
    rcases hpad c hc with rfl | rfl <;> rfl
  exact trim_append_of_isBlankText (fun c hc => hblank c (List.mem_append_left _ hc))
    fun c hc => hblank c (List.mem_append_right _ hc)

theorem map_trim_of_isPadded {ls padded : List (List Char)} (h : List.Forall₂ IsPadded ls padded) :
    padded.map trim = ls.map trim := by
  induction h with
  | nil => rfl
  | cons hline _ ih => rw [List.map_cons, List.map_cons, hline.trim_eq, ih]

theorem IsPaddedInside.lineContents_eq {s padded : List Char} (h : IsPaddedInside s padded) :
    lineContents padded = lineContents s := by
  obtain ⟨first, middle, middle', last, hs, hpadded, hmiddle⟩ := h
  simp only [lineContents, hs, hpadded, List.map_append, List.map_cons,
    map_trim_of_isPadded hmiddle]

/-- **Descriptions whatever the comment looks like.**  The description of a function, if there is
one, is a line that holds something, neither begins nor ends with a blank and does not begin with a
tag; the one of a flag is a line without asterisks that neither begins nor ends with a blank.
Neither changes if all line feeds come with carriage returns, or if spaces and tabs are added at the
ends of lines that are neither the first nor the last one. -/
theorem descriptions_of_any_layout (comment : List Char) :
    (∀ text, functionDescription comment = some text →
      text ≠ [] ∧ IsOneLine text ∧ text.head? ≠ some '@') ∧
    (IsOneLine (flagDescription comment) ∧ '*' ∉ flagDescription comment) ∧
    (functionDescription (withReturns comment) = functionDescription comment ∧
      flagDescription (withReturns comment) = flagDescription comment) ∧
    ∀ padded, IsPaddedInside comment padded →
      functionDescription padded = functionDescription comment ∧
        flagDescription padded = flagDescription comment := by
  refine ⟨fun text htext => isOneLine_functionDescription htext,
    isOneLine_flagDescription comment, ?_, fun padded hpadded => ?_⟩
  · exact ⟨functionDescription_congr (lineContents_withReturns comment),
      flagDescription_congr (lineContents_withReturns comment)⟩
  · exact ⟨functionDescription_congr hpadded.lineContents_eq,
      flagDescription_congr hpadded.lineContents_eq⟩

/-- Documentation with a blank line and a tag in it. -/
def seedComment : List Char := "/**\n * Seeds\n\n * the store.*\n@internal\n */".toList

/-- The same with its lines indented, the tag with a tab. -/
def indentedComment : List Char :=
  "/**\n   * Seeds \n  \n * the store.*  \n\t@internal\n */".toList

/-- Indented or not, the lines in between are described alike. -/
theorem descriptions_of_any_layout_of_seedComment :
    IsPaddedInside seedComment indentedComment ∧
      functionDescription seedComment = some "Seeds the store.*".toList ∧
      functionDescription indentedComment = functionDescription seedComment ∧
      flagDescription seedComment = "Seeds the store. @internal".toList ∧
      flagDescription indentedComment = flagDescription seedComment := by
  have hpadded : IsPaddedInside seedComment indentedComment := by
    refine ⟨"/**".toList, [" * Seeds".toList, [], " * the store.*".toList, "@internal".toList],
      ["   * Seeds ".toList, "  ".toList, " * the store.*  ".toList, "\t@internal".toList],
      " */".toList, by decide, by decide, ?_⟩
    exact .cons ⟨[' ', ' '], [' '], by simp, by decide⟩ <|
      .cons ⟨[' ', ' '], [], by simp, by decide⟩ <|
      .cons ⟨[], [' ', ' '], by simp, by decide⟩ <|
      .cons ⟨['\t'], [], by simp, by decide⟩ .nil
  obtain ⟨hfunction, hflag⟩ := (descriptions_of_any_layout seedComment).2.2.2 _ hpadded
  exact ⟨hpadded, by decide, hfunction, by decide, hflag⟩

end CommandGrove
