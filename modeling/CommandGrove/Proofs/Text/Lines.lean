import CommandGrove.Text.Blank
import CommandGrove.Text.Pieces
import Mathlib.Data.List.Infix
import Mathlib.Data.List.TakeWhile

/-!
# What the lines of a text hold

Blanks at the ends of lines, blank lines and the way in which lines end are no part of what a text
says.  What is left of it without them is the list of the contents of its lines.

## What is here

* `IsBlankText`, `IsTight`, `exists_trim`, `trim_around` — a text is blanks, what trimming leaves,
  and blanks; this tells what trimming leaves.
* `lineContents` — the lines without the blanks at their ends, as far as something is left of them.
* `lineContents_trim`, `filter_map_trim_lines` — neither trimming nor the ends of lines matter.
* `filter_map_lines` — what is made of lines without a look at the blanks around them is made of
  their contents.
* `exists_firstContent` — where a text that begins with no blank holds its first content.
-/

set_option autoImplicit false
namespace CommandGrove
namespace Text

/-! ## Trimming -/

/-- There are only blanks in the text. -/
def IsBlankText (s : List Char) : Prop := ∀ c ∈ s, isBlank c = true

/-- The text begins with no blank. -/
def IsTightFront (s : List Char) : Prop := ∀ c, s.head? = some c → isBlank c = false

/-- The text neither begins nor ends with a blank. -/
structure IsTight (s : List Char) : Prop where
  front : IsTightFront s
  back : ∀ c, s.getLast? = some c → isBlank c = false

theorem isBlankText_nil : IsBlankText [] := nofun

theorem isBlankText_singleton {c : Char} (hc : isBlank c = true) : IsBlankText [c] :=
  fun _ hd => List.mem_singleton.1 hd ▸ hc

theorem IsBlankText.append {s t : List Char} (hs : IsBlankText s) (ht : IsBlankText t) :
    IsBlankText (s ++ t) := fun c hc => (List.mem_append.1 hc).elim (hs c) (ht c)

theorem IsBlankText.reverse {s : List Char} (h : IsBlankText s) : IsBlankText s.reverse :=
  fun c hc => h c (List.mem_reverse.1 hc)

theorem isTight_nil : IsTight [] := ⟨nofun, nofun⟩

theorem IsTight.reverse {s : List Char} (h : IsTight s) : IsTight s.reverse where
  front c hc := h.back c (List.head?_reverse ▸ hc)
  back c hc := h.front c (List.getLast?_reverse ▸ hc)

theorem isTightFront_trimStart (s : List Char) : IsTightFront (trimStart s) := by
  intro c hc
  have h := List.head?_dropWhile_not isBlank s
  rw [← trimStart, hc] at h
  exact h

theorem exists_trimStart (s : List Char) :
    ∃ before, IsBlankText before ∧ s = before ++ trimStart s :=
  ⟨s.takeWhile isBlank, fun _ hc => List.mem_takeWhile_imp hc, List.takeWhile_append_dropWhile.symm⟩

theorem trimEnd_eq (s : List Char) : trimEnd s = (trimStart s.reverse).reverse := rfl

theorem exists_trimEnd (s : List Char) :
    ∃ after, IsBlankText after ∧ s = trimEnd s ++ after := by
  obtain ⟨before, hbefore, hs⟩ := exists_trimStart s.reverse
  refine ⟨before.reverse, hbefore.reverse, ?_⟩
  rw [trimEnd_eq, ← List.reverse_append, ← hs, List.reverse_reverse]

/-- A text is what trimming leaves of it, with blanks around. -/
theorem exists_trim (s : List Char) :
    IsTight (trim s) ∧ ∃ before after, IsBlankText before ∧ IsBlankText after ∧
      s = before ++ trim s ++ after := by
  obtain ⟨before, hbefore, hs⟩ := exists_trimStart s
  obtain ⟨after, hafter, htrim⟩ := exists_trimEnd (trimStart s)
  refine ⟨⟨fun c hc => ?_, fun c hc => ?_⟩, before, after, hbefore, hafter, ?_⟩
  · refine isTightFront_trimStart s c ?_
    rw [trim] at hc
    rw [htrim, List.head?_append, hc, Option.some_or]
  · refine isTightFront_trimStart (trimStart s).reverse c ?_
    rw [← List.getLast?_reverse]
    exact hc
  · rw [List.append_assoc, trim, ← htrim, ← hs]

theorem isTight_trim (s : List Char) : IsTight (trim s) := (exists_trim s).1

theorem trimStart_append {before : List Char} (h : IsBlankText before) (s : List Char) :
    trimStart (before ++ s) = trimStart s := List.dropWhile_append_of_pos h

theorem trimStart_of_isTightFront {s : List Char} (h : IsTightFront s) : trimStart s = s := by
  cases s with
  | nil => rfl
  | cons c rest => exact List.dropWhile_cons_of_neg (by simp [h c rfl])

theorem trim_of_isTightFront {s : List Char} (h : IsTightFront s) : trim s = trimEnd s := by
  rw [trim, trimStart_of_isTightFront h]

theorem trim_ne_nil {s : List Char} (h : IsTightFront s) (hne : s ≠ []) : trim s ≠ [] := by
  obtain ⟨after, hafter, hs⟩ := exists_trimEnd s
  obtain ⟨c, rest, rfl⟩ := List.exists_cons_of_ne_nil hne
  intro hnil
  rw [← trim_of_isTightFront h, hnil, List.nil_append] at hs
  have hc : isBlank c = true := hafter c (hs ▸ List.mem_cons_self)
  rw [h c rfl] at hc
  exact Bool.false_ne_true hc

/-- **Trimming takes all blanks from the ends and nothing else.** -/
theorem trim_around {before s after : List Char} (hbefore : IsBlankText before)
    (hafter : IsBlankText after) (h : IsTight s) : trim (before ++ s ++ after) = s := by
  cases s with
  | nil =>
    have hall : trimStart (before ++ [] ++ after) = [] := by
      rw [List.append_nil, ← List.append_nil (before ++ after)]
      exact trimStart_append (hbefore.append hafter) []
    rw [trim, hall]
    rfl
  | cons c rest =>
    have hfront : IsTightFront (c :: rest ++ after) := fun d hd => h.front d hd
    rw [trim, List.append_assoc, trimStart_append hbefore, trimStart_of_isTightFront hfront,
      trimEnd_eq, List.reverse_append, trimStart_append hafter.reverse,
      trimStart_of_isTightFront h.reverse.front, List.reverse_reverse]

theorem trim_of_isTight {s : List Char} (h : IsTight s) : trim s = s := by
  simpa using trim_around isBlankText_nil isBlankText_nil h

theorem trim_append_of_isBlankText {before s after : List Char} (hbefore : IsBlankText before)
    (hafter : IsBlankText after) : trim (before ++ s ++ after) = trim s := by
  obtain ⟨htight, front, back, hfront, hback, hs⟩ := exists_trim s
  have hsame : before ++ s ++ after = (before ++ front) ++ trim s ++ (back ++ after) := by
    conv => lhs; rw [hs]
    simp only [List.append_assoc]
  rw [hsame]
  exact trim_around (hbefore.append hfront) (hback.append hafter) htight

theorem trim_reverse (s : List Char) : trim s.reverse = (trim s).reverse := by
  obtain ⟨htight, before, after, hbefore, hafter, hs⟩ := exists_trim s
  conv => lhs; rw [hs]
  rw [List.reverse_append, List.reverse_append, ← List.append_assoc]
  exact trim_around hafter.reverse hbefore.reverse htight.reverse

theorem trim_trim (s : List Char) : trim (trim s) = trim s := trim_of_isTight (isTight_trim s)

theorem trim_sublist (s : List Char) : (trim s).Sublist s := by
  obtain ⟨-, before, after, -, -, hs⟩ := exists_trim s
  conv => rhs; rw [hs]
  exact (List.sublist_append_right before _).trans (List.sublist_append_left _ after)

/-! ## The contents of lines -/

/-- What the lines of a text hold: each without the blanks at its ends, and without those that hold
nothing. -/
def lineContents (s : List Char) : List (List Char) :=
  ((splitOn '\n' s).map trim).filter fun line => !line.isEmpty

theorem lineContents_append_feed (s t : List Char) :
    lineContents (s ++ '\n' :: t) = lineContents s ++ lineContents t := by
  rw [lineContents, splitOn_append_cons, List.map_append, List.filter_append]
  rfl

theorem lineContents_of_notMem {s : List Char} (h : '\n' ∉ s) :
    lineContents s = if trim s = [] then [] else [trim s] := by
  rw [lineContents, splitOn_of_notMem h, List.map_singleton]
  by_cases htrim : trim s = []
  · simp [htrim]
  · simp [htrim]

/-- A text begins with a line, and a line feed follows it or nothing. -/
theorem exists_line (s : List Char) :
    ∃ line tail, s = line ++ tail ∧ '\n' ∉ line ∧ (tail = [] ∨ ∃ more, tail = '\n' :: more) := by
  by_cases h : '\n' ∈ s
  · obtain ⟨line, more, hs, hline⟩ := List.eq_append_cons_of_mem h
    exact ⟨line, '\n' :: more, hs, hline, Or.inr ⟨more, rfl⟩⟩
  · exact ⟨s, [], (List.append_nil s).symm, h, Or.inl rfl⟩

/-- A text is a line, or a line before a line feed and another text. -/
theorem line_induction {motive : List Char → Prop} (line : ∀ s, '\n' ∉ s → motive s)
    (feed : ∀ s rest, '\n' ∉ s → motive rest → motive (s ++ '\n' :: rest)) (s : List Char) :
    motive s := by
  by_cases h : '\n' ∈ s
  · obtain ⟨first, rest, hs, hfirst⟩ := List.eq_append_cons_of_mem h
    rw [hs]
    exact feed first rest hfirst (line_induction line feed rest)
  · exact line s h
termination_by s.length
decreasing_by
  rw [hs, List.length_append, List.length_cons]
  omega

theorem lineContents_reverse (s : List Char) :
    lineContents s.reverse = ((lineContents s).map List.reverse).reverse := by
  have hline (line : List Char) (h : '\n' ∉ line) :
      lineContents line.reverse = ((lineContents line).map List.reverse).reverse := by
    rw [lineContents_of_notMem h, lineContents_of_notMem fun hmem => h (List.mem_reverse.1 hmem),
      trim_reverse]
    by_cases htrim : trim line = []
    · simp [htrim]
    · simp [htrim]
  induction s using line_induction with
  | line s hs => exact hline s hs
  | feed s rest hs ih =>
    rw [List.reverse_append, List.reverse_cons, List.append_assoc, List.singleton_append,
      lineContents_append_feed, lineContents_append_feed, ih, hline s hs, List.map_append,
      List.reverse_append]

/-- A blank before a text is no part of what its lines hold. -/
theorem lineContents_cons_of_isBlank {c : Char} (hc : isBlank c = true) (s : List Char) :
    lineContents (c :: s) = lineContents s := by
  have hline (line : List Char) (h : '\n' ∉ line) (hne : c ≠ '\n') :
      lineContents (c :: line) = lineContents line := by
    have hcons : '\n' ∉ c :: line := by simp [h, Ne.symm hne]
    have htrim : trim (c :: line) = trim line := by
      simpa using
        trim_append_of_isBlankText (s := line) (isBlankText_singleton hc) isBlankText_nil
    rw [lineContents_of_notMem h, lineContents_of_notMem hcons, htrim]
  by_cases hne : c = '\n'
  · rw [hne]
    exact lineContents_append_feed [] s
  · obtain ⟨line, tail, rfl, hnewline, rfl | ⟨more, rfl⟩⟩ := exists_line s
    · rw [List.append_nil, hline line hnewline hne]
    · rw [← List.cons_append, lineContents_append_feed, lineContents_append_feed,
        hline line hnewline hne]

theorem lineContents_blanks_append {blanks : List Char} (h : IsBlankText blanks) (s : List Char) :
    lineContents (blanks ++ s) = lineContents s := by
  induction blanks with
  | nil => rfl
  | cons c rest ih =>
    rw [List.cons_append, lineContents_cons_of_isBlank (h c List.mem_cons_self),
      ih fun d hd => h d (List.mem_cons_of_mem c hd)]

theorem lineContents_append_blanks {blanks : List Char} (h : IsBlankText blanks) (s : List Char) :
    lineContents (s ++ blanks) = lineContents s := by
  rw [← List.reverse_reverse (s ++ blanks), lineContents_reverse, List.reverse_append,
    lineContents_blanks_append h.reverse, ← lineContents_reverse, List.reverse_reverse]

/-- **Trimming leaves what the lines hold.** -/
theorem lineContents_trim (s : List Char) : lineContents (trim s) = lineContents s := by
  obtain ⟨-, before, after, hbefore, hafter, hs⟩ := exists_trim s
  conv => rhs; rw [hs]
  rw [lineContents_append_blanks hafter, lineContents_blanks_append hbefore]

/-! ### The ends of lines -/

theorem splitFeeds_eq_splitOn {line : List Char} (h : '\n' ∉ line) (s : List Char) :
    (splitFeeds line.reverse s).1 ++ [(splitFeeds line.reverse s).2]
      = splitOn '\n' (line ++ s) := by
  induction s generalizing line with
  | nil => simp [splitFeeds, splitOn_of_notMem h]
  | cons c rest ih =>
    by_cases hc : c = '\n'
    · subst hc
      have hrest := ih (List.not_mem_nil : '\n' ∉ [])
      rw [List.reverse_nil, List.nil_append] at hrest
      rw [splitOn_append_cons, splitOn_of_notMem h, ← hrest]
      simp [splitFeeds]
    · have hconcat : '\n' ∉ line ++ [c] := by simp [h, Ne.symm hc]
      have hrest := ih hconcat
      rw [List.reverse_concat] at hrest
      rw [List.append_cons line c rest, ← hrest, splitFeeds]
      exact hc

theorem trim_dropReturn (line : List Char) : trim (dropReturn line) = trim line := by
  unfold dropReturn
  split
  · next rest h =>
    have hline : line = rest.reverse ++ ['\r'] := by
      rw [← List.reverse_reverse line, h, List.reverse_cons]
    have hreturn : IsBlankText ['\r'] := isBlankText_singleton rfl
    rw [hline]
    simpa using (trim_append_of_isBlankText (s := rest.reverse) isBlankText_nil hreturn).symm
  · rfl

/-- **However lines end**, they hold the same. -/
theorem filter_map_trim_lines (s : List Char) :
    ((lines s).map trim).filter (fun line => !line.isEmpty) = lineContents s := by
  have hsplit := splitFeeds_eq_splitOn (List.not_mem_nil : '\n' ∉ []) s
  rw [List.reverse_nil, List.nil_append] at hsplit
  have hmap : ((splitFeeds [] s).1.map dropReturn).map trim = (splitFeeds [] s).1.map trim := by
    rw [List.map_map]
    exact List.map_congr_left fun line _ => trim_dropReturn line
  rw [lineContents, ← hsplit, List.map_append, List.filter_append, lines]
  by_cases hlast : (splitFeeds [] s).2 = []
  · simp [hlast, hmap, trim, trimStart, trimEnd]
  · simp [hlast, hmap]

/-- What is made of each line and does not look at the blanks around it is made of the contents of
the lines, as far as it is something. -/
theorem filter_map_lines {clean : List Char → List Char} (hclean : ∀ l, clean (trim l) = clean l)
    (hnil : clean [] = []) (s : List Char) :
    ((lines s).map clean).filter (fun line => !line.isEmpty)
      = ((lineContents s).map clean).filter fun line => !line.isEmpty := by
  have hmap : (lines s).map clean = ((lines s).map trim).map clean := by
    rw [List.map_map]
    exact List.map_congr_left fun line _ => (hclean line).symm
  rw [hmap, ← filter_map_trim_lines]
  generalize (lines s).map trim = trimmed
  rw [List.filter_map, List.filter_map, List.filter_filter]
  refine congrArg (List.map clean) (List.filter_congr fun line _ => ?_)
  cases line with
  | nil => simp [hnil]
  | cons c rest => simp

theorem newline_notMem_of_mem_lineContents {s line : List Char} (h : line ∈ lineContents s) :
    '\n' ∉ line := by
  obtain ⟨piece, hpiece, rfl⟩ := List.mem_map.1 (List.mem_filter.1 h).1
  exact fun hmem => (mem_of_mem_splitOn hpiece ((trim_sublist piece).subset hmem)).2 rfl

/-! ### The first content -/

/-- The text is what can follow the content of a line: blanks, and nothing else before a line feed
or the end. -/
def EndsLine (s : List Char) : Prop :=
  ∃ blanks, IsBlankText blanks ∧ (s = blanks ∨ ∃ more, s = blanks ++ '\n' :: more)

theorem EndsLine.eq_nil_or_cons {s : List Char} (h : EndsLine s) :
    s = [] ∨ ∃ c rest, s = c :: rest ∧ isBlank c = true := by
  obtain ⟨blanks, hblanks, hs⟩ := h
  cases blanks with
  | nil =>
    rcases hs with rfl | ⟨more, rfl⟩
    · exact Or.inl rfl
    · exact Or.inr ⟨'\n', more, rfl, rfl⟩
  | cons c rest =>
    have hc : isBlank c = true := hblanks c List.mem_cons_self
    rcases hs with rfl | ⟨more, rfl⟩
    · exact Or.inr ⟨c, rest, rfl, hc⟩
    · exact Or.inr ⟨c, rest ++ '\n' :: more, rfl, hc⟩

theorem EndsLine.lineContents_append {rest : List Char} (h : EndsLine rest) (s : List Char) :
    lineContents (s ++ rest) = lineContents s ++ lineContents rest := by
  obtain ⟨blanks, hblanks, hrest⟩ := h
  have hnone : lineContents blanks = [] := by
    rw [← List.append_nil blanks, lineContents_blanks_append hblanks]
    rfl
  rcases hrest with rfl | ⟨more, rfl⟩
  · rw [lineContents_append_blanks hblanks, hnone, List.append_nil]
  · rw [lineContents_append_feed, hnone, List.nil_append, ← List.append_assoc,
      lineContents_append_feed, lineContents_append_blanks hblanks]

/-- **A text that begins with no blank begins with the content of its first line**, and what follows
there ends this line. -/
theorem exists_firstContent {s : List Char} (hfront : IsTightFront s) (hne : s ≠ []) :
    ∃ first rest, s = first ++ rest ∧ EndsLine rest ∧
      lineContents s = first :: lineContents rest := by
  obtain ⟨line, tail, rfl, hnewline, htail⟩ := exists_line s
  have hlinene : line ≠ [] := by
    rintro rfl
    rcases htail with rfl | ⟨more, rfl⟩
    · exact hne rfl
    · exact absurd (hfront '\n' rfl) (by decide)
  have hlinefront : IsTightFront line := fun c hc =>
    hfront c (by rw [List.head?_append, hc, Option.some_or])
  -- Behind the content of the line stand the blanks that trimming takes from its end.
  obtain ⟨after, hafter, hline⟩ := exists_trimEnd line
  rw [← trim_of_isTightFront hlinefront] at hline
  have hends : EndsLine (after ++ tail) := by
    refine ⟨after, hafter, htail.imp (fun h => ?_) fun ⟨more, h⟩ => ⟨more, ?_⟩⟩
    · rw [h, List.append_nil]
    · rw [h]
  have hcontents : lineContents (trim line) = [trim line] := by
    rw [lineContents_trim, lineContents_of_notMem hnewline, if_neg (trim_ne_nil hlinefront hlinene)]
  have hs : line ++ tail = trim line ++ (after ++ tail) := by rw [← List.append_assoc, ← hline]
  exact ⟨trim line, after ++ tail, hs, hends, by rw [hs, hends.lineContents_append, hcontents]; rfl⟩

end Text
end CommandGrove
