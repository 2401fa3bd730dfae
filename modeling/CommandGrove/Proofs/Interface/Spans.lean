import CommandGrove.Proofs.Interface.Endings
import CommandGrove.Script.Lexer.Gap

/-!
# Places of comments with and without delimiters

The place of a comment can be given as the place of the whole comment or of what stands between its
delimiters.  Which of them is meant is seen by the text at the place, and that text is mistaken for
a comment if it begins with delimiters of its own.

## What is here

* `CommentAt` — a comment of a source and what it holds.
* `CommentAt.slice?_inner`, `CommentAt.slice?_opening`, `CommentAt.slice?_closing` — the texts that
  the search for delimiters looks at.
* `commentAt_of_mem_skipGapFrom`, `fullRange_of_mem_skipGap` — the comments before a token are such
  comments, and their places are found to be places of whole comments.
* `fullRange_of_either_place` — the whole comment is always found from its own place, and from the
  place of its content just if the content begins with no delimiter; `fullRange_of_slashes_inside` —
  a comment that is not.
-/

set_option autoImplicit false
namespace CommandGrove

open Script

/-! ## Comments and what they hold -/

/-- What a comment ends with. -/
def Script.CommentStyle.closing : CommentStyle → List Char
  | .line => []
  | .block => ['*', '/']

/-- Behind the content a comment of this style ends: a line ends there, or there is no `*/` in the
content, so that the one behind it is the first. -/
def Script.CommentStyle.EndsBefore (content rest : List Char) : CommentStyle → Prop
  | .line => (∀ x ∈ content, isLineBreak x = false) ∧
      ∀ x, rest.head? = some x → isLineBreak x = true
  | .block => ¬['*', '/'] <:+: content

/-- Where the content of a comment begins. -/
def Script.Comment.innerStart (c : Comment) : Nat := c.start + c.style.opening.length

theorem innerStart_eq (c : Comment) : c.innerStart = c.start + 2 := by
  obtain ⟨start, stop, style⟩ := c
  cases style <;> rfl

/-- Where the content of a comment ends. -/
def Script.Comment.innerStop (c : Comment) : Nat := c.stop - c.style.closing.length

/-- The comment stands in the source and holds the content between its delimiters. -/
structure CommentAt (source : List Char) (c : Comment) (content : List Char) : Prop where
  stop_eq : c.stop = c.start + c.style.opening.length + content.length + c.style.closing.length
  exists_split : ∃ before rest, before.length = c.start ∧
    source = before ++ (c.style.opening ++ (content ++ (c.style.closing ++ rest))) ∧
    c.style.EndsBefore content rest

theorem slice?_append_append (before text rest : List Char) {start stop : Nat}
    (hstart : start = before.length) (hstop : stop = before.length + text.length) :
    slice? (before ++ (text ++ rest)) start stop = some text := by
  have hplace : start ≤ stop ∧ stop ≤ (before ++ (text ++ rest)).length := by
    rw [hstart, hstop, List.length_append, List.length_append]
    omega
  rw [slice?, if_pos hplace, hstart, hstop, List.drop_left, Nat.add_sub_cancel_left, List.take_left]

namespace CommentAt

variable {source content : List Char} {c : Comment} (h : CommentAt source c content)
include h

theorem slice?_inner : slice? source c.innerStart c.innerStop = some content := by
  obtain ⟨before, rest, hbefore, rfl, -⟩ := h.exists_split
  rw [← List.append_assoc]
  refine slice?_append_append _ content _ ?_ ?_
  · rw [Comment.innerStart, List.length_append, hbefore]
  · rw [Comment.innerStop, h.stop_eq, Nat.add_sub_cancel, List.length_append, hbefore]

theorem slice?_opening : slice? source c.start c.innerStart = some c.style.opening := by
  obtain ⟨before, rest, hbefore, rfl, -⟩ := h.exists_split
  exact slice?_append_append before _ _ hbefore.symm (by rw [Comment.innerStart, hbefore])

theorem slice?_closing : slice? source c.innerStop c.stop = some c.style.closing := by
  obtain ⟨before, rest, hbefore, rfl, -⟩ := h.exists_split
  rw [← List.append_assoc, ← List.append_assoc]
  refine slice?_append_append _ c.style.closing rest ?_ ?_
  · rw [Comment.innerStop, h.stop_eq, Nat.add_sub_cancel, List.length_append, List.length_append,
      hbefore]
  · rw [h.stop_eq, List.length_append, List.length_append, hbefore]

theorem isCommentOf : IsCommentOf source c := by
  obtain ⟨before, rest, hbefore, rfl, -⟩ := h.exists_split
  refine ⟨content ++ c.style.closing, ?_⟩
  have hassoc : c.style.opening ++ (content ++ (c.style.closing ++ rest))
      = (c.style.opening ++ (content ++ c.style.closing)) ++ rest := by
    simp only [List.append_assoc]
  rw [hassoc]
  refine slice?_append_append before _ rest hbefore.symm ?_
  rw [h.stop_eq, List.length_append, List.length_append, hbefore]
  omega

end CommentAt

/-! ## The comments that a reader of gaps meets -/

/-- A reader of gaps stands at this place of a source, with the input before it. -/
def Script.GapPlace.StandsIn (source : List Char) (offset : Nat) (input : List Char) :
    GapPlace → Prop
  | .open => ∃ before, before.length = offset ∧ source = before ++ input
  | .inLine start => ∃ before body, before.length = start ∧ start + 2 + body.length = offset ∧
      source = before ++ (['/', '/'] ++ (body ++ input)) ∧ ∀ x ∈ body, isLineBreak x = false
  | .inBlock start => ∃ before body, before.length = start ∧ start + 2 + body.length = offset ∧
      source = before ++ (['/', '*'] ++ (body ++ input)) ∧ ¬['*', '/'] <:+: body ∧
      (body.getLast? = some '*' → input.head? ≠ some '/')

theorem not_closing_infix_concat {body : List Char} (hbody : ¬['*', '/'] <:+: body) {x : Char}
    (hlast : body.getLast? = some '*' → x ≠ '/') : ¬['*', '/'] <:+: body ++ [x] := by
  rintro ⟨front, back, heq⟩
  cases back using List.reverseRecOn with
  | nil =>
    have hfront : (front ++ ['*']) ++ ['/'] = body ++ [x] := by simpa using heq
    obtain ⟨rfl, hx⟩ := List.append_inj' hfront rfl
    exact hlast List.getLast?_concat (List.singleton_injective hx).symm
  | append_singleton others last =>
    rw [← List.append_assoc] at heq
    exact hbody ⟨front, others, (List.append_inj' heq rfl).1⟩

theorem commentAt_line {source before body rest : List Char} {start offset : Nat}
    (hbefore : before.length = start) (hoffset : start + 2 + body.length = offset)
    (hsource : source = before ++ (['/', '/'] ++ (body ++ rest)))
    (hbody : ∀ x ∈ body, isLineBreak x = false)
    (hrest : ∀ x, rest.head? = some x → isLineBreak x = true) :
    CommentAt source ⟨start, offset, .line⟩ body :=
  ⟨hoffset.symm, before, rest, hbefore, hsource, hbody, hrest⟩

theorem commentAt_block {source before body rest : List Char} {start offset : Nat}
    (hbefore : before.length = start) (hoffset : start + 2 + body.length = offset)
    (hsource : source = before ++ (['/', '*'] ++ (body ++ '*' :: '/' :: rest)))
    (hbody : ¬['*', '/'] <:+: body) : CommentAt source ⟨start, offset + 2, .block⟩ body :=
  ⟨by rw [← hoffset]; rfl, before, rest, hbefore, hsource, hbody⟩

/-- **What a reader of gaps takes for a comment is one.** -/
theorem commentAt_of_mem_skipGapFrom {source : List Char} {place : GapPlace} {offset : Nat}
    {fresh : Bool} {comments : List Comment} {input : List Char}
    (hplace : place.StandsIn source offset input)
    (hcomments : ∀ c ∈ comments, ∃ content, CommentAt source c content) :
    ∀ c ∈ (skipGapFrom place offset fresh comments input).comments,
      ∃ content, CommentAt source c content := by
  -- The place says what was read of the comment that is being read, so each character either goes
  -- into its content or ends it.
  fun_induction skipGapFrom place offset fresh comments input with
  | case1 offset fresh comments rest ih =>
    obtain ⟨before, hbefore, rfl⟩ := hplace
    exact ih ⟨before, [], hbefore, rfl, rfl, nofun⟩ hcomments
  | case2 offset fresh comments rest ih =>
    obtain ⟨before, hbefore, rfl⟩ := hplace
    exact ih ⟨before, [], hbefore, rfl, rfl, by decide, nofun⟩ hcomments
  | case3 offset fresh comments c rest _ _ _ ih =>
    obtain ⟨before, hbefore, rfl⟩ := hplace
    exact ih ⟨before ++ [c], by simp [hbefore], by simp⟩ hcomments
  | case4 offset fresh comments c rest _ _ _ _ ih =>
    obtain ⟨before, hbefore, rfl⟩ := hplace
    exact ih ⟨before ++ [c], by simp [hbefore], by simp⟩ hcomments
  | case5 => exact hcomments
  | case6 => exact hcomments
  | case7 offset fresh comments start c rest hbreak ih =>
    obtain ⟨before, body, hbefore, hoffset, hsource, hbody⟩ := hplace
    have hcomment := commentAt_line hbefore hoffset hsource hbody fun x hx =>
      Option.some.inj hx ▸ hbreak
    refine ih ⟨before ++ (['/', '/'] ++ (body ++ [c])), ?_, by simp [hsource]⟩
      (List.forall_mem_cons.2 ⟨⟨body, hcomment⟩, hcomments⟩)
    simp only [List.length_append, List.length_cons, List.length_nil]
    omega
  | case8 offset fresh comments start c rest hbreak ih =>
    obtain ⟨before, body, hbefore, hoffset, hsource, hbody⟩ := hplace
    refine ih ⟨before, body ++ [c], hbefore, ?_, by simp [hsource], ?_⟩ hcomments
    · rw [← hoffset, List.length_append]
      rfl
    · intro x hx
      rcases List.mem_append.1 hx with hx | hx
      · exact hbody x hx
      · rw [List.mem_singleton.1 hx]
        exact Bool.eq_false_of_not_eq_true hbreak
  | case9 offset fresh comments start =>
    obtain ⟨before, body, hbefore, hoffset, hsource, hbody⟩ := hplace
    have hcomment := commentAt_line hbefore hoffset hsource hbody nofun
    exact List.forall_mem_cons.2 ⟨⟨body, hcomment⟩, hcomments⟩
  | case10 offset fresh comments start rest ih =>
    obtain ⟨before, body, hbefore, hoffset, hsource, hbody, -⟩ := hplace
    have hcomment := commentAt_block hbefore hoffset hsource hbody
    refine ih ⟨before ++ (['/', '*'] ++ (body ++ ['*', '/'])), ?_, by simp [hsource]⟩
      (List.forall_mem_cons.2 ⟨⟨body, hcomment⟩, hcomments⟩)
    simp only [List.length_append, List.length_cons, List.length_nil]
    omega
  | case11 offset fresh comments start c rest hnot ih =>
    -- No `*/` comes about by one more character: the reader would have ended the comment before it.
    obtain ⟨before, body, hbefore, hoffset, hsource, hbody, hlast⟩ := hplace
    have hconcat := not_closing_infix_concat hbody fun hstar hslash =>
      hlast hstar (congrArg some hslash)
    refine ih ⟨before, body ++ [c], hbefore, ?_, by simp [hsource], hconcat, ?_⟩ hcomments
    · rw [← hoffset, List.length_append]
      rfl
    · intro hstar hslash
      rw [List.getLast?_concat] at hstar
      obtain ⟨others, rfl⟩ := List.head?_eq_some_iff.1 hslash
      exact hnot others (Option.some.inj hstar) rfl
  | case12 => exact hcomments

/-- **The comments before a token are found** from the places at which a reader of gaps meets
them. -/
theorem fullRange_of_mem_skipGap {before input : List Char} {c : Comment}
    (hc : c ∈ (skipGap before.length input).comments) :
    fullRange (before ++ input) c.start c.stop = some c := by
  have hplace : GapPlace.open.StandsIn (before ++ input) before.length input := ⟨before, rfl, rfl⟩
  obtain ⟨content, hcomment⟩ :=
    commentAt_of_mem_skipGapFrom hplace (fun d hd => absurd hd List.not_mem_nil) c hc
  exact hcomment.isCommentOf.fullRange_eq

/-! ## Either place -/

namespace CommentAt

variable {source content : List Char} {c : Comment} (h : CommentAt source c content)
include h

/-- From the place of its content a comment is found if the content begins with no delimiter. -/
theorem fullRange_inner_of_plain (hplain : ∀ style : CommentStyle, ¬style.opening <+: content) :
    fullRange source c.innerStart c.innerStop = some c := by
  have hline : ¬['/', '/'].isPrefixOf content = true := fun hbegins =>
    hplain .line (List.isPrefixOf_iff_prefix.1 hbegins)
  have hblock : ¬['/', '*'].isPrefixOf content = true := fun hbegins =>
    hplain .block (List.isPrefixOf_iff_prefix.1 hbegins)
  have hstart : c.innerStart = c.start + 2 := innerStart_eq c
  have hbehind : ¬c.innerStart < 2 := by omega
  have hfront : c.innerStart - 2 = c.start := by omega
  have hopening := h.slice?_opening
  have hclosing := h.slice?_closing
  rw [fullRange, h.slice?_inner]
  dsimp only
  rw [if_neg hline, if_neg hblock, if_neg hbehind, hfront, hopening]
  obtain ⟨start, stop, style⟩ := c
  cases style with
  | line => rfl
  | block =>
    have hstop : (⟨start, stop, .block⟩ : Comment).innerStop + 2 = stop := by
      have hlong : stop = start + 2 + content.length + 2 := h.stop_eq
      change stop - 2 + 2 = stop
      omega
    rw [← hstop] at hclosing
    refine (if_pos (beq_iff_eq.2 hclosing)).trans ?_
    rw [hstop]

/-- Content that begins with a delimiter is taken for a comment itself. -/
theorem fullRange_inner_of_opening {style : CommentStyle} (hbegins : style.opening <+: content) :
    fullRange source c.innerStart c.innerStop = some ⟨c.innerStart, c.innerStop, style⟩ := by
  obtain ⟨rest, rfl⟩ := hbegins
  exact IsCommentOf.fullRange_eq (c := ⟨c.innerStart, c.innerStop, style⟩) ⟨rest, h.slice?_inner⟩

end CommentAt

/-- **The whole comment is found from either place, with one exception.**  From the place of a
comment with its delimiters it is always found.  From the place of the content between them it is
found just if the content does not begin with `//` or `/*`; otherwise the content is taken for a
comment of that style. -/
theorem fullRange_of_either_place {source content : List Char} {c : Comment}
    (h : CommentAt source c content) :
    fullRange source c.start c.stop = some c ∧
      (fullRange source c.innerStart c.innerStop = some c ↔
        ∀ style : CommentStyle, ¬style.opening <+: content) ∧
      ∀ style : CommentStyle, style.opening <+: content →
        fullRange source c.innerStart c.innerStop = some ⟨c.innerStart, c.innerStop, style⟩ := by
  refine ⟨h.isCommentOf.fullRange_eq, ⟨fun hfound style hbegins => ?_,
    h.fullRange_inner_of_plain⟩, fun style hbegins => h.fullRange_inner_of_opening hbegins⟩
  rw [h.fullRange_inner_of_opening hbegins, Option.some.injEq] at hfound
  have hstart := congrArg Comment.start hfound
  rw [innerStart_eq] at hstart
  exact absurd hstart (by simp)

/-- A block before a call. -/
def docSource : List Char := "/** doc */ f()".toList

/-- Documentation is found from either place. -/
theorem fullRange_of_either_place_of_docSource :
    CommentAt docSource ⟨0, 10, .block⟩ "* doc ".toList ∧
      fullRange docSource 0 10 = some ⟨0, 10, .block⟩ ∧
      fullRange docSource 2 8 = some ⟨0, 10, .block⟩ := by
  have hcomment : CommentAt docSource ⟨0, 10, .block⟩ "* doc ".toList := by
    refine ⟨by decide, [], " f()".toList, rfl, by decide, ?_⟩
    change ¬['*', '/'] <:+: "* doc ".toList
    decide
  have hplain : ∀ style : CommentStyle, ¬style.opening <+: "* doc ".toList := by
    intro style
    cases style <;> decide
  obtain ⟨hwhole, hinner, -⟩ := fullRange_of_either_place hcomment
  exact ⟨hcomment, hwhole, hinner.2 hplain⟩

/-- A line of slashes that is all of a source. -/
def slashSource : List Char := "//// quad".toList

/-- It is a comment, which the reader of gaps meets as well, and from the place of its content it is
not found. -/
theorem fullRange_of_slashes_inside :
    CommentAt slashSource ⟨0, 9, .line⟩ "// quad".toList ∧
      (skipGap 0 slashSource).comments = [⟨0, 9, .line⟩] ∧
      fullRange slashSource 0 9 = some ⟨0, 9, .line⟩ ∧
      fullRange slashSource 2 9 = some ⟨2, 9, .line⟩ := by
  have hline : ("// quad".toList.all fun x => isLineBreak x == false) = true := by decide
  have hcomment : CommentAt slashSource ⟨0, 9, .line⟩ "// quad".toList :=
    ⟨by decide, [], [], rfl, by decide, fun x hx => beq_iff_eq.1 (List.all_eq_true.1 hline x hx),
      nofun⟩
  exact ⟨hcomment, by decide, by decide, by decide⟩

end CommandGrove
