import CommandGrove.Interface.CommentIndex
import Mathlib.Data.List.Chain
import Mathlib.Data.List.Infix
import Mathlib.Data.List.Induction
import Mathlib.Data.List.TakeWhile

/-!
# The comments right before a place

What is read before a place is a comment, or a run of `//` comments, and it never reaches beyond
them: between the comments of a run there are only blanks, and the run is as long as it can be.

## What is here

* `BlankBetween`, `CommentIndex.onlyBlanks_iff` — only blanks stand from one place to another.
* `CommentIndex.InOrder` — comments that stand one behind the other.
* `IsRun`, `IsRun.isSuffix_of_maximal` — runs of `//` comments, and what makes one the longest.
* `CommentIndex.exists_run` — where the search for the front of a run ends.
* `CommentIndex.leading_reads_longest_run` — the main result.
-/

set_option autoImplicit false
namespace CommandGrove

open Script

/-! ## Blanks -/

/-- Every place from one offset up to another holds a blank. -/
def BlankBetween (source : List Char) (start stop : Nat) : Prop :=
  ∀ i, start ≤ i → i < stop → ∃ c, source[i]? = some c ∧ Text.isBlank c = true

namespace CommentIndex

variable {index : CommentIndex}

theorem onlyBlanks_iff {start stop : Nat} (hle : start ≤ stop)
    (hstart : start ≤ index.source.length) :
    index.onlyBlanks start stop = true ↔ BlankBetween index.source start stop := by
  unfold onlyBlanks slice?
  by_cases hstop : stop ≤ index.source.length
  · rw [if_pos ⟨hle, hstop⟩]
    simp only [List.all_eq_true]
    constructor
    · intro h i hi hlt
      have hlength : i < index.source.length := Nat.lt_of_lt_of_le hlt hstop
      refine ⟨index.source[i], List.getElem?_eq_getElem hlength, h _ ?_⟩
      refine List.mem_iff_getElem?.2 ⟨i - start, ?_⟩
      rw [List.getElem?_take_of_lt (by omega), List.getElem?_drop, Nat.add_sub_cancel' hi,
        List.getElem?_eq_getElem hlength]
    · intro h c hc
      obtain ⟨k, hk⟩ := List.mem_iff_getElem?.1 hc
      have hlt : k < stop - start := by
        by_contra hge
        rw [List.getElem?_take_eq_none (Nat.le_of_not_lt hge)] at hk
        exact nomatch hk
      rw [List.getElem?_take_of_lt hlt, List.getElem?_drop] at hk
      obtain ⟨d, hd, hblank⟩ := h (start + k) (Nat.le_add_right _ _) (by omega)
      rwa [← Option.some.inj (hd.symm.trans hk)]
  · rw [if_neg fun h => hstop h.2]
    refine iff_of_false Bool.false_ne_true fun h => ?_
    obtain ⟨c, hc, -⟩ := h index.source.length hstart (Nat.lt_of_not_le hstop)
    rw [List.getElem?_eq_none (Nat.le_refl _)] at hc
    exact nomatch hc

/-! ## Comments in order -/

/-- The comments stand in the source, one behind the other. -/
structure InOrder (index : CommentIndex) : Prop where
  within : ∀ c ∈ index.comments, c.start ≤ c.stop ∧ c.stop ≤ index.source.length
  apart : index.comments.Pairwise fun a b => a.stop ≤ b.start

/-- The last comment that ends before a place is where the search begins. -/
theorem dropWhile_reverse {place : Nat} {before after : List Comment} {nearest : Comment}
    (hplace : nearest.stop ≤ place) (hafter : ∀ c ∈ after, place < c.stop) :
    ((before ++ nearest :: after).reverse.dropWhile fun c => place < c.stop) =
      nearest :: before.reverse := by
  have hall : ∀ c ∈ after.reverse, decide (place < c.stop) = true :=
    fun c hc => decide_eq_true (hafter c (List.mem_reverse.1 hc))
  rw [List.reverse_append, List.reverse_cons, List.append_assoc,
    List.dropWhile_append_of_pos hall, List.singleton_append, List.dropWhile_cons_of_neg]
  simpa using hplace

/-- A comment that ends before a place has a last one like it. -/
theorem exists_nearest {comments : List Comment} {place : Nat}
    (h : ∃ c ∈ comments, c.stop ≤ place) :
    ∃ before nearest after, comments = before ++ nearest :: after ∧ nearest.stop ≤ place ∧
      ∀ c ∈ after, place < c.stop := by
  induction comments with
  | nil => exact absurd h (by simp)
  | cons c rest ih =>
    by_cases hrest : ∃ d ∈ rest, d.stop ≤ place
    · obtain ⟨before, nearest, after, rfl, hplace, hafter⟩ := ih hrest
      exact ⟨c :: before, nearest, after, rfl, hplace, hafter⟩
    · obtain ⟨d, hd, hplace⟩ := h
      rcases List.mem_cons.1 hd with rfl | hd
      · exact ⟨[], d, rest, rfl, hplace, fun e he =>
          Nat.lt_of_not_le fun hle => hrest ⟨e, he, hle⟩⟩
      · exact absurd ⟨d, hd, hplace⟩ hrest

end CommentIndex

/-! ## Runs -/

/-- `//` comments one behind the other, with only blanks between neighbours. -/
structure IsRun (source : List Char) (run : List Comment) : Prop where
  line : ∀ c ∈ run, c.style = .line
  close : run.IsChain fun a b => BlankBetween source a.stop b.start

section Run

variable {source : List Char}

theorem isRun_singleton {c : Comment} (hline : c.style = .line) : IsRun source [c] :=
  ⟨fun _ hc => List.mem_singleton.1 hc ▸ hline, List.isChain_singleton c⟩

/-- A run goes on with a `//` comment that only blanks separate from it. -/
theorem IsRun.concat {run : List Comment} (h : IsRun source run) {last c : Comment}
    (hlast : run.getLast? = some last) (hline : c.style = .line)
    (hblank : BlankBetween source last.stop c.start) : IsRun source (run ++ [c]) where
  line d hd := by
    rcases List.mem_append.1 hd with hd | hd
    · exact h.line d hd
    · exact List.mem_singleton.1 hd ▸ hline
  close := by
    refine List.isChain_append.2 ⟨h.close, List.isChain_singleton c, fun d hd e he => ?_⟩
    obtain rfl := Option.some.inj (hlast.symm.trans hd)
    obtain rfl := Option.some.inj he
    exact hblank

/-- **A run is the longest one with its end** if the comment before it is none of a run with it. -/
theorem IsRun.isSuffix_of_maximal {before run : List Comment} {first : Comment}
    (hfirst : run.head? = some first)
    (hstops : ∀ d, before.getLast? = some d → d.style = .line →
      ¬BlankBetween source d.stop first.start)
    {longer : List Comment} (hlonger : IsRun source longer) (hsuffix : longer <:+ before ++ run) :
    longer <:+ run := by
  rcases List.suffix_or_suffix_of_suffix hsuffix (List.suffix_append before run) with h | h
  · exact h
  · obtain ⟨more, rfl⟩ := h
    cases hmore : more.getLast? with
    | none =>
      rw [List.getLast?_eq_none_iff.1 hmore, List.nil_append]
    | some d =>
      have hlast : before.getLast? = some d := by
        obtain ⟨others, hothers⟩ := hsuffix
        rw [← List.append_assoc, List.append_left_inj] at hothers
        rw [← hothers, List.getLast?_append, hmore, Option.some_or]
      have hclose := (List.isChain_append.1 hlonger.close).2.2 d hmore first hfirst
      have hmem : d ∈ more ++ run := List.mem_append_left _ (List.mem_of_getLast? hmore)
      exact absurd hclose (hstops d hlast (hlonger.line d hmem))

/-- Every place in a run is in one of its comments or holds a blank. -/
theorem IsRun.covers {run : List Comment} (h : IsRun source run) {first last : Comment}
    (hfirst : run.head? = some first) (hlast : run.getLast? = some last) {i : Nat}
    (hi : first.start ≤ i) (hlt : i < last.stop) :
    (∃ c ∈ run, c.start ≤ i ∧ i < c.stop) ∨ ∃ c, source[i]? = some c ∧ Text.isBlank c = true := by
  induction run generalizing first with
  | nil => exact nomatch hfirst
  | cons c rest ih =>
    obtain rfl := Option.some.inj hfirst
    by_cases hin : i < c.stop
    · exact Or.inl ⟨c, List.mem_cons_self, hi, hin⟩
    · cases rest with
      | nil =>
        obtain rfl := Option.some.inj hlast
        exact absurd hlt hin
      | cons next others =>
        have hclose := List.isChain_cons_cons.1 h.close
        by_cases hgap : i < next.start
        · exact Or.inr (hclose.1 i (Nat.le_of_not_lt hin) hgap)
        · have hrest : IsRun source (next :: others) :=
            ⟨fun d hd => h.line d (List.mem_cons_of_mem _ hd), hclose.2⟩
          rw [List.getLast?_cons_cons] at hlast
          rcases ih hrest rfl hlast (Nat.le_of_not_lt hgap) with ⟨d, hd, hplace⟩ | hblank
          · exact Or.inl ⟨d, List.mem_cons_of_mem _ hd, hplace⟩
          · exact Or.inr hblank

end Run

namespace CommentIndex

variable {index : CommentIndex}

/-- **Going back from a `//` comment** as long as the comment before it is a `//` comment and only
blanks stand between the two ends at the front of the longest run. -/
theorem exists_run {before : List Comment} {nearest : Comment} (hline : nearest.style = .line)
    (hwithin : ∀ c ∈ before ++ [nearest], c.start ≤ c.stop ∧ c.stop ≤ index.source.length)
    (hapart : (before ++ [nearest]).Pairwise fun a b => a.stop ≤ b.start) :
    ∃ others run first, before ++ [nearest] = others ++ run ∧ IsRun index.source run ∧
      run.head? = some first ∧ run.getLast? = some nearest ∧
      index.runStart nearest.start before.reverse = first.start ∧
      ∀ d, others.getLast? = some d → d.style = .line →
        ¬BlankBetween index.source d.stop first.start := by
  induction before using List.reverseRecOn generalizing nearest with
  | nil => exact ⟨[], [nearest], nearest, rfl, isRun_singleton hline, rfl, rfl, rfl, nofun⟩
  | append_singleton before c ih =>
    obtain ⟨hbefore, -, hlast⟩ := List.pairwise_append.1 hapart
    have hle : c.stop ≤ nearest.start :=
      hlast c (List.mem_append_right _ List.mem_cons_self) nearest List.mem_cons_self
    have hc : c.start ≤ c.stop ∧ c.stop ≤ index.source.length :=
      hwithin c (List.mem_append_left _ (List.mem_append_right _ List.mem_cons_self))
    have hblank : index.onlyBlanks c.stop nearest.start = true ↔
        BlankBetween index.source c.stop nearest.start := onlyBlanks_iff hle hc.2
    rw [List.reverse_concat, runStart]
    by_cases hgoes : c.style = .line ∧ BlankBetween index.source c.stop nearest.start
    · obtain ⟨others, run, first, hsplit, hrun, hfirst, hend, hstart, hstops⟩ :=
        ih hgoes.1 (fun d hd => hwithin d (List.mem_append_left _ hd)) hbefore
      have htest : (c.style == .line && index.onlyBlanks c.stop nearest.start) = true := by
        rw [hgoes.1, hblank.2 hgoes.2]
        rfl
      refine ⟨others, run ++ [nearest], first, by rw [hsplit, List.append_assoc],
        hrun.concat hend hline hgoes.2, by rw [List.head?_append, hfirst, Option.some_or],
        List.getLast?_concat, by rw [if_pos htest, hstart], hstops⟩
    · have htest : ¬(c.style == .line && index.onlyBlanks c.stop nearest.start) = true := by
        rw [Bool.and_eq_true, beq_iff_eq, hblank]
        exact hgoes
      refine ⟨before ++ [c], [nearest], nearest, rfl, isRun_singleton hline, rfl, rfl,
        if_neg htest, fun d hd hd' hgap => hgoes ?_⟩
      rw [List.getLast?_concat] at hd
      obtain rfl := Option.some.inj hd
      exact ⟨hd', hgap⟩

/-- What is read of the comments before a place: `run` stands behind `before` and in front of
`after`, and reaches from `first` to `last`. -/
structure Leads (index : CommentIndex) (place : Nat) (before run after : List Comment)
    (first last : Comment) : Prop where
  split : index.comments = before ++ run ++ after
  begins : run.head? = some first
  ends : run.getLast? = some last
  /-- No comment that ends before the place comes later. -/
  nearest : last.stop ≤ place ∧ ∀ c ∈ after, place < c.stop
  gap : BlankBetween index.source last.stop place
  block : last.style = .block → run = [last]
  line : last.style = .line → IsRun index.source run ∧
    ∀ longer, IsRun index.source longer → longer <:+ before ++ run → longer <:+ run

/-- The search for comments before a place ends with those that lead to it. -/
theorem InOrder.exists_leads (h : index.InOrder) {place : Nat} {before after : List Comment}
    {nearest : Comment} (hcomments : index.comments = before ++ nearest :: after)
    (hplace : nearest.stop ≤ place) (hafter : ∀ c ∈ after, place < c.stop)
    (hblank : BlankBetween index.source nearest.stop place) :
    ∃ others run first, index.Leads place others run after first nearest ∧
      (match nearest.style with
        | .line => index.runStart nearest.start before.reverse
        | .block => nearest.start) = first.start := by
  rw [List.append_cons] at hcomments
  cases hstyle : nearest.style with
  | block =>
    exact ⟨before, [nearest], nearest, ⟨hcomments, rfl, rfl, ⟨hplace, hafter⟩, hblank,
      fun _ => rfl, fun hline => (nomatch hstyle.symm.trans hline)⟩, rfl⟩
  | line =>
    have hsublist : (before ++ [nearest]).Sublist index.comments :=
      hcomments ▸ List.sublist_append_left _ _
    obtain ⟨others, run, first, hsplit, hrun, hfirst, hlast, hstart, hstops⟩ :=
      exists_run hstyle (fun c hc => h.within c (hsublist.subset hc)) (h.apart.sublist hsublist)
    refine ⟨others, run, first, ⟨by rw [hcomments, hsplit], hfirst, hlast, ⟨hplace, hafter⟩, hblank,
      fun hblock => (nomatch hstyle.symm.trans hblock), fun _ => ⟨hrun, ?_⟩⟩, hstart⟩
    exact fun longer hlonger hsuffix => hlonger.isSuffix_of_maximal hfirst hstops hsuffix

/-- Comments in order that lead to a place stand in the source. -/
theorem Leads.place_le {place : Nat} {before run after : List Comment} {first last : Comment}
    (h : index.Leads place before run after first last) (horder : index.InOrder) :
    first.start ≤ last.stop ∧ last.stop ≤ index.source.length := by
  have hsublist : run.Sublist index.comments :=
    h.split ▸ (List.sublist_append_right before run).trans (List.sublist_append_left _ after)
  have hlast := horder.within last (hsublist.subset (List.mem_of_getLast? h.ends))
  refine ⟨?_, hlast.2⟩
  obtain ⟨rest, rfl⟩ := List.head?_eq_some_iff.1 h.begins
  have hfirst := horder.within first (hsublist.subset List.mem_cons_self)
  rcases List.mem_cons.1 (List.mem_of_getLast? h.ends) with rfl | hmem
  · exact hlast.1
  · have hapart := (List.pairwise_cons.1 (horder.apart.sublist hsublist)).1 last hmem
    omega

/-- What stands outside of comments in what is read is blank. -/
theorem Leads.blank_of_notMem {place : Nat} {before run after : List Comment} {first last : Comment}
    (h : index.Leads place before run after first last) {i : Nat} (hi : first.start ≤ i)
    (hlt : i < last.stop) (hnone : ∀ c ∈ index.comments, ¬(c.start ≤ i ∧ i < c.stop)) :
    ∃ c, index.source[i]? = some c ∧ Text.isBlank c = true := by
  have hmem : ∀ c ∈ run, c ∈ index.comments := fun c hc =>
    h.split ▸ List.mem_append_left _ (List.mem_append_right _ hc)
  cases hstyle : last.style with
  | block =>
    have hrun := h.block hstyle
    have hfirst : some last = some first := by rw [← h.begins, hrun, List.head?_cons]
    obtain rfl := Option.some.inj hfirst
    exact absurd ⟨hi, hlt⟩ (hnone last (hmem last (List.mem_of_getLast? h.ends)))
  | line =>
    rcases (h.line hstyle).1.covers h.begins h.ends hi hlt with ⟨c, hc, hplace⟩ | hblank
    · exact absurd hplace (hnone c (hmem c hc))
    · exact hblank

/-- Only blanks between the last comment and the place: what is read is told by the comments that
lead to it. -/
theorem InOrder.exists_leading (h : index.InOrder) {place : Nat} {before after : List Comment}
    {nearest : Comment} (hcomments : index.comments = before ++ nearest :: after)
    (hplace : nearest.stop ≤ place) (hafter : ∀ c ∈ after, place < c.stop)
    (hblank : BlankBetween index.source nearest.stop place) :
    ∃ others run first, index.Leads place others run after first nearest ∧
      index.leading place = slice? index.source first.start nearest.stop := by
  obtain ⟨others, run, first, hleads, hstart⟩ := h.exists_leads hcomments hplace hafter hblank
  have hblanks : index.onlyBlanks nearest.stop place = true :=
    (onlyBlanks_iff hplace (hleads.place_le h).2).2 hblank
  refine ⟨others, run, first, hleads, ?_⟩
  rw [leading, hcomments, dropWhile_reverse hplace hafter, ← hstart]
  exact if_pos hblanks

/-- Where something is read, only blanks stand between the last comment and the place. -/
theorem InOrder.exists_nearest_of_leading (h : index.InOrder) {place : Nat} {text : List Char}
    (htext : index.leading place = some text) :
    ∃ before nearest after, index.comments = before ++ nearest :: after ∧ nearest.stop ≤ place ∧
      (∀ c ∈ after, place < c.stop) ∧ BlankBetween index.source nearest.stop place := by
  by_cases hsome : ∃ c ∈ index.comments, c.stop ≤ place
  · obtain ⟨before, nearest, after, hcomments, hplace, hafter⟩ := exists_nearest hsome
    have hmem : nearest ∈ index.comments :=
      hcomments ▸ List.mem_append_right _ List.mem_cons_self
    refine ⟨before, nearest, after, hcomments, hplace, hafter, ?_⟩
    rw [leading, hcomments, dropWhile_reverse hplace hafter] at htext
    dsimp only at htext
    split at htext
    · next hblanks => exact (onlyBlanks_iff hplace (h.within nearest hmem).2).1 hblanks
    · exact nomatch htext
  · have hall : ∀ c ∈ index.comments.reverse, decide (place < c.stop) = true := fun c hc =>
      decide_eq_true (Nat.lt_of_not_le fun hle => hsome ⟨c, List.mem_reverse.1 hc, hle⟩)
    rw [leading, List.dropWhile_eq_nil_iff.2 hall] at htext
    exact nomatch htext

/-- **What is read before a place** is there if only blanks stand between the place and the last
comment that ends before it.  It is the part of the source from the start of a comment to the end of
that last one, with nothing but blanks outside of comments: the last comment alone if it is a block,
and otherwise the longest run of `//` comments that ends with it. -/
theorem leading_reads_longest_run (h : index.InOrder) (place : Nat) :
    ((index.leading place).isSome = true ↔ ∃ before last after,
        index.comments = before ++ last :: after ∧ last.stop ≤ place ∧
        (∀ c ∈ after, place < c.stop) ∧ BlankBetween index.source last.stop place) ∧
      ∀ text, index.leading place = some text →
        ∃ before run after first last, index.Leads place before run after first last ∧
          slice? index.source first.start last.stop = some text ∧
          ∀ i, first.start ≤ i → i < last.stop →
            (∀ c ∈ index.comments, ¬(c.start ≤ i ∧ i < c.stop)) →
            ∃ c, index.source[i]? = some c ∧ Text.isBlank c = true := by
  refine ⟨⟨fun hsome => ?_, ?_⟩, fun text htext => ?_⟩
  · obtain ⟨text, htext⟩ := Option.isSome_iff_exists.1 hsome
    exact h.exists_nearest_of_leading htext
  · rintro ⟨before, last, after, hcomments, hplace, hafter, hblank⟩
    obtain ⟨others, run, first, hleads, hleading⟩ := h.exists_leading hcomments hplace hafter hblank
    rw [hleading, slice?, if_pos (hleads.place_le h)]
    rfl
  · obtain ⟨before, last, after, hcomments, hplace, hafter, hblank⟩ :=
      h.exists_nearest_of_leading htext
    obtain ⟨others, run, first, hleads, hleading⟩ := h.exists_leading hcomments hplace hafter hblank
    exact ⟨others, run, after, first, last, hleads, hleading ▸ htext,
      fun i hi hlt hnone => hleads.blank_of_notMem hi hlt hnone⟩

/-- A block, two `//` comments in lines of their own, and a call. -/
def twoLines : CommentIndex :=
  ⟨"/* a */ // b\n// c\nf()".toList, [⟨0, 7, .block⟩, ⟨8, 12, .line⟩, ⟨13, 17, .line⟩]⟩

/-- Before the call both `//` comments are read, and the block before them is not. -/
theorem leading_reads_longest_run_of_twoLines :
    twoLines.InOrder ∧ twoLines.leading 18 = some "// b\n// c".toList ∧
      ∃ before run after first last, twoLines.Leads 18 before run after first last ∧
        slice? twoLines.source first.start last.stop = some "// b\n// c".toList := by
  have horder : twoLines.InOrder := ⟨by decide, by decide⟩
  have hleading : twoLines.leading 18 = some "// b\n// c".toList := by decide
  obtain ⟨before, run, after, first, last, hleads, hslice, -⟩ :=
    (leading_reads_longest_run horder 18).2 _ hleading
  exact ⟨horder, hleading, before, run, after, first, last, hleads, hslice⟩

end CommentIndex

end CommandGrove
