import CommandGrove.Proofs.Interface.Reexports
import Mathlib

/-!
# Two ways to end a module

A function that the module declares becomes its default export by `export default f` or by the name
`default` in a list.  Both ways find the same function, so they agree on its argument and its flags.
They differ in the description where documentation stands before the function and before the export:
the one takes what stands before the export, the other what stands before the function.

## What is here

* `slice?_append`, `leading_append` — what stands before a place does not depend on how a module
  ends whose comments stand in front of the end.
* `localsOf_congr` — neither do the functions that it declares.
* `ModuleInterface.default?_exportDefault`, `ModuleInterface.default?_exportNames` — what either way
  records.
* `Endings` — a module that is ended in both ways; `default_of_endings`, the main result.
* `descriptions_of_endings` — the ways differ.
-/

set_option autoImplicit false
namespace CommandGrove

open Script

/-! ## Comments -/

section Comments

variable {front tail : List Char}

/-- What ends in the front of a text does not depend on what follows it. -/
theorem slice?_append {start stop : Nat} (h : stop ≤ front.length) :
    slice? (front ++ tail) start stop = slice? front start stop := by
  unfold slice?
  by_cases hle : start ≤ stop
  · have hlong : stop ≤ (front ++ tail).length := by
      rw [List.length_append]
      omega
    rw [if_pos ⟨hle, hlong⟩, if_pos ⟨hle, h⟩, List.drop_append_of_le_length (by omega),
      List.take_append_of_le_length (by rw [List.length_drop]; omega)]
  · rw [if_neg fun h => hle h.1, if_neg fun h => hle h.1]

/-- What a comment begins with. -/
def Script.CommentStyle.opening : CommentStyle → List Char
  | .line => ['/', '/']
  | .block => ['/', '*']

/-- A comment of a text, delimiters included. -/
def IsCommentOf (text : List Char) (c : Comment) : Prop :=
  ∃ content, slice? text c.start c.stop = some (c.style.opening ++ content)

theorem IsCommentOf.fullRange_eq {c : Comment} (h : IsCommentOf front c) :
    fullRange front c.start c.stop = some c := by
  obtain ⟨content, hslice⟩ := h
  obtain ⟨start, stop, style⟩ := c
  rw [fullRange, hslice]
  cases style <;> simp [CommentStyle.opening]

/-- Comments that are in order stay where they are. -/
theorem CommentIndex.ofPlaces_eq {comments : List Comment}
    (h : ∀ c ∈ comments, IsCommentOf front c)
    (hsorted : comments.Pairwise fun a b => (a.start ≤ b.start : Bool)) :
    ofPlaces front comments = ⟨front, comments⟩ := by
  have hplaces : (comments.filterMap fun c => fullRange front c.start c.stop) = comments := by
    rw [List.filterMap_congr fun c hc => (h c hc).fullRange_eq]
    exact List.filterMap_some
  rw [ofPlaces, hplaces, List.mergeSort_of_pairwise hsorted]

end Comments

/-! ## What stands before a place -/

theorem slice?_eq_none (text : List Char) {start stop : Nat} (h : text.length < stop) :
    slice? text start stop = none :=
  if_neg fun hplace => Nat.not_le_of_lt h hplace.2

theorem place_le_of_slice? {text part : List Char} {start stop : Nat}
    (h : slice? text start stop = some part) : start ≤ stop ∧ stop ≤ text.length := by
  unfold slice? at h
  split at h
  · assumption
  · exact nomatch h

/-- A comment that is found stands in the text. -/
theorem place_le_of_fullRange {text : List Char} {start stop : Nat} {c : Comment}
    (h : fullRange text start stop = some c) : c.start ≤ c.stop ∧ c.stop ≤ text.length := by
  unfold fullRange at h
  split at h
  · exact nomatch h
  · next part hpart =>
    have hplace := place_le_of_slice? hpart
    split at h
    · exact Option.some.inj h ▸ hplace
    · split at h
      · exact Option.some.inj h ▸ hplace
      · split at h
        · exact nomatch h
        · split at h
          · exact Option.some.inj h ▸ ⟨by dsimp only; omega, hplace.2⟩
          · split at h
            · next hclosing =>
              have hbehind := place_le_of_slice? (beq_iff_eq.1 hclosing)
              exact Option.some.inj h ▸ ⟨by dsimp only; omega, hbehind.2⟩
            · exact nomatch h
          · exact nomatch h

section Fronts

variable {front more : List Char} {x : Char}

/-- What goes over the end of the front holds the character behind it. -/
theorem mem_of_slice?_append {start stop : Nat} {part : List Char} (hstart : start ≤ front.length)
    (hstop : front.length < stop) (h : slice? (front ++ x :: more) start stop = some part) :
    x ∈ part := by
  have hplace := place_le_of_slice? h
  rw [slice?, if_pos hplace, Option.some.injEq] at h
  rw [← h, List.drop_append_of_le_length hstart, List.take_append]
  have hlong : stop - start - (front.drop start).length = stop - front.length - 1 + 1 := by
    rw [List.length_drop]
    omega
  rw [hlong, List.take_succ_cons]
  exact List.mem_append_right _ List.mem_cons_self

/-- The front goes on with a character that is no blank and none of a delimiter. -/
structure GoesOn (x : Char) : Prop where
  isBlank : Text.isBlank x = false
  ne_star : x ≠ '*'
  ne_slash : x ≠ '/'

variable (hx : GoesOn x)
include hx

/-- A comment whose place is in the front is found there, whatever follows. -/
theorem fullRange_append {start stop : Nat} (h : stop ≤ front.length) :
    fullRange (front ++ x :: more) start stop = fullRange front start stop := by
  have hclosing : (slice? (front ++ x :: more) stop (stop + 2) == some ['*', '/']) =
      (slice? front stop (stop + 2) == some ['*', '/']) := by
    by_cases hlong : stop + 2 ≤ front.length
    · rw [slice?_append hlong]
    · rw [slice?_eq_none front (Nat.lt_of_not_le hlong)]
      refine beq_eq_false_iff_ne.2 fun heq => ?_
      have hmem := mem_of_slice?_append h (Nat.lt_of_not_le hlong) heq
      simp [hx.ne_star, hx.ne_slash] at hmem
  unfold fullRange
  rw [slice?_append h, hclosing]
  split
  · rfl
  · next part hpart =>
    have hplace := place_le_of_slice? hpart
    rw [slice?_append (Nat.le_trans hplace.1 h)]

namespace CommentIndex

theorem comments_ofPlaces_append {comments : List Comment}
    (h : ∀ c ∈ comments, c.stop ≤ front.length) :
    (ofPlaces (front ++ x :: more) comments).comments = (ofPlaces front comments).comments :=
  congrArg (List.mergeSort · _)
    (List.filterMap_congr fun c hc => fullRange_append hx (h c hc))

/-- Nothing but blanks stands up to a place just if that is so in the front, as the character behind
the front is no blank. -/
theorem onlyBlanks_append {comments : List Comment} {start : Nat} (h : start ≤ front.length)
    (stop : Nat) :
    (⟨front ++ x :: more, comments⟩ : CommentIndex).onlyBlanks start stop =
      (⟨front, comments⟩ : CommentIndex).onlyBlanks start stop := by
  rw [onlyBlanks, onlyBlanks]
  by_cases hlong : stop ≤ front.length
  · rw [slice?_append hlong]
  · rw [slice?_eq_none front (Nat.lt_of_not_le hlong)]
    split
    · next gap hgap =>
      have hmem := mem_of_slice?_append h (Nat.lt_of_not_le hlong) hgap
      exact List.all_eq_false.2 ⟨x, hmem, by simp [hx.isBlank]⟩
    · rfl

theorem runStart_append {comments before : List Comment}
    (h : ∀ c ∈ before, c.stop ≤ front.length) (start : Nat) :
    (⟨front ++ x :: more, comments⟩ : CommentIndex).runStart start before =
      (⟨front, comments⟩ : CommentIndex).runStart start before := by
  induction before generalizing start with
  | nil => rfl
  | cons c rest ih =>
    rw [runStart, runStart, onlyBlanks_append hx (h c List.mem_cons_self),
      ih fun d hd => h d (List.mem_cons_of_mem _ hd)]

/-- **What stands before a place does not depend on what follows the comments**, as long as it
begins with a character that is no blank. -/
theorem leading_append {comments : List Comment} (h : ∀ c ∈ comments, c.stop ≤ front.length) :
    (ofPlaces (front ++ x :: more) comments).leading = (ofPlaces front comments).leading := by
  have hsame : ofPlaces (front ++ x :: more) comments =
      ⟨front ++ x :: more, (ofPlaces front comments).comments⟩ := by
    rw [← comments_ofPlaces_append hx h]
    rfl
  have hfound : ∀ c ∈ (ofPlaces front comments).comments, c.stop ≤ front.length := by
    intro c hc
    obtain ⟨d, -, hd⟩ := List.mem_filterMap.1 ((List.mergeSort_perm _ _).mem_iff.1 hc)
    exact (place_le_of_fullRange hd).2
  funext place
  rw [hsame, leading, leading]
  simp only
  cases hbefore : (ofPlaces front comments).comments.reverse.dropWhile
      fun c => place < c.stop with
  | nil => rfl
  | cons nearest before =>
    have hstops : ∀ c ∈ nearest :: before, c.stop ≤ front.length := fun c hc =>
      hfound c (List.mem_reverse.1 ((List.dropWhile_sublist _).subset (hbefore ▸ hc)))
    have hnearest := hstops nearest List.mem_cons_self
    have hothers := fun c hc => hstops c (List.mem_cons_of_mem nearest hc)
    simp only [onlyBlanks_append hx hnearest, runStart_append hx hothers, slice?_append hnearest]
    rfl

end CommentIndex

end Fronts

/-! ## Functions -/

section Functions

variable {a b : CommentIndex} (h : a.leading = b.leading)
include h

theorem descriptionBefore_congr : descriptionBefore a = descriptionBefore b := by
  funext place
  rw [descriptionBefore, CommentIndex.leadingDoc, h]
  rfl

theorem describe_congr : describe a = describe b := by
  have hflag : describeFlag a = describeFlag b := by
    funext owner member
    cases member with
    | property start name type => rw [describeFlag, describeFlag, h]
    | other => rfl
  have hflags : describeFlags a = describeFlags b := by
    funext owner p
    rw [describeFlags, describeFlags, hflag]
  funext owner place f
  rw [describe, describe, descriptionBefore_congr h, hflags]

/-- The functions of a module are described alike if the same stands before every place. -/
theorem localsOf_congr (body : List Stmt) : localsOf a body = localsOf b body := by
  rw [localsOf_eq, localsOf_eq, describe_congr h]

end Functions

/-! ## What either way records -/

/-- The statement that makes a name of the module its default export. -/
def Script.defaultExportOf (place : Nat) (name : String) : Stmt :=
  .exportDefault place (.expression (.identifier name))

/-- The statement that exports a name of the module under the name `default`. -/
def Script.defaultListOf (place : Nat) (name : String) : Stmt :=
  .exportNames place false [⟨name, defaultName⟩] none

namespace ModuleInterface

variable {source : List Char} {body : List Stmt} {comments : List Comment}

/-- A last statement that exports adds to what the others export. -/
theorem ofProgram_concat {last : Stmt} (hexport : last.isExport = true)
    (hdeclared : ∀ index, declaredFunctions index last = []) :
    ofProgram source ⟨body ++ [last], comments⟩ =
      addExport (.ofPlaces source comments) (localsOf (.ofPlaces source comments) body)
        (ofProgram source ⟨body, comments⟩) last := by
  have hlocals (index : CommentIndex) : localsOf index (body ++ [last]) = localsOf index body := by
    simp [localsOf, hdeclared]
  have hexports : stmtExports (body ++ [last]) = stmtExports body ++ [last] := by
    simp [stmtExports_eq_flatMap, exports_of_isExport hexport]
  rw [ofProgram, ofProgram, hexports, List.foldl_append]
  simp only [hlocals]
  rfl

theorem default?_record (m : ModuleInterface) (s : Signature) :
    (m.record defaultName s).default? = some (s.ownedBy defaultName) := by
  rw [default?, find?_record, if_pos ⟨rfl, by decide⟩]

/-- The default export takes the description before it, or else that of the function. -/
theorem default?_exportDefault (place : Nat) (name : String) :
    (ofProgram source ⟨body ++ [defaultExportOf place name], comments⟩).default? =
      let index := CommentIndex.ofPlaces source comments
      let known := ((localsOf index body).find? name).getD untypedDefault
      some { known.ownedBy defaultName with
        description := (descriptionBefore index place).or known.description } := by
  rw [ofProgram_concat rfl fun _ => rfl]
  exact default?_record _ _

/-- An export in a list takes the description of the function, or else the one before it; one that
is not found has none. -/
theorem default?_exportNames (place : Nat) (name : String) :
    (ofProgram source ⟨body ++ [defaultListOf place name], comments⟩).default? =
      let index := CommentIndex.ofPlaces source comments
      match (localsOf index body).find? name with
      | some known => some { known.ownedBy defaultName with
          description := known.description.or (descriptionBefore index place) }
      | none => some (untypedDefault.ownedBy defaultName) := by
  rw [ofProgram_concat rfl fun _ => rfl, defaultListOf, addExport, List.foldl_cons, List.foldl_nil,
    addName]
  simp only
  cases (localsOf (.ofPlaces source comments) body).find? name with
  | some known => exact default?_record _ _
  | none => exact default?_record _ _

end ModuleInterface

/-! ## A module that is ended in both ways -/

/-- Taking the first of two descriptions that there is makes no difference if one of them is missing
or they are equal. -/
theorem or_eq_or_swap_iff {α : Type} {x y : Option α} :
    y.or x = x.or y ↔ x = none ∨ y = none ∨ x = y := by
  cases x <;> cases y <;> simp [eq_comm]

/-- Signatures of one function are the same if its descriptions are. -/
theorem Signature.described_eq_iff (s : Signature) {x y : Option String} :
    ({ s with description := x } : Signature) = { s with description := y } ↔ x = y :=
  ⟨fun h => congrArg Signature.description h, fun h => h ▸ rfl⟩

/-- The text `front` of a module is read as the statements `body`, whether it goes on with an export
that makes `f` the default export or with one that exports it under the name `default`.  All
comments stand in front of the export. -/
structure Endings (path front tail tail' : String) (body : List Stmt) (comments : List Comment)
    (f : String) : Prop where
  readExport : readProgram (.ofPath false path.toList) (front ++ ("export" ++ tail)).toList =
    .ok ⟨body ++ [defaultExportOf front.toList.length f], comments⟩
  readList : readProgram (.ofPath false path.toList) (front ++ ("export" ++ tail')).toList =
    .ok ⟨body ++ [defaultListOf front.toList.length f], comments⟩
  inFront : ∀ c ∈ comments, c.stop ≤ front.toList.length

/-- What is found at the front of a module is the same with any export behind it. -/
theorem front_congr {front : String} {comments : List Comment} (body : List Stmt) (tail : String)
    (h : ∀ c ∈ comments, c.stop ≤ front.toList.length) :
    localsOf (.ofPlaces (front ++ ("export" ++ tail)).toList comments) body =
        localsOf (.ofPlaces front.toList comments) body ∧
      descriptionBefore (.ofPlaces (front ++ ("export" ++ tail)).toList comments) =
        descriptionBefore (.ofPlaces front.toList comments) := by
  have hsource : (front ++ ("export" ++ tail)).toList =
      front.toList ++ 'e' :: ("xport".toList ++ tail.toList) := by
    rw [String.toList_append, String.toList_append]
    rfl
  have hword : GoesOn 'e' := ⟨by decide, by decide, by decide⟩
  rw [hsource]
  exact ⟨localsOf_congr (CommentIndex.leading_append hword h) body,
    descriptionBefore_congr (CommentIndex.leading_append hword h)⟩

theorem ofSource_of_readProgram {path source : String} {program : Program}
    (h : readProgram (.ofPath false path.toList) source.toList = .ok program) :
    ModuleInterface.ofSource path source = .ok (.ofProgram source.toList program) := by
  unfold ModuleInterface.ofSource
  rw [h]

/-- What either way records, told by what stands in front: `known` is the function, if it is found,
and `own` the description before the export. -/
theorem Endings.exists_default? {path front tail tail' : String} {body : List Stmt}
    {comments : List Comment} {f : String} (h : Endings path front tail tail' body comments f) :
    ∃ m m', ModuleInterface.ofSource path (front ++ ("export" ++ tail)) = .ok m ∧
      ModuleInterface.ofSource path (front ++ ("export" ++ tail')) = .ok m' ∧
      let index := CommentIndex.ofPlaces front.toList comments
      let known := (localsOf index body).find? f
      let own := descriptionBefore index front.toList.length
      let signature := (known.getD untypedDefault).ownedBy defaultName
      m.default? = some { signature with description := own.or signature.description } ∧
      m'.default? = some { signature with
        description := known.bind fun known => known.description.or own } := by
  refine ⟨_, _, ofSource_of_readProgram h.readExport, ofSource_of_readProgram h.readList, ?_⟩
  obtain ⟨hlocals, hown⟩ := front_congr body tail h.inFront
  obtain ⟨hlocals', hown'⟩ := front_congr body tail' h.inFront
  rw [ModuleInterface.default?_exportDefault, ModuleInterface.default?_exportNames]
  simp only [hlocals, hown, hlocals', hown']
  refine ⟨rfl, ?_⟩
  cases (localsOf (.ofPlaces front.toList comments) body).find? f <;> rfl

/-- **Both ways to end a module record the same function, but not the same description.**  With a
function that is found, `export default` takes the description before the export, or else that of
the function, and the list takes that of the function, or else the one before the export.  If
nothing is found, the list takes no description at all. -/
theorem default_of_endings {path front tail tail' : String} {body : List Stmt}
    {comments : List Comment} {f : String} (h : Endings path front tail tail' body comments f) :
    ∃ m m' s s', ModuleInterface.ofSource path (front ++ ("export" ++ tail)) = .ok m ∧
      ModuleInterface.ofSource path (front ++ ("export" ++ tail')) = .ok m' ∧
      m.default? = some s ∧ m'.default? = some s' ∧
      s'.parameter = s.parameter ∧ s'.flags = s.flags ∧ s'.takesFlags = s.takesFlags ∧
      s'.isDefault = s.isDefault ∧
      let index := CommentIndex.ofPlaces front.toList comments
      let own := descriptionBefore index front.toList.length
      (∀ known, (localsOf index body).find? f = some known →
        s.description = own.or known.description ∧ s'.description = known.description.or own ∧
          (s' = s ↔ own = none ∨ known.description = none ∨ own = known.description)) ∧
      ((localsOf index body).find? f = none →
        s.description = own ∧ s'.description = none ∧ (s' = s ↔ own = none)) := by
  obtain ⟨m, m', hm, hm', hs, hs'⟩ := h.exists_default?
  refine ⟨m, m', _, _, hm, hm', hs, hs', rfl, rfl, rfl, rfl, ?_, ?_⟩
  · intro known hknown
    rw [hknown]
    exact ⟨rfl, rfl, (Signature.described_eq_iff _).trans or_eq_or_swap_iff⟩
  · intro hnone
    rw [hnone]
    refine ⟨Option.or_none, rfl, (Signature.described_eq_iff _).trans ?_⟩
    exact eq_comm.trans (iff_of_eq (congrArg (· = none) Option.or_none))

/-- A function with documentation, and documentation behind it. -/
def describedFront : String :=
  "/** Declared. */\nfunction f(name: string) \x7b\x7d\n/** Exported. */\n"

/-- The statement in it. -/
def describedBody : List Stmt :=
  [.function 17 ⟨some "f", [⟨[], .identifier "name", false, some .string, none⟩], none, some []⟩]

/-- The comments in it. -/
def describedComments : List Comment := [⟨0, 16, .block⟩, ⟨45, 61, .block⟩]

theorem endings_describedFront :
    Endings "mod.ts" describedFront " default f;\n" " \x7b f as default \x7d;\n"
      describedBody describedComments "f" where
  readExport := by cbv
  readList := by cbv
  inFront := by decide

theorem descriptions_describedFront :
    ((localsOf (.ofPlaces describedFront.toList describedComments) describedBody).find? "f").map
        Signature.description = some (some "Declared.") ∧
      descriptionBefore (.ofPlaces describedFront.toList describedComments)
        describedFront.toList.length = some "Exported." := by
  have hcomments : ∀ c ∈ describedComments, IsCommentOf describedFront.toList c := by
    intro c hc
    rcases List.mem_cons.1 hc with rfl | hc
    · exact ⟨"* Declared. */".toList, by decide⟩
    · rw [List.mem_singleton.1 hc]
      exact ⟨"* Exported. */".toList, by decide⟩
  rw [CommentIndex.ofPlaces_eq hcomments (by decide)]
  decide +kernel

theorem default_of_describedFront :
    ∃ m m' s s', ModuleInterface.ofSource "mod.ts" (describedFront ++ "export default f;\n") = .ok m ∧
      ModuleInterface.ofSource "mod.ts" (describedFront ++ "export \x7b f as default \x7d;\n") =
        .ok m' ∧
      m.default? = some s ∧ m'.default? = some s' ∧ s'.parameter = s.parameter ∧ s' ≠ s := by
  obtain ⟨m, m', s, s', hm, hm', hs, hs', hparameter, -, -, -, hfound, -⟩ :=
    default_of_endings endings_describedFront
  obtain ⟨hdeclared, hown⟩ := descriptions_describedFront
  obtain ⟨known, hknown, hdescription⟩ := Option.map_eq_some_iff.1 hdeclared
  refine ⟨m, m', s, s', hm, hm', hs, hs', hparameter, fun hsame => ?_⟩
  have hequal := (hfound known hknown).2.2.1 hsame
  rw [hown, hdescription] at hequal
  exact absurd hequal (by decide)

/-- The list keeps the description of the function where documentation stands before the export. -/
theorem descriptions_of_endings :
    ∃ m m', ModuleInterface.ofSource "mod.ts" (describedFront ++ "export default f;\n") = .ok m ∧
      ModuleInterface.ofSource "mod.ts" (describedFront ++ "export \x7b f as default \x7d;\n") =
        .ok m' ∧
      m.default?.map Signature.description = some (some "Exported.") ∧
      m'.default?.map Signature.description = some (some "Declared.") := by
  obtain ⟨m, m', hm, hm', hs, hs'⟩ := endings_describedFront.exists_default?
  obtain ⟨hdeclared, hown⟩ := descriptions_describedFront
  obtain ⟨known, hknown, hdescription⟩ := Option.map_eq_some_iff.1 hdeclared
  refine ⟨m, m', hm, hm', ?_, ?_⟩
  · rw [hs, hown]
    rfl
  · rw [hs', hknown, Option.bind_some, hdescription]
    rfl

end CommandGrove
