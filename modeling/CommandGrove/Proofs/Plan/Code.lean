import CommandGrove.Plan.Source
import CommandGrove.Proofs.Plan.Scope
import CommandGrove.Proofs.Text.Literals

/-!
# The code of a source

What a source says outside of its literals is fixed code, and numbers and names of identifiers
between it.  None of it has quotes or line feeds: so code opens no literal, closes none and ends no
line.

## What is here

* `isClean` — a text without quotes and line feeds; `Line.isClean` — a line whose code is like
  that.
* `Line.text` — a line without its end; `newline_notMem_text` — a clean one has no line feed.
* `Plan.Named` — the names that stand in code are identifiers; `Plan.named_ofTree` says so of the
  plan for a tree.
* `Plan.isClean_of_mem_lines` — then all lines of the plan are clean.
-/

set_option autoImplicit false
namespace CommandGrove

/-! ## Clean texts -/

/-- The text has neither quotes nor line feeds. -/
def isClean (text : String) : Bool := text.toList.all fun c => c != '"' && c != '\n'

theorem isClean_iff {text : String} :
    isClean text = true ↔ '"' ∉ text.toList ∧ '\n' ∉ text.toList := by
  simp only [isClean, List.all_eq_true, Bool.and_eq_true, bne_iff_ne]
  constructor
  · intro h
    exact ⟨fun hc => (h _ hc).1 rfl, fun hc => (h _ hc).2 rfl⟩
  · rintro ⟨hquote, hnewline⟩ c hc
    exact ⟨fun e => hquote (e ▸ hc), fun e => hnewline (e ▸ hc)⟩

@[simp] theorem isClean_append (a b : String) : isClean (a ++ b) = (isClean a && isClean b) := by
  simp [isClean, String.toList_append]

theorem isClean_of_isIdentifierChar {text : String}
    (h : ∀ c ∈ text.toList, isIdentifierChar c = true) : isClean text = true := by
  rw [isClean_iff]
  exact ⟨fun hc => absurd (h _ hc) (by decide), fun hc => absurd (h _ hc) (by decide)⟩

theorem isIdentifierChar_of_isIdentifier {name : String} (h : isIdentifier name = true) {c : Char}
    (hc : c ∈ name.toList) : isIdentifierChar c = true := by
  simp only [isIdentifier, Bool.and_eq_true, List.all_eq_true] at h
  exact h.1.2 c hc

theorem isClean_of_isIdentifier {name : String} (h : isIdentifier name = true) :
    isClean name = true :=
  isClean_of_isIdentifierChar fun _ => isIdentifierChar_of_isIdentifier h

/-- Code that begins with an identifier is clean if the rest of it is. -/
theorem isClean_identifier_append {identifier rest : String}
    (h : isIdentifier identifier = true) (hrest : isClean rest = true) :
    isClean (identifier ++ rest) = true := by
  rw [isClean_append, isClean_of_isIdentifier h, hrest]
  rfl

@[simp] theorem isClean_toString (n : Nat) : isClean (toString n) = true :=
  isClean_of_isIdentifierChar fun _ hc => isIdentifierChar_of_isDigit (isDigit_of_mem_toString hc)

/-! ## Clean lines -/

/-- A piece that is code is clean. -/
def Fragment.isClean : Fragment → Bool
  | .code text => CommandGrove.isClean text
  | .quoted _ => true

/-- All code of a line is clean. -/
def Line.isClean (l : Line) : Bool := l.fragments.all Fragment.isClean

/-- Most lines are a literal between two pieces of code. -/
theorem Line.isClean_around {depth : Nat} {before text after : String}
    (hbefore : CommandGrove.isClean before = true) (hafter : CommandGrove.isClean after = true) :
    Line.isClean ⟨depth, [.code before, .quoted text, .code after]⟩ = true := by
  simp [Line.isClean, Fragment.isClean, hbefore, hafter]

/-- The characters of a line without its end. -/
def Line.text (l : Line) : List Char :=
  List.replicate (2 * l.depth) ' ' ++ l.fragments.flatMap Fragment.chars

theorem Line.chars_eq (l : Line) : l.chars = l.text ++ ['\n'] := rfl

/-- A clean line ends nowhere but at its end. -/
theorem newline_notMem_text {l : Line} (h : l.isClean = true) : '\n' ∉ l.text := by
  intro hc
  rcases List.mem_append.1 hc with hc | hc
  · exact absurd (List.eq_of_mem_replicate hc) (by decide)
  · obtain ⟨f, hf, hc⟩ := List.mem_flatMap.1 hc
    cases f with
    | code text => exact (isClean_iff.1 (List.all_eq_true.1 h _ hf)).2 hc
    | quoted text => exact Text.newline_notMem_quote _ hc

theorem isClean_convert {read : List Fragment} (h : read.all Fragment.isClean = true)
    (kind : ValueKind) : (convert read kind).all Fragment.isClean = true := by
  rw [convert]
  split
  · simp only [List.all_append, h, Bool.and_true]
    rfl
  · exact h

theorem isClean_wordAt (i : Nat) : (wordAt i).all Fragment.isClean = true := by
  simp only [wordAt, List.all_cons, List.all_nil, Fragment.isClean, isClean_append,
    isClean_toString]
  rfl

theorem isClean_commaSeparated {expressions : List (List Fragment)}
    (h : ∀ e ∈ expressions, e.all Fragment.isClean = true) :
    (commaSeparated expressions).all Fragment.isClean = true := by
  induction expressions with
  | nil => rfl
  | cons e rest ih =>
    have he := h e List.mem_cons_self
    have hrest := ih fun x hx => h x (List.mem_cons_of_mem _ hx)
    cases rest with
    | nil => exact he
    | cons second others =>
      rw [commaSeparated, List.all_append, List.all_cons, he, hrest]
      · rfl
      · exact List.cons_ne_nil _ _

theorem isClean_of_expression? {input : Input} {e : List Fragment}
    (h : input.expression? = some e) : e.all Fragment.isClean = true := by
  cases input with
  | none => exact absurd h.symm (Option.some_ne_none e)
  | scalar kind =>
    rw [← Option.some.inj h]
    exact isClean_convert (isClean_wordAt 0) kind
  | variadic element =>
    have hvalue : (convert [.code "value"] element).all Fragment.isClean = true :=
      isClean_convert rfl element
    rw [← Option.some.inj h, List.all_append, List.all_append, hvalue]
    rfl
  | tuple kinds =>
    rw [← Option.some.inj h]
    simp only [List.cons_append, List.all_cons, List.all_append]
    rw [isClean_commaSeparated]
    · rfl
    · intro x hx
      obtain ⟨⟨kind, i⟩, -, rfl⟩ := List.mem_map.1 hx
      exact isClean_convert (isClean_wordAt i) kind

theorem OptionPlan.isClean_value (o : OptionPlan) : o.value.all Fragment.isClean = true := by
  have hread (kind : ValueKind) : (convert [.code "raw[", .quoted o.key, .code "]"] kind).all
      Fragment.isClean = true := isClean_convert rfl kind
  rw [OptionPlan.value]
  split
  · rfl
  · simp only [List.all_append, hread, Bool.and_true]
    rfl
  · simp only [List.all_append, hread, Bool.and_true]
    rfl
  · rfl

theorem isClean_callArguments (a : Action) : CommandGrove.isClean a.callArguments = true := by
  unfold Action.callArguments
  cases a.passesFlags <;> cases a.input.expression?.isSome <;> decide

/-! ## Names in code -/

/-- The names that stand in the code for a command are identifiers. -/
structure Command.Named (c : Command) : Prop where
  identifier : isIdentifier c.identifier = true
  parent : ∀ parent, c.parent = some parent → isIdentifier parent = true
  action : ∀ a, c.action = some a → isIdentifier a.binding = true

/-- The names that stand in the code of a program are identifiers. -/
structure Plan.Named (p : Plan) : Prop where
  imports : ∀ x ∈ p.imports, isIdentifier x.binding = true
  commands : ∀ c ∈ p.commands, c.Named

theorem isIdentifier_of_mem_importsFor {base : String} {modules : List ModulePath} {x : Import}
    (h : x ∈ importsFor base modules) : isIdentifier x.binding = true := by
  obtain ⟨⟨m, i⟩, -, rfl⟩ := List.mem_map.1 h
  exact isIdentifier_importBinding i m

/-- **The names in the plan for a tree are identifiers**, whatever the tree is. -/
theorem Plan.named_ofTree (name base : String) (t : CommandTree) :
    (Plan.ofTree name base t).Named where
  imports _ := isIdentifier_of_mem_importsFor
  commands c hc := by
    obtain ⟨⟨node, i⟩, -, rfl⟩ := List.mem_map.1 hc
    refine ⟨isIdentifier_identifierFor i, fun parent hparent => ?_, fun a ha => ?_⟩
    · obtain ⟨j, -, rfl⟩ := Option.map_eq_some_iff.1 hparent
      exact isIdentifier_identifierFor j
    · obtain ⟨b, -, ha⟩ := Option.bind_eq_some_iff.1 ha
      obtain ⟨x, hx, rfl⟩ := Option.map_eq_some_iff.1 ha
      exact isIdentifier_of_mem_importsFor (List.mem_of_find?_eq_some hx)

/-! ## The lines of a plan -/

theorem isClean_of_mem_flagLines {options : List OptionPlan} {l : Line}
    (h : l ∈ flagLines options) : l.isClean = true := by
  rw [flagLines] at h
  split at h
  · rw [List.mem_singleton.1 h]
    decide
  · rw [List.mem_append, List.mem_cons, List.mem_map, List.mem_singleton] at h
    rcases h with (rfl | ⟨o, -, rfl⟩) | rfl
    · decide
    · simp only [Line.isClean, OptionPlan.fieldLine, List.cons_append, List.all_cons,
        List.all_append, OptionPlan.isClean_value]
      rfl
    · decide

theorem isClean_of_mem_inputLines {input : Input} {l : Line} (h : l ∈ input.lines) :
    l.isClean = true := by
  rw [Input.lines] at h
  split at h
  · next e he =>
    rw [List.mem_cons, List.mem_singleton] at h
    rcases h with rfl | rfl
    · simp only [Line.isClean, codeLine, List.all_cons, List.all_nil, Fragment.isClean,
        isClean_append, isClean_toString]
      rfl
    · simp only [Line.isClean, List.cons_append, List.all_cons, List.all_append,
        isClean_of_expression? he]
      rfl
  · exact absurd h List.not_mem_nil

theorem isClean_of_mem_actionLines {a : Action} {identifier : String} {options : List OptionPlan}
    {l : Line} (hidentifier : isIdentifier identifier = true)
    (hbinding : isIdentifier a.binding = true) (h : l ∈ a.lines identifier options) :
    l.isClean = true := by
  simp only [Action.lines, List.mem_append, List.mem_cons, List.not_mem_nil, or_false] at h
  rcases h with (((rfl | rfl | rfl) | h) | h) | (rfl | rfl)
  · simp only [Line.isClean, codeLine, List.all_cons, List.all_nil, Fragment.isClean,
      isClean_append, isClean_of_isIdentifier hidentifier]
    rfl
  · decide
  · decide
  · exact isClean_of_mem_inputLines h
  · split at h
    · exact isClean_of_mem_flagLines h
    · exact absurd h List.not_mem_nil
  · refine Line.isClean_around ?_ ?_
    · rw [isClean_append, isClean_append, isClean_of_isIdentifier hbinding]
      rfl
    · rw [isClean_append, isClean_append, isClean_callArguments]
      rfl
  · decide

theorem Command.Named.isClean_of_mem_lines {c : Command} (h : c.Named) {l : Line}
    (hl : l ∈ c.lines) : l.isClean = true := by
  have hfront {rest : String} (hrest : isClean rest = true) :
      isClean (c.identifier ++ rest) = true := isClean_identifier_append h.identifier hrest
  simp only [Command.lines, List.mem_append, List.mem_map] at hl
  rcases hl with (((hl | hl) | ⟨a, -, rfl⟩) | ⟨o, -, rfl⟩) | hl
  · rw [Command.creationLines] at hl
    split at hl
    · next parent hparent =>
      rw [List.mem_cons, List.mem_singleton] at hl
      rcases hl with rfl | rfl
      · rfl
      · refine Line.isClean_around ?_ rfl
        simp only [isClean_append, isClean_of_isIdentifier h.identifier,
          isClean_of_isIdentifier (h.parent parent hparent)]
        rfl
    · exact absurd hl List.not_mem_nil
  · obtain ⟨d, -, rfl⟩ := List.mem_map.1 hl
    exact Line.isClean_around (hfront rfl) rfl
  · exact Line.isClean_around (hfront rfl) rfl
  · have hoption : isClean (c.identifier ++ ".option(") = true := hfront rfl
    simp only [Line.isClean, OptionPlan.line, List.all_cons, List.all_nil, Fragment.isClean,
      hoption]
    rfl
  · cases ha : c.action with
    | none =>
      rw [ha] at hl
      exact absurd hl List.not_mem_nil
    | some a =>
      rw [ha] at hl
      exact isClean_of_mem_actionLines h.identifier (h.action a ha) hl

/-- **All code of a program is clean**: it has neither quotes nor line feeds. -/
theorem Plan.isClean_of_mem_lines {p : Plan} (h : p.Named) {l : Line} (hl : l ∈ p.lines) :
    l.isClean = true := by
  have hfixed : ∀ x ∈ conversionLines, x.isClean = true := by decide +kernel
  simp only [Plan.lines, Plan.prelude, epilogue, List.mem_append, List.mem_cons, List.mem_map,
    List.not_mem_nil, or_false, List.mem_flatMap] at hl
  rcases hl with ((((((rfl | rfl) | ⟨x, hx, rfl⟩) | rfl) | hl) | (rfl | rfl | rfl)) |
    ⟨c, hc, hl⟩) | (rfl | rfl)
  · decide
  · rfl
  · refine Line.isClean_around ?_ rfl
    rw [isClean_append, isClean_append, isClean_of_isIdentifier (h.imports x hx)]
    rfl
  · rfl
  · exact hfixed l hl
  · rfl
  · decide
  · rfl
  · exact (h.commands c hc).isClean_of_mem_lines hl
  · rfl
  · decide

end CommandGrove
