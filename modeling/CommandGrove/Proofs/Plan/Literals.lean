import CommandGrove.Proofs.Plan.Code

/-!
# Texts stay in their literals

Everything that a program says in the words of its user stands in literals: the name of the
program, the paths of modules, tokens, descriptions, arguments, options and the names of functions.
Empty these literals, and what is left tells nothing of those words.

## What is here

* `Line.emptied` — a line with empty literals; `emptyLiterals_flatMap_chars` — that is what a scan
  for quotes leaves of a clean line.
* `Plan.bare` — a plan without its texts; `Plan.map_emptied_lines_bare` — it has the same lines but
  for the literals.
* `Plan.emptyLiterals_render_of_bare` — the main result: programs that differ in their texts only
  have the same source but for the literals.
-/

set_option autoImplicit false
namespace CommandGrove

open Text

/-! ## Lines with empty literals -/

/-- A piece with its literal emptied. -/
def Fragment.emptied : Fragment → Fragment
  | .code text => .code text
  | .quoted _ => .quoted ""

/-- A line with its literals emptied. -/
def Line.emptied (l : Line) : Line := { l with fragments := l.fragments.map Fragment.emptied }

/-- The scan leaves the emptied pieces, and stands outside of all literals behind them. -/
theorem emptyLiterals_fragments {fragments : List Fragment}
    (h : fragments.all Fragment.isClean = true) (rest : List Char) :
    emptyLiterals .outside (fragments.flatMap Fragment.chars ++ rest)
      = (fragments.map Fragment.emptied).flatMap Fragment.chars
        ++ emptyLiterals .outside rest := by
  induction fragments with
  | nil => rfl
  | cons f others ih =>
    rw [List.all_cons, Bool.and_eq_true] at h
    rw [List.flatMap_cons, List.append_assoc, List.map_cons, List.flatMap_cons, List.append_assoc,
      ← ih h.2]
    cases f with
    | code text => exact emptyLiterals_append_of_notMem (isClean_iff.1 h.1).1 _
    | quoted text => exact emptyLiterals_quote_append text.toList _

/-- **A scan for quotes finds the literals of a clean source where they are**, and empties them. -/
theorem emptyLiterals_flatMap_chars {lines : List Line} (h : ∀ l ∈ lines, l.isClean = true) :
    emptyLiterals .outside (lines.flatMap Line.chars)
      = (lines.map Line.emptied).flatMap Line.chars := by
  induction lines with
  | nil => rfl
  | cons l others ih =>
    have hl := h l List.mem_cons_self
    have hindent : '"' ∉ List.replicate (2 * l.depth) ' ' := fun hc =>
      absurd (List.eq_of_mem_replicate hc) (by decide)
    have hend (rest : List Char) :
        emptyLiterals .outside ('\n' :: rest) = '\n' :: emptyLiterals .outside rest := by
      rw [emptyLiterals, if_neg (by decide)]
    rw [List.flatMap_cons, List.map_cons, List.flatMap_cons,
      ← ih fun x hx => h x (List.mem_cons_of_mem _ hx), Line.chars, Line.chars]
    simp only [List.append_assoc, List.singleton_append]
    rw [emptyLiterals_append_of_notMem hindent, emptyLiterals_fragments hl, hend]
    rfl

/-! ## Lines of text -/

/-- A clean line has one line feed, at its end. -/
theorem count_newline_chars {l : Line} (h : l.isClean = true) : l.chars.count '\n' = 1 := by
  rw [Line.chars_eq, List.count_append, List.count_eq_zero.2 (newline_notMem_text h)]
  rfl

/-- A clean source has as many line feeds as lines. -/
theorem count_newline_flatMap_chars {lines : List Line} (h : ∀ l ∈ lines, l.isClean = true) :
    (lines.flatMap Line.chars).count '\n' = lines.length := by
  induction lines with
  | nil => rfl
  | cons l others ih =>
    rw [List.flatMap_cons, List.count_append, count_newline_chars (h l List.mem_cons_self),
      ih fun x hx => h x (List.mem_cons_of_mem _ hx), List.length_cons, Nat.add_comm]

/-! ## Plans without texts -/

/-- An import without its path. -/
def Import.bare (x : Import) : Import := { x with module := .ofText "", specifier := "" }

/-- An argument tells nothing but texts. -/
def Argument.bare (_ : Argument) : Argument := ⟨"", .optional⟩

/-- An option without its texts: its kind, and whether it switches something off. -/
def OptionPlan.bare (o : OptionPlan) : OptionPlan :=
  { o with flags := "", description := "", key := "", field := "" }

/-- An action without the name of its function. -/
def Action.bare (a : Action) : Action := { a with name := "" }

/-- A command without its texts. -/
def Command.bare (c : Command) : Command :=
  { c with
    token := ""
    description := c.description.map fun _ => ""
    arguments := c.arguments.map Argument.bare
    options := c.options.map OptionPlan.bare
    action := c.action.map Action.bare }

/-- A plan without its texts. -/
def Plan.bare (p : Plan) : Plan where
  name := ""
  imports := p.imports.map Import.bare
  commands := p.commands.map Command.bare

section Bare

@[simp] theorem Fragment.emptied_code (text : String) :
    (Fragment.code text).emptied = .code text := rfl

@[simp] theorem Fragment.emptied_quoted (text : String) :
    (Fragment.quoted text).emptied = .quoted "" := rfl

/-- The value of an option has its key in literals only. -/
theorem OptionPlan.map_emptied_value_bare (o : OptionPlan) :
    o.bare.value.map Fragment.emptied = o.value.map Fragment.emptied := by
  obtain ⟨flags, description, key, field, kind, negated⟩ := o
  cases negated <;> cases kind <;> rfl

theorem OptionPlan.emptied_fieldLine_bare (o : OptionPlan) :
    o.bare.fieldLine.emptied = o.fieldLine.emptied := by
  simp [OptionPlan.fieldLine, Line.emptied, OptionPlan.map_emptied_value_bare]

theorem map_emptied_flagLines_bare (options : List OptionPlan) :
    (flagLines (options.map OptionPlan.bare)).map Line.emptied
      = (flagLines options).map Line.emptied := by
  have hfields : (options.map OptionPlan.bare).map (Line.emptied ∘ OptionPlan.fieldLine)
      = options.map (Line.emptied ∘ OptionPlan.fieldLine) := by
    rw [List.map_map]
    exact List.map_congr_left fun o _ => o.emptied_fieldLine_bare
  rw [flagLines, flagLines, List.isEmpty_map]
  split
  · rfl
  · simp only [List.cons_append, List.map_cons, List.map_append, ← List.map_map] at hfields ⊢
    rw [hfields]

theorem Action.map_emptied_lines_bare (a : Action) (identifier : String)
    (options : List OptionPlan) :
    (a.bare.lines identifier (options.map OptionPlan.bare)).map Line.emptied
      = (a.lines identifier options).map Line.emptied := by
  have hflags :
      (if a.passesFlags then flagLines (options.map OptionPlan.bare) else []).map Line.emptied
        = (if a.passesFlags then flagLines options else []).map Line.emptied := by
    split
    · exact map_emptied_flagLines_bare options
    · rfl
  simp only [Action.lines, List.map_append]
  exact congrArg₂ (· ++ ·) (congrArg₂ (· ++ ·) rfl hflags) rfl

theorem Command.map_emptied_creationLines_bare (c : Command) :
    c.bare.creationLines.map Line.emptied = c.creationLines.map Line.emptied := by
  rw [Command.creationLines, Command.creationLines, Command.bare]
  cases c.parent <;> rfl

theorem Command.map_emptied_descriptionLines_bare (c : Command) :
    c.bare.descriptionLines.map Line.emptied = c.descriptionLines.map Line.emptied := by
  rw [Command.descriptionLines, Command.descriptionLines, Command.bare]
  cases c.description <;> rfl

theorem Command.map_emptied_actionLines_bare (c : Command) :
    (c.bare.action.elim [] fun a => a.lines c.identifier c.bare.options).map Line.emptied
      = (c.action.elim [] fun a => a.lines c.identifier c.options).map Line.emptied := by
  rw [Command.bare]
  cases c.action with
  | none => rfl
  | some a => exact a.map_emptied_lines_bare c.identifier c.options

/-- The lines of a command are the same without its texts, but for the literals. -/
theorem Command.map_emptied_lines_bare (c : Command) :
    c.bare.lines.map Line.emptied = c.lines.map Line.emptied := by
  have harguments : (c.bare.arguments.map (Argument.line c.identifier)).map Line.emptied
      = (c.arguments.map (Argument.line c.identifier)).map Line.emptied := by
    rw [Command.bare, List.map_map, List.map_map, List.map_map]
    rfl
  have hoptions : (c.bare.options.map (OptionPlan.line c.identifier)).map Line.emptied
      = (c.options.map (OptionPlan.line c.identifier)).map Line.emptied := by
    rw [Command.bare, List.map_map, List.map_map, List.map_map]
    rfl
  have hidentifier : c.bare.identifier = c.identifier := rfl
  rw [Command.lines, Command.lines, hidentifier]
  simp only [List.map_append, harguments, hoptions, c.map_emptied_creationLines_bare,
    c.map_emptied_descriptionLines_bare, c.map_emptied_actionLines_bare]

/-- **The lines of a program are the same without its texts, but for the literals.** -/
theorem Plan.map_emptied_lines_bare (p : Plan) :
    p.bare.lines.map Line.emptied = p.lines.map Line.emptied := by
  have himports : (p.bare.imports.map Import.line).map Line.emptied
      = (p.imports.map Import.line).map Line.emptied := by
    rw [Plan.bare, List.map_map, List.map_map, List.map_map]
    rfl
  have hcommands : (p.bare.commands.flatMap Command.lines).map Line.emptied
      = (p.commands.flatMap Command.lines).map Line.emptied := by
    rw [List.map_flatMap, List.map_flatMap, Plan.bare, List.flatMap_map]
    exact List.flatMap_congr fun c _ => c.map_emptied_lines_bare
  simp only [Plan.lines, Plan.prelude, List.map_append, himports, hcommands]
  rfl

end Bare

/-! ## Main result -/

/-- What a scan for quotes leaves of the source of a program. -/
theorem Plan.emptyLiterals_chars {p : Plan} (h : p.Named) :
    emptyLiterals .outside p.chars = (p.bare.lines.map Line.emptied).flatMap Line.chars := by
  rw [Plan.chars, emptyLiterals_flatMap_chars fun _ => Plan.isClean_of_mem_lines h,
    p.map_emptied_lines_bare]

theorem Plan.count_newline_chars {p : Plan} (h : p.Named) :
    p.chars.count '\n' = (p.bare.lines.map Line.emptied).length := by
  rw [Plan.chars, count_newline_flatMap_chars fun _ => Plan.isClean_of_mem_lines h,
    p.map_emptied_lines_bare, List.length_map]

theorem Plan.toList_render (p : Plan) : p.render.toList = p.chars := String.toList_ofList

/-- **No text of a program gets out of its literal.**  Two programs that are the same without their
texts have the same source once each literal is emptied, found by nothing but its quotes; and so
they have the same number of lines. -/
theorem Plan.emptyLiterals_render_of_bare (t s : CommandTree) (name base name' base' : String)
    (h : (Plan.ofTree name base t).bare = (Plan.ofTree name' base' s).bare) :
    emptyLiterals .outside (Plan.ofTree name base t).render.toList
        = emptyLiterals .outside (Plan.ofTree name' base' s).render.toList ∧
      (Plan.ofTree name base t).render.toList.count '\n'
        = (Plan.ofTree name' base' s).render.toList.count '\n' := by
  have ht := Plan.named_ofTree name base t
  have hs := Plan.named_ofTree name' base' s
  rw [Plan.toList_render, Plan.toList_render]
  constructor
  · rw [Plan.emptyLiterals_chars ht, Plan.emptyLiterals_chars hs, h]
  · rw [Plan.count_newline_chars ht, Plan.count_newline_chars hs, h]

/-- Two programs without a text in common: a token that looks like code, a description of two
lines and a path with a backslash at its end. -/
theorem Plan.emptyLiterals_render_of_two_trees :
    ∃ t s : CommandTree,
      (Plan.ofTree "tool" "/work" t).bare = (Plan.ofTree "a\"b" "C:\\" s).bare ∧
      (Plan.ofTree "tool" "/work" t).commands.map Command.token = ["", "seed"] ∧
      (Plan.ofTree "a\"b" "C:\\" s).commands.map Command.token = ["", "\");process.exit();//"] ∧
      emptyLiterals .outside (Plan.ofTree "tool" "/work" t).render.toList
        = emptyLiterals .outside (Plan.ofTree "a\"b" "C:\\" s).render.toList := by
  let module : ModulePath := .ofText "db.ts"
  let flag : Flag := ⟨"run", "count", .number, "How many"⟩
  let odd : Flag := ⟨"x", "\\\"", .number, "\n"⟩
  let t := (CommandTree.empty.child 0 "seed").1.bind 1
    ⟨module, "run", ⟨false, some "Fills it", some ⟨"name", .string, true, []⟩, [flag], true⟩⟩
  let s := (CommandTree.empty.child 0 "\");process.exit();//").1.bind 1
    ⟨module, "x\"", ⟨false, some "one\ntwo", some ⟨"]", .string, false, []⟩, [odd], true⟩⟩
  have hbare : (Plan.ofTree "tool" "/work" t).bare = (Plan.ofTree "a\"b" "C:\\" s).bare := by
    decide +kernel
  exact ⟨t, s, hbare, by decide +kernel, by decide +kernel,
    (emptyLiterals_render_of_bare t s "tool" "/work" "a\"b" "C:\\" hbare).1⟩

end CommandGrove
