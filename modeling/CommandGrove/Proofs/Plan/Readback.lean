import CommandGrove.Proofs.CommandTree.Placement
import CommandGrove.Proofs.Plan.Statements

/-!
# A source tells its program

The source of a program tells its lines, and the blank lines divide it into the parts for the
commands, whose lines tell them.  So nothing that a program imports, declares or calls gets lost
when it is written down.

## What is here

* `Line.text_ne_nil` — most lines are not blank.
* `Plan.Rooted` — one command is below no other, and it comes first; `Plan.rooted_ofTree`.
* `Plan.paragraphs` — the lines between the blank ones; `Plan.Rooted.lines_concat` says so.
* `Plan.content_eq_of_render_eq` — the main result: programs with the same source have the same
  content.
-/

set_option autoImplicit false
namespace CommandGrove

/-! ## Lines that are not blank -/

theorem Line.text_ne_nil {depth : Nat} {code : String} {fragments : List Fragment}
    (h : code ≠ "") : Line.text ⟨depth, .code code :: fragments⟩ ≠ [] := by
  simp [Line.text, Fragment.chars, h]

theorem append_ne_empty (s : String) {t : String} (h : t ≠ "") : s ++ t ≠ "" := by
  intro hempty
  exact h (String.append_eq_empty_iff.1 hempty).2

theorem Action.text_ne_nil_of_mem_lines {a : Action} {identifier : String}
    {options : List OptionPlan} {l : Line} (hl : l ∈ a.lines identifier options) :
    l.text ≠ [] := by
  rw [lines_eq, List.mem_append, List.mem_cons, List.mem_singleton] at hl
  rcases hl with hl | rfl | rfl
  · rcases eq_or_isInner_of_mem_preparation hl with rfl | hinner
    · exact Line.text_ne_nil (append_ne_empty _ (by decide))
    · exact hinner.text_ne_nil
  · exact Line.text_ne_nil (append_ne_empty _ (by decide))
  · exact Line.text_ne_nil (by decide)

theorem Command.text_ne_nil_of_mem_paragraph {c : Command} {l : Line} (hl : l ∈ c.paragraph) :
    l.text ≠ [] := by
  simp only [paragraph, statements, List.mem_append, List.mem_map] at hl
  rcases hl with hl | (((hl | ⟨a, -, rfl⟩) | ⟨o, -, rfl⟩) | hl)
  · rw [creationLines] at hl
    split at hl
    · rw [List.mem_singleton.1 hl]
      exact Line.text_ne_nil (append_ne_empty _ (by decide))
    · exact absurd hl List.not_mem_nil
  · obtain ⟨d, -, rfl⟩ := List.mem_map.1 hl
    exact Line.text_ne_nil (append_ne_empty _ (by decide))
  · exact Line.text_ne_nil (append_ne_empty _ (by decide))
  · exact Line.text_ne_nil (append_ne_empty _ (by decide))
  · cases haction : c.action with
    | none =>
      rw [haction] at hl
      exact absurd hl List.not_mem_nil
    | some a =>
      rw [haction] at hl
      exact Action.text_ne_nil_of_mem_lines hl

/-! ## The paragraphs of a program -/

/-- The first command, and it alone, is below no other one. -/
structure Plan.Rooted (p : Plan) (top : Command) (others : List Command) : Prop where
  commands : p.commands = top :: others
  top_parent : top.parent = none
  top_token : top.token = ""
  parent_ne : ∀ c ∈ others, c.parent ≠ none

/-- What the source of a program begins with. -/
def Plan.heading (p : Plan) : List Line :=
  [ codeLine 0 "// Generated by fli. Do not edit.",
    ⟨0, [.code "import \x7b Command \x7d from ", .quoted "commander", .code ";"]⟩ ] ++
  p.imports.map Import.line

/-- The lines that make the first command. -/
def Plan.opening (p : Plan) : List Line :=
  [ codeLine 0 ("const " ++ rootIdentifier ++ " = new Command();"),
    ⟨0, [.code (rootIdentifier ++ ".name("), .quoted p.name, .code ");"]⟩ ]

/-- The lines of a program between its blank ones. -/
def Plan.paragraphs (p : Plan) (top : Command) (others : List Command) : List (List Line) :=
  [p.heading, conversionLines.take 1, conversionLines.drop 2, p.opening ++ top.statements] ++
    (others.map Command.paragraph ++ [epilogue.tail])

/-- Separators in front of all blocks and behind them stand behind each of them, too. -/
theorem flatMap_cons_append_cons {α β : Type} (b : β) (f : α → List β) (xs : List α)
    (rest : List β) :
    xs.flatMap (fun x => b :: f x) ++ b :: rest
      = b :: (xs.flatMap (fun x => f x ++ [b]) ++ rest) := by
  induction xs with
  | nil => rfl
  | cons x xs ih =>
    rw [List.flatMap_cons, List.append_assoc, ih]
    simp

section Paragraphs

variable {p q : Plan} {top top' : Command} {others others' : List Command}

/-- **Blank lines divide a program into its paragraphs.** -/
theorem Plan.Rooted.lines_concat (h : p.Rooted top others) :
    p.lines ++ [blankLine] = (p.paragraphs top others).flatMap (· ++ [blankLine]) := by
  have htop : top.lines = top.statements := by
    rw [Command.lines, Command.creationLines, h.top_parent]
    rfl
  have hothers : others.flatMap Command.lines
      = others.flatMap fun c => blankLine :: c.paragraph := by
    refine List.flatMap_congr fun c hc => ?_
    obtain ⟨parent, hparent⟩ := Option.ne_none_iff_exists'.1 (h.parent_ne c hc)
    rw [Command.lines, Command.paragraph, Command.creationLines, hparent]
    simp [Command.statements]
  have hprelude : p.prelude = p.heading ++ [blankLine] ++
      (conversionLines.take 1 ++ blankLine :: conversionLines.drop 2) ++ blankLine :: p.opening :=
    rfl
  have hepilogue : epilogue = blankLine :: epilogue.tail := rfl
  rw [Plan.lines, h.commands, List.flatMap_cons, htop, hothers, hprelude, hepilogue, paragraphs]
  simp only [List.flatMap_append, List.flatMap_cons, List.flatMap_nil, List.flatMap_map,
    List.append_assoc, List.cons_append, List.nil_append, List.append_nil,
    flatMap_cons_append_cons]

theorem Plan.text_ne_nil_of_mem_paragraphs {paragraph : List Line}
    (hparagraph : paragraph ∈ p.paragraphs top others) {l : Line} (hl : l ∈ paragraph) :
    l.text ≠ [] := by
  simp only [paragraphs, List.mem_append, List.mem_cons, List.mem_map, List.not_mem_nil,
    or_false] at hparagraph
  rcases hparagraph with (rfl | rfl | rfl | rfl) | (⟨c, -, rfl⟩ | rfl)
  · simp only [heading, List.mem_append, List.mem_cons, List.mem_map, List.not_mem_nil,
      or_false] at hl
    rcases hl with (rfl | rfl) | ⟨x, -, rfl⟩
    · exact Line.text_ne_nil (by decide)
    · exact Line.text_ne_nil (by decide)
    · exact Line.text_ne_nil (append_ne_empty _ (by decide))
  · have hall : ∀ l ∈ conversionLines.take 1, l.text ≠ [] := by decide
    exact hall l hl
  · have hall : ∀ l ∈ conversionLines.drop 2, l.text ≠ [] := by decide
    exact hall l hl
  · rcases List.mem_append.1 hl with hl | hl
    · simp only [opening, List.mem_cons, List.not_mem_nil, or_false] at hl
      rcases hl with rfl | rfl <;> exact Line.text_ne_nil (by decide)
    · exact Command.text_ne_nil_of_mem_paragraph (List.mem_append_right _ hl)
  · exact Command.text_ne_nil_of_mem_paragraph hl
  · rw [List.mem_singleton.1 hl]
    exact Line.text_ne_nil (by decide)

/-- The texts of the paragraphs, from the texts of all lines. -/
theorem Plan.Rooted.map_text_paragraphs (hp : p.Rooted top others)
    (hq : q.Rooted top' others') (h : p.lines.map Line.text = q.lines.map Line.text) :
    (p.paragraphs top others).map (List.map Line.text)
      = (q.paragraphs top' others').map (List.map Line.text) := by
  have hlines {r : Plan} {first : Command} {rest : List Command} (hr : r.Rooted first rest) :
      r.lines.map Line.text ++ [[]]
        = ((r.paragraphs first rest).map (List.map Line.text)).flatMap (· ++ [[]]) := by
    have hconcat := congrArg (List.map Line.text) hr.lines_concat
    rw [List.map_append, List.map_flatMap] at hconcat
    rw [List.flatMap_map]
    simpa [Line.text, blankLine] using hconcat
  have hfilled {r : Plan} {first : Command} {rest : List Command} :
      ∀ texts ∈ (r.paragraphs first rest).map (List.map Line.text), [] ∉ texts := by
    intro texts htexts hnil
    obtain ⟨paragraph, hparagraph, rfl⟩ := List.mem_map.1 htexts
    obtain ⟨l, hl, hempty⟩ := List.mem_map.1 hnil
    exact text_ne_nil_of_mem_paragraphs hparagraph hl hempty
  refine eq_of_flatMap_concat hfilled hfilled ?_
  rw [← hlines hp, ← hlines hq, h]

/-- The texts of all lines, from the source: line feeds divide it. -/
theorem Plan.map_text_eq_of_render_eq (hp : p.Named) (hq : q.Named) (h : p.render = q.render) :
    p.lines.map Line.text = q.lines.map Line.text := by
  have hchars (r : Plan) : r.chars = (r.lines.map Line.text).flatMap (· ++ ['\n']) := by
    rw [List.flatMap_map]
    rfl
  have hfree {r : Plan} (hr : r.Named) : ∀ text ∈ r.lines.map Line.text, '\n' ∉ text := by
    intro text htext
    obtain ⟨l, hl, rfl⟩ := List.mem_map.1 htext
    exact newline_notMem_text (isClean_of_mem_lines hr hl)
  refine eq_of_flatMap_concat (hfree hp) (hfree hq) ?_
  rw [← hchars, ← hchars]
  exact String.ofList_injective h

/-- **The source tells the imports**, the name of the program and the lines of each command. -/
theorem Plan.Rooted.eq_of_map_text_lines (hp : p.Rooted top others) (hq : q.Rooted top' others')
    (hpn : p.Named) (hqn : q.Named) (h : p.lines.map Line.text = q.lines.map Line.text) :
    p.imports.map (fun x => (x.binding, x.specifier))
        = q.imports.map (fun x => (x.binding, x.specifier)) ∧
      p.name = q.name ∧
      top.statements.map Line.text = top'.statements.map Line.text ∧
      others.map (fun c => c.paragraph.map Line.text)
        = others'.map fun c => c.paragraph.map Line.text := by
  have hparagraphs := hp.map_text_paragraphs hq h
  simp only [paragraphs, List.map_append, List.map_cons, List.map_nil, List.cons_append,
    List.nil_append, List.cons.injEq, true_and, List.append_cancel_right_eq,
    List.map_map] at hparagraphs
  obtain ⟨hheading, hopening, hothers⟩ := hparagraphs
  simp only [opening, List.map_cons, List.map_nil, List.cons_append, List.cons.injEq,
    true_and] at hopening
  obtain ⟨hname, hstatements⟩ := hopening
  refine ⟨?_, Line.text_around_inj hname, hstatements, hothers⟩
  simp only [heading, List.map_append, List.append_cancel_left_eq, List.map_map] at hheading
  refine map_eq_map_of_imp hheading fun x hx y hy hxy => ?_
  obtain ⟨hbinding, hspecifier⟩ :=
    Import.eq_of_text_eq (hpn.imports x hx) (hqn.imports y hy) hxy
  rw [hbinding, hspecifier]

/-- **The source tells the content of all commands**, if they are named in one order. -/
theorem Plan.Rooted.content_eq (hp : p.Rooted top others) (hq : q.Rooted top' others')
    (hpn : p.Named) (hqn : q.Named)
    (hidentifiers : p.commands.map Command.identifier = q.commands.map Command.identifier)
    (hstatements : top.statements.map Line.text = top'.statements.map Line.text)
    (hothers : others.map (fun c => c.paragraph.map Line.text)
      = others'.map fun c => c.paragraph.map Line.text) :
    p.commands.map Command.content = q.commands.map Command.content := by
  have hmem : ∀ c ∈ top :: others, c.Named := hp.commands ▸ hpn.commands
  have hmem' : ∀ c ∈ top' :: others', c.Named := hq.commands ▸ hqn.commands
  rw [hp.commands, hq.commands, List.map_cons, List.map_cons, List.cons.injEq] at hidentifiers ⊢
  obtain ⟨htop, hrest⟩ := hidentifiers
  constructor
  · refine Command.content_eq_of_statements (hmem top List.mem_cons_self)
      (hmem' top' List.mem_cons_self) htop ?_ ?_ hstatements
    · rw [hp.top_parent, hq.top_parent]
    · rw [hp.top_token, hq.top_token]
  · have hboth : others.map (fun c => (c.identifier, c.paragraph.map Line.text))
        = others'.map fun c => (c.identifier, c.paragraph.map Line.text) := by
      rw [← List.zip_map', ← List.zip_map', hrest, hothers]
    refine map_eq_map_of_imp hboth fun c hc d hd hcd => ?_
    obtain ⟨hidentifier, hparagraph⟩ := Prod.mk.inj hcd
    exact Command.content_eq_of_paragraph (hmem c (List.mem_cons_of_mem _ hc))
      (hmem' d (List.mem_cons_of_mem _ hd)) (hp.parent_ne c hc) (hq.parent_ne d hd) hidentifier
      hparagraph

end Paragraphs

/-! ## The plan for a tree -/

section OfTree

variable {t s : CommandTree} {name base name' base' : String}

theorem Plan.rooted_ofTree (h : t.Reachable) (name base : String) :
    ∃ top others, (Plan.ofTree name base t).Rooted top others := by
  obtain ⟨top, htop, -⟩ := Plan.exists_command name base h.wellFormed.nonempty
  cases hcommands : (Plan.ofTree name base t).commands with
  | nil =>
    rw [hcommands] at htop
    exact absurd htop.symm (Option.some_ne_none top)
  | cons first others =>
    rw [hcommands] at htop
    obtain rfl : first = top := Option.some.inj htop
    have hfirst : (Plan.ofTree name base t).commands[0]? = some first := by rw [hcommands]; rfl
    refine ⟨first, others, hcommands, ?_, ?_, fun c hc => ?_⟩
    · rw [Plan.parent_of_command hfirst]
      exact congrArg (Option.map identifierFor) h.wellFormed.root_parent
    · have htoken := Plan.token_of_command hfirst
      exact (Option.some.inj (h.token?_root.symm.trans htoken)).symm
    · obtain ⟨i, hi⟩ := List.mem_iff_getElem?.1 hc
      have hplace : (Plan.ofTree name base t).commands[i + 1]? = some c := by
        rw [hcommands]
        exact hi
      obtain ⟨_, _, -, -, -, hparent⟩ :=
        Plan.exists_parent h.wellFormed hplace (Nat.succ_ne_zero i)
      rw [hparent]
      exact Option.some_ne_none _

/-- Commands are named by their places, so there is one way to name so many of them. -/
theorem Plan.map_identifier_ofTree_eq
    (h : (Plan.ofTree name base t).commands.length = (Plan.ofTree name' base' s).commands.length) :
    (Plan.ofTree name base t).commands.map Command.identifier
      = (Plan.ofTree name' base' s).commands.map Command.identifier := by
  have hplaces (r : CommandTree) : r.nodes.toList.zipIdx.map (fun x => identifierFor x.2)
      = (List.range' 0 r.nodes.toList.length).map identifierFor := by
    rw [← List.zipIdx_map_snd 0 r.nodes.toList, List.map_map]
    rfl
  simp only [Plan.ofTree, List.length_map, List.length_zipIdx] at h
  rw [Plan.map_identifier_ofTree, Plan.map_identifier_ofTree, hplaces, hplaces, h]

end OfTree

/-- **A source tells its program.**  Programs with the same source have the same name, the same
imports and the same commands, each with the same content. -/
theorem Plan.content_eq_of_render_eq (t s : CommandTree) (ht : t.Reachable) (hs : s.Reachable)
    (name base name' base' : String)
    (h : (Plan.ofTree name base t).render = (Plan.ofTree name' base' s).render) :
    (Plan.ofTree name base t).name = (Plan.ofTree name' base' s).name ∧
      (Plan.ofTree name base t).imports.map (fun x => (x.binding, x.specifier))
        = (Plan.ofTree name' base' s).imports.map (fun x => (x.binding, x.specifier)) ∧
      (Plan.ofTree name base t).commands.map Command.content
        = (Plan.ofTree name' base' s).commands.map Command.content := by
  obtain ⟨top, others, hp⟩ := Plan.rooted_ofTree ht name base
  obtain ⟨top', others', hq⟩ := Plan.rooted_ofTree hs name' base'
  have hpn := Plan.named_ofTree name base t
  have hqn := Plan.named_ofTree name' base' s
  obtain ⟨himports, hname, hstatements, hothers⟩ :=
    hp.eq_of_map_text_lines hq hpn hqn (Plan.map_text_eq_of_render_eq hpn hqn h)
  have hlength : (Plan.ofTree name base t).commands.length
      = (Plan.ofTree name' base' s).commands.length := by
    rw [hp.commands, hq.commands, List.length_cons, List.length_cons]
    simpa using congrArg List.length hothers
  exact ⟨hname, himports, hp.content_eq hq hpn hqn (Plan.map_identifier_ofTree_eq hlength)
    hstatements hothers⟩

/-- Two functions that differ in the kind of their parameter only, which neither of them is
converted to. -/
theorem Plan.content_eq_of_render_eq_of_two_trees :
    ∃ t s : CommandTree, t.Reachable ∧ s.Reachable ∧
      Plan.ofTree "tool" "/work" t ≠ Plan.ofTree "tool" "/work" s ∧
      (Plan.ofTree "tool" "/work" t).render = (Plan.ofTree "tool" "/work" s).render ∧
      (Plan.ofTree "tool" "/work" t).commands.map Command.content
        = (Plan.ofTree "tool" "/work" s).commands.map Command.content := by
  let module : ModulePath := .ofText "db.ts"
  let flag : Flag := ⟨"run", "count", .number, "How many"⟩
  let tree (kind : ValueKind) := (CommandTree.empty.child 0 "seed").1.bind 1
    ⟨module, "run", ⟨false, some "Fills it", some ⟨"name", kind, true, []⟩, [flag], true⟩⟩
  have hreach (kind : ValueKind) : (tree kind).Reachable := by
    refine .bind (.child .empty (by decide) "seed") ?_ _
    decide
  have hlines : (Plan.ofTree "tool" "/work" (tree .string)).lines
      = (Plan.ofTree "tool" "/work" (tree .unknown)).lines := by
    decide +kernel
  have hrender : (Plan.ofTree "tool" "/work" (tree .string)).render
      = (Plan.ofTree "tool" "/work" (tree .unknown)).render := by
    rw [Plan.render, Plan.render, Plan.chars, Plan.chars, hlines]
  exact ⟨tree .string, tree .unknown, hreach _, hreach _, by decide +kernel, hrender,
    (content_eq_of_render_eq _ _ (hreach _) (hreach _) "tool" "/work" "tool" "/work"
      hrender).2.2⟩

end CommandGrove
