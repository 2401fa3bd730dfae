import CommandGrove.Proofs.Plan.Code
import Mathlib.Data.List.Basic

/-!
# The lines of a command tell it

Each line of a command begins in its own way, and goes on with literals that end where they should.
So the lines about a topic can be told from the others, and what they say can be read off them.

## What is here

* `eq_of_flatMap_concat` — blocks that end with a separator can be told apart.
* `Line.text_around_inj`, `OptionPlan.eq_of_text_eq`, `Action.eq_of_text_eq` — what a line tells.
* `Topic`, `Topic.isAbout` — what a line of a command is about, told from its characters;
  `Command.filter_isAbout` finds the lines about each topic.
* `Command.Content` — what a source tells of a command; `Command.content_eq_of_statements` and
  `Command.content_eq_of_paragraph` say that its lines tell it.
-/

set_option autoImplicit false
namespace CommandGrove

open Text

/-! ## Texts up to a separator -/

section Separator

variable {α : Type} {sep : α}

/-- A separator that two texts do not hold shows where they end. -/
theorem append_cons_inj {x y rest after : List α} (hx : sep ∉ x) (hy : sep ∉ y)
    (h : x ++ sep :: rest = y ++ sep :: after) : x = y ∧ rest = after := by
  induction x generalizing y with
  | nil =>
    cases y with
    | nil => exact ⟨rfl, (List.cons.inj h).2⟩
    | cons b y => exact absurd ((List.cons.inj h).1 ▸ List.mem_cons_self) hy
  | cons a x ih =>
    cases y with
    | nil => exact absurd ((List.cons.inj h).1 ▸ List.mem_cons_self) hx
    | cons b y =>
      obtain ⟨rfl, htail⟩ := List.cons.inj h
      obtain ⟨rfl, hrest⟩ := ih (fun hc => hx (List.mem_cons_of_mem _ hc))
        (fun hc => hy (List.mem_cons_of_mem _ hc)) htail
      exact ⟨rfl, hrest⟩

/-- Blocks that end with a separator they do not hold can be told apart. -/
theorem eq_of_flatMap_concat {xs ys : List (List α)} (hx : ∀ x ∈ xs, sep ∉ x)
    (hy : ∀ y ∈ ys, sep ∉ y) (h : xs.flatMap (· ++ [sep]) = ys.flatMap (· ++ [sep])) :
    xs = ys := by
  induction xs generalizing ys with
  | nil =>
    cases ys with
    | nil => rfl
    | cons y ys => simp at h
  | cons x xs ih =>
    cases ys with
    | nil => simp at h
    | cons y ys =>
      simp only [List.flatMap_cons, List.append_assoc, List.singleton_append] at h
      obtain ⟨rfl, hrest⟩ := append_cons_inj (hx x List.mem_cons_self) (hy y List.mem_cons_self) h
      rw [ih (fun z hz => hx z (List.mem_cons_of_mem _ hz))
        (fun z hz => hy z (List.mem_cons_of_mem _ hz)) hrest]

end Separator

/-- What equal values of `f` say about `g` holds of whole lists. -/
theorem map_eq_map_of_imp {α β γ : Type} {f : α → β} {g : α → γ} {xs ys : List α}
    (h : xs.map f = ys.map f) (himp : ∀ x ∈ xs, ∀ y ∈ ys, f x = f y → g x = g y) :
    xs.map g = ys.map g := by
  induction xs generalizing ys with
  | nil =>
    rw [List.map_nil, eq_comm, List.map_eq_nil_iff] at h
    rw [h]
  | cons x xs ih =>
    cases ys with
    | nil => simp at h
    | cons y ys =>
      obtain ⟨hfirst, hrest⟩ := List.cons.inj h
      rw [List.map_cons, List.map_cons, himp x List.mem_cons_self y List.mem_cons_self hfirst,
        ih hrest fun a ha b hb => himp a (List.mem_cons_of_mem _ ha) b (List.mem_cons_of_mem _ hb)]

theorem eq_of_toList_eq {α : Type} {x y : Option α} (h : x.toList = y.toList) : x = y := by
  have hhead := congrArg List.head? h
  rwa [Option.head?_toList, Option.head?_toList] at hhead

/-- An identifier ends where a character follows that cannot stand in one. -/
theorem identifier_append_inj {name other : String} {c : Char} {rest after : List Char}
    (hname : isIdentifier name = true) (hother : isIdentifier other = true)
    (hc : isIdentifierChar c = false)
    (h : name.toList ++ c :: rest = other.toList ++ c :: after) : name = other ∧ rest = after := by
  have hfree {s : String} (hs : isIdentifier s = true) : c ∉ s.toList := fun hmem => by
    rw [isIdentifierChar_of_isIdentifier hs hmem] at hc
    exact Bool.noConfusion hc
  obtain ⟨hnames, hrest⟩ := append_cons_inj (hfree hname) (hfree hother) h
  exact ⟨String.toList_inj.1 hnames, hrest⟩

theorem quote_append_inj_of_string {s t : String} {rest after : List Char}
    (h : quote s.toList ++ rest = quote t.toList ++ after) : s = t ∧ rest = after := by
  obtain ⟨htext, hrest⟩ := quote_append_inj h
  exact ⟨String.toList_inj.1 htext, hrest⟩

/-! ## The texts of lines -/

/-- The text of a line with one literal. -/
theorem Line.text_around (depth : Nat) (before text after : String) :
    Line.text ⟨depth, [.code before, .quoted text, .code after]⟩
      = List.replicate (2 * depth) ' '
        ++ (before.toList ++ (quote text.toList ++ after.toList)) := by
  simp [Line.text, Fragment.chars]

/-- A line with one literal tells the text in it. -/
theorem Line.text_around_inj {depth : Nat} {before text text' after : String}
    (h : Line.text ⟨depth, [.code before, .quoted text, .code after]⟩
      = Line.text ⟨depth, [.code before, .quoted text', .code after]⟩) : text = text' := by
  rw [Line.text_around, Line.text_around, List.append_cancel_left_eq,
    List.append_cancel_left_eq] at h
  exact (quote_append_inj_of_string h).1

theorem Import.eq_of_text_eq {x y : Import} (hx : isIdentifier x.binding = true)
    (hy : isIdentifier y.binding = true) (h : x.line.text = y.line.text) :
    x.binding = y.binding ∧ x.specifier = y.specifier := by
  rw [Import.line, Import.line, Line.text_around, Line.text_around] at h
  simp only [String.toList_append, List.append_assoc, List.append_cancel_left_eq] at h
  obtain ⟨hbinding, hrest⟩ := identifier_append_inj hx hy (by decide) h
  exact ⟨hbinding, (quote_append_inj_of_string (List.append_cancel_left hrest)).1⟩

theorem OptionPlan.eq_of_text_eq {identifier : String} {o o' : OptionPlan}
    (h : (o.line identifier).text = (o'.line identifier).text) :
    o.flags = o'.flags ∧ o.description = o'.description := by
  simp only [OptionPlan.line, Line.text, Fragment.chars, List.flatMap_cons, List.flatMap_nil,
    List.append_cancel_left_eq] at h
  obtain ⟨hflags, hrest⟩ := quote_append_inj_of_string h
  exact ⟨hflags, (quote_append_inj_of_string (List.append_cancel_left hrest)).1⟩

/-- The line that makes a command below another one. -/
def Command.creationLine (c : Command) (parent : String) : Line :=
  ⟨0, [.code ("const " ++ c.identifier ++ " = " ++ parent ++ ".command("), .quoted c.token,
    .code ");"]⟩

theorem Command.eq_of_text_eq {c d : Command} {parent parent' : String}
    (hparent : isIdentifier parent = true) (hparent' : isIdentifier parent' = true)
    (hidentifier : c.identifier = d.identifier)
    (h : (c.creationLine parent).text = (d.creationLine parent').text) :
    parent = parent' ∧ c.token = d.token := by
  rw [Command.creationLine, Command.creationLine, Line.text_around, Line.text_around,
    hidentifier] at h
  simp only [String.toList_append, List.append_assoc, List.append_cancel_left_eq] at h
  obtain ⟨hparents, hrest⟩ := identifier_append_inj hparent hparent' (by decide) h
  exact ⟨hparents, (quote_append_inj_of_string (List.append_cancel_left hrest)).1⟩

/-- The line that calls the function of a command. -/
def Action.callLine (a : Action) : Line :=
  ⟨1, [.code ("await " ++ a.binding ++ "["), .quoted a.name,
    .code ("].call(" ++ a.callArguments ++ ");")]⟩

/-- The arguments of a call tell whether the flags are among them. -/
theorem Action.passesFlags_of_callArguments {a b : Action}
    (h : a.callArguments = b.callArguments) : a.passesFlags = b.passesFlags := by
  unfold Action.callArguments at h
  revert h
  cases a.passesFlags <;> cases b.passesFlags <;> cases a.input.expression?.isSome <;>
    cases b.input.expression?.isSome <;> decide

theorem Action.eq_of_text_eq {a b : Action} (ha : isIdentifier a.binding = true)
    (hb : isIdentifier b.binding = true) (h : a.callLine.text = b.callLine.text) :
    a.binding = b.binding ∧ a.name = b.name ∧ a.passesFlags = b.passesFlags := by
  rw [Action.callLine, Action.callLine, Line.text_around, Line.text_around] at h
  simp only [String.toList_append, List.append_assoc, List.append_cancel_left_eq] at h
  obtain ⟨hbinding, hrest⟩ := identifier_append_inj ha hb (by decide) h
  obtain ⟨hname, hrest⟩ := quote_append_inj_of_string hrest
  have hcall := List.append_cancel_right (List.append_cancel_left hrest)
  exact ⟨hbinding, hname, Action.passesFlags_of_callArguments (String.toList_inj.1 hcall)⟩

/-! ## What a line is about -/

/-- What a line of a command can be about. -/
inductive Topic where
  | description
  | argument
  | option
  /-- The call of its function. -/
  | call
  deriving DecidableEq, Repr

/-- What a line about a topic begins with, behind the identifier of its command. -/
def Topic.mark : Topic → List Char
  | .description => ".description(".toList
  | .argument => ".argument(".toList
  | .option => ".option(".toList
  | .call => "  await ".toList

/-- The text of a line is about this topic. -/
def Topic.isAbout (topic : Topic) (text : List Char) : Bool :=
  topic.mark.isPrefixOf (text.dropWhile isIdentifierChar)

/-- A line about one topic is about no other. -/
theorem Topic.isAbout_mark (topic own : Topic) (rest : List Char) :
    topic.isAbout (own.mark ++ rest) = decide (topic = own) := by
  cases topic <;> cases own <;> rfl

theorem dropWhile_identifier {identifier : String} (h : isIdentifier identifier = true)
    (rest : List Char) :
    (identifier.toList ++ rest).dropWhile isIdentifierChar = rest.dropWhile isIdentifierChar :=
  List.dropWhile_append_of_pos fun _ => isIdentifierChar_of_isIdentifier h

theorem Topic.isAbout_identifier_append {identifier : String}
    (h : isIdentifier identifier = true) (topic : Topic) (rest : List Char) :
    topic.isAbout (identifier.toList ++ rest) = topic.isAbout rest := by
  rw [isAbout, dropWhile_identifier h, isAbout]

/-- The line is indented, and does not wait for a call. -/
def Line.IsInner (l : Line) : Prop := ∃ c rest, c ≠ 'a' ∧ l.text = ' ' :: ' ' :: c :: rest

theorem Line.IsInner.text_ne_nil {l : Line} (h : l.IsInner) : l.text ≠ [] := by
  obtain ⟨c, rest, -, htext⟩ := h
  rw [htext]
  exact List.cons_ne_nil _ _

/-- Such a line is about nothing. -/
theorem Line.IsInner.isAbout {l : Line} (h : l.IsInner) (topic : Topic) :
    topic.isAbout l.text = false := by
  obtain ⟨c, rest, hc, htext⟩ := h
  have hindent : (' ' :: ' ' :: c :: rest).dropWhile isIdentifierChar = ' ' :: ' ' :: c :: rest :=
    rfl
  rw [htext, Topic.isAbout, hindent]
  cases topic with
  | call =>
    have hmark : Topic.call.mark = ' ' :: ' ' :: 'a' :: "wait ".toList := rfl
    have hfirst : ('a' == c) = false := beq_eq_false_iff_ne.2 hc.symm
    rw [hmark, List.isPrefixOf_cons_cons, List.isPrefixOf_cons_cons, List.isPrefixOf_cons_cons,
      hfirst]
    rfl
  | description | argument | option => rfl

theorem isInner_of_mem_inputLines {input : Input} {l : Line} (h : l ∈ input.lines) :
    l.IsInner := by
  rw [Input.lines] at h
  split at h
  · rw [List.mem_cons, List.mem_singleton] at h
    rcases h with rfl | rfl
    · simp only [Line.IsInner, codeLine, Line.text, List.flatMap_cons, Fragment.chars,
        String.toList_append]
      exact ⟨'c', _, by decide, rfl⟩
    · exact ⟨'c', _, by decide, rfl⟩
  · exact absurd h List.not_mem_nil

theorem isInner_of_mem_flagLines {options : List OptionPlan} {l : Line}
    (h : l ∈ flagLines options) : l.IsInner := by
  rw [flagLines] at h
  split at h
  · rw [List.mem_singleton.1 h]
    exact ⟨'c', _, by decide, rfl⟩
  · rw [List.mem_append, List.mem_cons, List.mem_map, List.mem_singleton] at h
    rcases h with (rfl | ⟨o, -, rfl⟩) | rfl
    · exact ⟨'c', _, by decide, rfl⟩
    · exact ⟨' ', _, by decide, rfl⟩
    · exact ⟨'\x7d', _, by decide, rfl⟩

/-! ## The lines of an action -/

/-- The line that an action begins with. -/
def Action.openingLine (identifier : String) : Line :=
  codeLine 0 (identifier ++ ".action(async (...received: any[]) => \x7b")

/-- The lines of an action in front of its call. -/
def Action.preparation (a : Action) (identifier : String) (options : List OptionPlan) :
    List Line :=
  [ Action.openingLine identifier,
    codeLine 1 "const command = received[received.length - 1];",
    codeLine 1 "const raw = command.opts();" ] ++
  a.input.lines ++ if a.passesFlags then flagLines options else []

theorem Action.lines_eq (a : Action) (identifier : String) (options : List OptionPlan) :
    a.lines identifier options
      = a.preparation identifier options ++ [a.callLine, codeLine 0 "\x7d);"] := rfl

theorem Action.eq_or_isInner_of_mem_preparation {a : Action} {identifier : String}
    {options : List OptionPlan} {l : Line} (hl : l ∈ a.preparation identifier options) :
    l = openingLine identifier ∨ l.IsInner := by
  simp only [preparation, List.mem_append, List.mem_cons, List.not_mem_nil, or_false] at hl
  rcases hl with ((rfl | rfl | rfl) | hl) | hl
  · exact Or.inl rfl
  · exact Or.inr ⟨'c', _, by decide, rfl⟩
  · exact Or.inr ⟨'c', _, by decide, rfl⟩
  · exact Or.inr (isInner_of_mem_inputLines hl)
  · split at hl
    · exact Or.inr (isInner_of_mem_flagLines hl)
    · exact absurd hl List.not_mem_nil

theorem Action.isAbout_openingLine {identifier : String} (h : isIdentifier identifier = true)
    (topic : Topic) : topic.isAbout (openingLine identifier).text = false := by
  have htext : (openingLine identifier).text
      = identifier.toList ++ ".action(async (...received: any[]) => \x7b".toList := by
    simp only [openingLine, codeLine, Line.text, List.flatMap_cons, List.flatMap_nil,
      Fragment.chars, String.toList_append, List.append_nil]
    rfl
  rw [htext, Topic.isAbout_identifier_append h]
  cases topic <;> rfl

theorem Action.isAbout_callLine (a : Action) (topic : Topic) :
    topic.isAbout a.callLine.text = decide (topic = .call) := by
  have htext : a.callLine.text = Topic.call.mark ++ (a.binding.toList ++ ("[".toList
      ++ (quote a.name.toList ++ ("].call(" ++ a.callArguments ++ ");").toList))) := by
    rw [callLine, Line.text_around]
    simp only [String.toList_append, List.append_assoc]
    rfl
  rw [htext, Topic.isAbout_mark]

/-- Among the lines of an action, only the call is about something. -/
theorem Action.filter_isAbout (a : Action) {identifier : String}
    (h : isIdentifier identifier = true) (options : List OptionPlan) (topic : Topic) :
    (a.lines identifier options).filter (fun l => topic.isAbout l.text)
      = if topic = .call then [a.callLine] else [] := by
  have hbefore : (a.preparation identifier options).filter (fun l => topic.isAbout l.text)
      = [] := by
    refine List.filter_eq_nil_iff.2 fun l hl => ?_
    rw [Bool.not_eq_true]
    rcases eq_or_isInner_of_mem_preparation hl with rfl | hinner
    · exact isAbout_openingLine h topic
    · exact hinner.isAbout topic
  have hend : topic.isAbout (codeLine 0 "\x7d);").text = false := by
    cases topic <;> rfl
  rw [lines_eq, List.filter_append, hbefore, List.nil_append]
  simp [List.filter_cons, hend, a.isAbout_callLine]

/-! ## The lines about a topic -/

/-- The lines of a command that are about a topic. -/
def Command.linesAbout (c : Command) : Topic → List Line
  | .description => c.descriptionLines
  | .argument => c.arguments.map (Argument.line c.identifier)
  | .option => c.options.map (OptionPlan.line c.identifier)
  | .call => c.action.toList.map Action.callLine

/-- The lines of a command behind the one that makes it. -/
def Command.statements (c : Command) : List Line :=
  c.descriptionLines ++ c.arguments.map (Argument.line c.identifier) ++
    c.options.map (OptionPlan.line c.identifier) ++
    (c.action.elim [] fun a => a.lines c.identifier c.options)

/-- The line begins with an identifier and the mark of a topic. -/
def Line.Opens (l : Line) (identifier : String) (own : Topic) : Prop :=
  ∃ rest, l.text = identifier.toList ++ (own.mark ++ rest)

theorem Line.opens_of_mark {own : Topic} {mark : String} (h : own.mark = mark.toList)
    (identifier : String) (fragments : List Fragment) :
    Line.Opens ⟨0, .code (identifier ++ mark) :: fragments⟩ identifier own := by
  refine ⟨fragments.flatMap Fragment.chars, ?_⟩
  rw [h]
  simp [Line.text, Fragment.chars]

/-- Lines that are all about one topic. -/
theorem filter_isAbout_of_opens {lines : List Line} {identifier : String} {own : Topic}
    (hidentifier : isIdentifier identifier = true) (h : ∀ l ∈ lines, l.Opens identifier own)
    (topic : Topic) :
    lines.filter (fun l => topic.isAbout l.text) = if topic = own then lines else [] := by
  have hown : ∀ l ∈ lines, topic.isAbout l.text = decide (topic = own) := by
    intro l hl
    obtain ⟨rest, htext⟩ := h l hl
    rw [htext, Topic.isAbout_identifier_append hidentifier, Topic.isAbout_mark]
  split
  · next heq =>
    refine List.filter_eq_self.2 fun l hl => ?_
    rw [hown l hl, decide_eq_true heq]
  · next hne =>
    refine List.filter_eq_nil_iff.2 fun l hl => ?_
    rw [hown l hl, decide_eq_false hne]
    exact Bool.false_ne_true

/-- **The lines of a command tell what they are about**: looking for a topic finds its lines. -/
theorem Command.filter_isAbout {c : Command} (h : isIdentifier c.identifier = true)
    (topic : Topic) :
    c.statements.filter (fun l => topic.isAbout l.text) = c.linesAbout topic := by
  have hdescription : ∀ l ∈ c.descriptionLines, l.Opens c.identifier .description := by
    intro l hl
    obtain ⟨d, -, rfl⟩ := List.mem_map.1 hl
    exact Line.opens_of_mark rfl _ _
  have hargument : ∀ l ∈ c.arguments.map (Argument.line c.identifier),
      l.Opens c.identifier .argument := by
    intro l hl
    obtain ⟨a, -, rfl⟩ := List.mem_map.1 hl
    exact Line.opens_of_mark rfl _ _
  have hoption : ∀ l ∈ c.options.map (OptionPlan.line c.identifier),
      l.Opens c.identifier .option := by
    intro l hl
    obtain ⟨o, -, rfl⟩ := List.mem_map.1 hl
    exact Line.opens_of_mark rfl _ _
  rw [statements, List.filter_append, List.filter_append, List.filter_append,
    filter_isAbout_of_opens h hdescription, filter_isAbout_of_opens h hargument,
    filter_isAbout_of_opens h hoption]
  cases haction : c.action with
  | none => cases topic <;> simp [linesAbout, haction]
  | some a =>
    rw [Option.elim_some, a.filter_isAbout h]
    cases topic <;> simp [linesAbout, haction]

/-! ## What the lines of a command tell -/

/-- What the source tells of a command. -/
structure Command.Content where
  identifier : String
  parent : Option String
  token : String
  description : Option String
  usages : List String
  /-- How each option is written, and its description. -/
  options : List (String × String)
  /-- The identifier of the module, the name of the function, and whether it gets the flags. -/
  action : Option (String × String × Bool)
  deriving DecidableEq, Repr

def Command.content (c : Command) : Content where
  identifier := c.identifier
  parent := c.parent
  token := c.token
  description := c.description
  usages := c.arguments.map Argument.usage
  options := c.options.map fun o => (o.flags, o.description)
  action := c.action.map fun a => (a.binding, a.name, a.passesFlags)

section Statements

variable {c d : Command}

/-- Commands with the same statements agree about every topic. -/
theorem Command.map_text_linesAbout (hc : isIdentifier c.identifier = true)
    (hd : isIdentifier d.identifier = true)
    (h : c.statements.map Line.text = d.statements.map Line.text) (topic : Topic) :
    (c.linesAbout topic).map Line.text = (d.linesAbout topic).map Line.text := by
  have hsame := congrArg (List.filter topic.isAbout) h
  rw [List.filter_map, List.filter_map] at hsame
  rw [← filter_isAbout hc topic, ← filter_isAbout hd topic]
  exact hsame

/-- **Statements tell a command** but for what it is below and its token. -/
theorem Command.content_eq_of_statements (hc : c.Named) (hd : d.Named)
    (hidentifier : c.identifier = d.identifier) (hparent : c.parent = d.parent)
    (htoken : c.token = d.token)
    (h : c.statements.map Line.text = d.statements.map Line.text) : c.content = d.content := by
  have habout := map_text_linesAbout hc.identifier hd.identifier h
  have hdescription : c.description = d.description := by
    have hlines := habout .description
    simp only [linesAbout, descriptionLines, List.map_map, hidentifier] at hlines
    have hsame : c.description.toList.map id = d.description.toList.map id :=
      map_eq_map_of_imp hlines fun x _ y _ hxy => Line.text_around_inj hxy
    rw [List.map_id, List.map_id] at hsame
    exact eq_of_toList_eq hsame
  have husages : c.arguments.map Argument.usage = d.arguments.map Argument.usage := by
    have hlines := habout .argument
    simp only [linesAbout, List.map_map, hidentifier] at hlines
    exact map_eq_map_of_imp hlines fun x _ y _ hxy => Line.text_around_inj hxy
  have hoptions : c.options.map (fun o => (o.flags, o.description))
      = d.options.map fun o => (o.flags, o.description) := by
    have hlines := habout .option
    simp only [linesAbout, List.map_map, hidentifier] at hlines
    refine map_eq_map_of_imp hlines fun x _ y _ hxy => ?_
    obtain ⟨hflags, hdescription⟩ := OptionPlan.eq_of_text_eq hxy
    rw [hflags, hdescription]
  have haction : c.action.map (fun a => (a.binding, a.name, a.passesFlags))
      = d.action.map fun a => (a.binding, a.name, a.passesFlags) := by
    have hlines := habout .call
    simp only [linesAbout, List.map_map] at hlines
    refine eq_of_toList_eq ?_
    rw [Option.toList_map, Option.toList_map]
    refine map_eq_map_of_imp hlines fun x hx y hy hxy => ?_
    obtain ⟨hbinding, hname, hflags⟩ := Action.eq_of_text_eq
      (hc.action x (Option.mem_toList.1 hx)) (hd.action y (Option.mem_toList.1 hy)) hxy
    rw [hbinding, hname, hflags]
  rw [content, content, hidentifier, hparent, htoken, hdescription, husages, hoptions, haction]

/-- The lines of a command up to the next blank line. -/
def Command.paragraph (c : Command) : List Line := c.creationLines.tail ++ c.statements

/-- **Its paragraph tells a command** that belongs to another one. -/
theorem Command.content_eq_of_paragraph (hc : c.Named) (hd : d.Named)
    (hcparent : c.parent ≠ none) (hdparent : d.parent ≠ none)
    (hidentifier : c.identifier = d.identifier)
    (h : c.paragraph.map Line.text = d.paragraph.map Line.text) : c.content = d.content := by
  obtain ⟨parent, hp⟩ := Option.ne_none_iff_exists'.1 hcparent
  obtain ⟨parent', hp'⟩ := Option.ne_none_iff_exists'.1 hdparent
  have hparagraph {e : Command} {above : String} (he : e.parent = some above) :
      e.paragraph = e.creationLine above :: e.statements := by
    rw [paragraph, creationLines, he]
    rfl
  rw [hparagraph hp, hparagraph hp', List.map_cons, List.map_cons, List.cons.injEq] at h
  obtain ⟨hparent, htoken⟩ := Command.eq_of_text_eq (hc.parent _ hp) (hd.parent _ hp')
    hidentifier h.1
  refine content_eq_of_statements hc hd hidentifier ?_ htoken h.2
  rw [hp, hp', hparent]

end Statements

end CommandGrove
