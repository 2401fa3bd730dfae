import CommandGrove.Plan
import CommandGrove.Plan.OfTree
import CommandGrove.Text.Quoted

/-!
# The source of a planned program

A program is written line by line.  A line is made of fragments, which are code as it stands or
texts to be quoted, so that nothing from outside can end up as code.

## What is here

* `Fragment`, `Line` — the pieces of a source, and `Line.chars`, their characters.
* `Plan.lines` — the lines of the program: what it begins with, its commands and the call that
  runs it.
* `Plan.render` — the source of a planned program.
-/

set_option autoImplicit false
namespace CommandGrove

/-! ## Lines -/

/-- A piece of a line. -/
inductive Fragment where
  /-- Code as it stands. -/
  | code (text : String)
  /-- A text that becomes a string literal. -/
  | quoted (text : String)
  deriving DecidableEq, Repr

/-- The characters of a piece. -/
def Fragment.chars : Fragment → List Char
  | .code text => text.toList
  | .quoted text => Text.quote text.toList

/-- A line: how deep it is indented, and its pieces. -/
structure Line where
  depth : Nat
  fragments : List Fragment
  deriving DecidableEq, Repr

/-- The characters of a line, its end included. -/
def Line.chars (l : Line) : List Char :=
  List.replicate (2 * l.depth) ' ' ++ l.fragments.flatMap Fragment.chars ++ ['\n']

/-- A line without anything. -/
def blankLine : Line := ⟨0, []⟩

/-- A line of code. -/
def codeLine (depth : Nat) (text : String) : Line := ⟨depth, [.code text]⟩

/-! ## What programs begin with -/

/-- The line that imports a module. -/
def Import.line (i : Import) : Line :=
  ⟨0, [.code ("import * as " ++ i.binding ++ " from "), .quoted i.specifier, .code ";"]⟩

/-- The function that converts words to values. -/
def conversionLines : List Line :=
  [ ⟨0, [.code "const __fliTruthy = new Set([", .quoted "true", .code ", ", .quoted "1",
      .code ", ", .quoted "on", .code "]);"]⟩,
    blankLine,
    codeLine 0 "function __fliCoerce(value: unknown, kind: string): unknown \x7b",
    codeLine 1 "if (value === undefined) return value;",
    ⟨1, [.code "if (kind === ", .quoted "number", .code ") return Number(value);"]⟩,
    ⟨1, [.code "if (kind === ", .quoted "boolean",
      .code ") return __fliTruthy.has(String(value));"]⟩,
    codeLine 1 "return value;",
    codeLine 0 "\x7d" ]

/-- The lines in front of the commands. -/
def Plan.prelude (p : Plan) : List Line :=
  [ codeLine 0 "// Generated by fli. Do not edit.",
    ⟨0, [.code "import \x7b Command \x7d from ", .quoted "commander", .code ";"]⟩ ] ++
  p.imports.map Import.line ++ [blankLine] ++ conversionLines ++
  [ blankLine,
    codeLine 0 ("const " ++ rootIdentifier ++ " = new Command();"),
    ⟨0, [.code (rootIdentifier ++ ".name("), .quoted p.name, .code ");"]⟩ ]

/-! ## Values -/

/-- The expression for a value of this kind, made from the word that an expression reads. -/
def convert (read : List Fragment) (kind : ValueKind) : List Fragment :=
  if kind.isConverted then
    [.code "__fliCoerce("] ++ read ++ [.code ", ", .quoted kind.name, .code ")"]
  else read

/-- The expression that reads the word at a place. -/
def wordAt (index : Nat) : List Fragment := [.code ("positional[" ++ toString index ++ "]")]

/-- The fragments of several expressions with commas between them. -/
def commaSeparated : List (List Fragment) → List Fragment
  | [] => []
  | [e] => e
  | e :: rest => e ++ .code ", " :: commaSeparated rest

/-- The expression for what a function gets from the words on the command line. -/
def Input.expression? : Input → Option (List Fragment)
  | .none => Option.none
  | .scalar kind => some (convert (wordAt 0) kind)
  | .variadic element =>
    some ([.code "(positional[0] ?? []).map((value: unknown) => "] ++
      convert [.code "value"] element ++ [.code ")"])
  | .tuple kinds =>
    some (.code "[" :: commaSeparated (kinds.zipIdx.map fun (kind, i) => convert (wordAt i) kind) ++
      [.code "]"])

/-- The expression for the value of an option.  The reader of the command line keeps the opposite
of an option that switches something off. -/
def OptionPlan.value (o : OptionPlan) : List Fragment :=
  let read : List Fragment := [.code "raw[", .quoted o.key, .code "]"]
  match o.negated, o.kind with
  | true, .boolean => read ++ [.code " === false"]
  | true, kind => read ++ [.code " === true ? undefined : "] ++ convert read kind
  | false, .number => read ++ [.code " === undefined ? undefined : "] ++ convert read .number
  | false, _ => read

/-! ## Commands -/

/-- The line for a field of the flags. -/
def OptionPlan.fieldLine (o : OptionPlan) : Line :=
  ⟨2, .quoted o.field :: .code ": " :: o.value ++ [.code ","]⟩

/-- The lines that collect the flags. -/
def flagLines (options : List OptionPlan) : List Line :=
  if options.isEmpty then [codeLine 1 "const flags = \x7b\x7d;"]
  else
    codeLine 1 "const flags = \x7b" :: options.map OptionPlan.fieldLine ++ [codeLine 1 "\x7d;"]

/-- The lines that make the input from the words on the command line. -/
def Input.lines (input : Input) : List Line :=
  match input.expression? with
  | some e =>
    [ codeLine 1 ("const positional = received.slice(0, " ++ toString input.arguments ++ ");"),
      ⟨1, .code "const input = " :: e ++ [.code ";"]⟩ ]
  | Option.none => []

/-- The values that a function is called with, the receiver first. -/
def Action.callArguments (a : Action) : String :=
  let input := a.input.expression?.isSome
  "\x7b options: raw \x7d" ++
    if a.passesFlags then (if input then ", input" else ", undefined") ++ ", flags"
    else if input then ", input" else ""

/-- The lines for what a command with these options does. -/
def Action.lines (a : Action) (identifier : String) (options : List OptionPlan) : List Line :=
  [ codeLine 0 (identifier ++ ".action(async (...received: any[]) => \x7b"),
    codeLine 1 "const command = received[received.length - 1];",
    codeLine 1 "const raw = command.opts();" ] ++
  a.input.lines ++
  (if a.passesFlags then flagLines options else []) ++
  [ ⟨1, [.code ("await " ++ a.binding ++ "["), .quoted a.name,
      .code ("].call(" ++ a.callArguments ++ ");")]⟩,
    codeLine 0 "\x7d);" ]

/-- The lines that make a command, if it belongs to another one. -/
def Command.creationLines (c : Command) : List Line :=
  match c.parent with
  | some parent =>
    [ blankLine,
      ⟨0, [.code ("const " ++ c.identifier ++ " = " ++ parent ++ ".command("), .quoted c.token,
        .code ");"]⟩ ]
  | none => []

/-- The line for the description of a command. -/
def Command.descriptionLines (c : Command) : List Line :=
  c.description.toList.map fun d =>
    ⟨0, [.code (c.identifier ++ ".description("), .quoted d, .code ");"]⟩

/-- The line for an argument. -/
def Argument.line (identifier : String) (a : Argument) : Line :=
  ⟨0, [.code (identifier ++ ".argument("), .quoted a.usage, .code ");"]⟩

/-- The line for an option. -/
def OptionPlan.line (identifier : String) (o : OptionPlan) : Line :=
  ⟨0, [.code (identifier ++ ".option("), .quoted o.flags, .code ", ", .quoted o.description,
    .code ");"]⟩

/-- The lines for a command. -/
def Command.lines (c : Command) : List Line :=
  c.creationLines ++ c.descriptionLines ++ c.arguments.map (Argument.line c.identifier) ++
    c.options.map (OptionPlan.line c.identifier) ++
    (c.action.elim [] fun a => a.lines c.identifier c.options)

/-! ## Programs -/

/-- The lines behind the commands. -/
def epilogue : List Line :=
  [blankLine, codeLine 0 ("await " ++ rootIdentifier ++ ".parseAsync(process.argv);")]

/-- The lines of a program. -/
def Plan.lines (p : Plan) : List Line := p.prelude ++ p.commands.flatMap Command.lines ++ epilogue

/-- The characters of the source of a planned program. -/
def Plan.chars (p : Plan) : List Char := p.lines.flatMap Line.chars

/-- The source of a planned program. -/
def Plan.render (p : Plan) : String := String.ofList p.chars

end CommandGrove
