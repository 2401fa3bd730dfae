import CommandGrove.Script.Grammar.Element
import CommandGrove.Script.Grammar.Stmt

/-!
# Reading whole sources

The rules of the grammar are tied together on the depth that is left: a rule reaches the others
one level deeper, and every step down has read at least one character, so the length of a source
bounds the depth.

## What is here

* `Rule.parser`, `rulesAt` — the grammar function of each rule, and all of them tied together.
* `Dialect` — the kinds of sources: whether markup elements are part of the language, and whether
  the source is a module or the body of a function.
* `Program.parse` — reads a source, or gives the diagnostics that speak against it.
-/

set_option autoImplicit false
namespace CommandGrove
namespace Script

/-! ## Tying the rules together -/

/-- The grammar function of a rule. -/
def Rule.parser : (r : Rule) → Parser r.Result
  | .type => typeRule
  | .typeOperand => typeOperandRule
  | .pattern => patternRule
  | .parameters owner => parametersRule owner
  | .assignment typed => assignmentRule typed
  | .binary level => binaryRule level
  | .unary => unaryRule
  | .constructed => constructedRule
  | .leftHand => leftHandRule
  | .statement single => statementRule single
  | .element inner => elementRule inner

/-- All rules, to a given depth. -/
def rulesAt (markup : Bool) : Nat → (r : Rule) → Context → State →
    Except (List Diagnostic) (r.Result × State)
  | 0, _, _, s => .error (s.diagnostics ++ [⟨s.token.start, .tooDeep⟩])
  | depth + 1, r, context, s => r.parser ⟨rulesAt markup depth, depth, context, markup⟩ s

/-! ## Sources -/

/-- The kinds of sources. -/
structure Dialect where
  /-- Markup elements are part of the language. -/
  markup : Bool
  /-- The source is a module; otherwise it is read as the body of a function. -/
  module : Bool
  deriving DecidableEq, Repr

/-- What is allowed at the top of a source. -/
def Dialect.context (d : Dialect) : Context where
  inOperator := true
  await := d.module
  yield := false
  returns := !d.module
  ambient := false
  decorator := false
  plainTypes := false

/-- The length of the line that tells a system how to run the source, if it begins with one. -/
def directiveLength (source : List Char) : Nat :=
  match source with
  | '#' :: '!' :: rest => 2 + (rest.takeWhile fun c => !isLineBreak c).length
  | _ => 0

/-- The state before the first token of a source. -/
def State.initial (source : List Char) : State :=
  let skipped := directiveLength source
  let scan := scanToken skipped (source.drop skipped)
  { token := scan.token, rest := scan.rest, last := 0, comments := scan.comments,
    lexical := scan.faults.reverse, reported := [], pending := [] }

/-- Reads statements up to the end of the source. -/
def allStatements : Parser (List Stmt) :=
  whileMore (do return !(← peek).isDead) (parse (.statement false))

/-- Reads a source.  It is refused if any fault is found in it. -/
def Program.parse (d : Dialect) (source : List Char) : Except (List Diagnostic) Program :=
  let depth := 4 * source.length + 64
  match allStatements ⟨rulesAt d.markup depth, depth, d.context, d.markup⟩ (.initial source) with
  | .error faults => .error faults
  | .ok (body, s) =>
    let pending := s.pending.reverse.map fun place =>
      (⟨place, .notAllowed "Invalid assignment in object literal"⟩ : Diagnostic)
    match s.diagnostics ++ pending with
    | [] => .ok ⟨body, s.comments.reverse⟩
    | faults => .error faults

end Script
end CommandGrove
