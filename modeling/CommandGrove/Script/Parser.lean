import CommandGrove.Script.Lexer
import CommandGrove.Script.Syntax

/-!
# Parsers over tokens

A parser reads tokens from the front of a state and may fail.  The grammar is a family of rules
that call each other; a parser reaches the rules through its environment, which holds them one
level deeper, so each grammar function is an ordinary definition and the only recursion is the one
that ties the rules together, on the depth that is left.

Faults are of two kinds.  A fault that leaves the source readable is reported and reading goes on;
any other fault ends the reading.  Faults inside tokens come first in the list of diagnostics.

## What is here

* `Rule`, `Rule.Result` — the rules of the grammar and what each of them reads.
* `Context` — what is allowed where a parser stands.
* `State`, `Env`, `Parser` — the state of a reading, its surroundings, and parsers.
* `advance`, `eat`, `expect`, `unexpected`, `report` — the steps of every parser.
* `attempt`, `lookahead`, `iterate`, `delimited` — the ways to combine them.
-/

set_option autoImplicit false
namespace CommandGrove
namespace Script

/-! ## Rules -/

/-- The rules of the grammar that stand inside one another. -/
inductive Rule where
  | type
  /-- A type without `|`, `&` and conditions at its top. -/
  | typeOperand
  | pattern
  /-- The parameters of a function, from `(` to `)`; `owner` is a constructor. -/
  | parameters (owner : Bool)
  /-- An assignment or anything that binds tighter; `typed` allows a return type on an arrow
  function. -/
  | assignment (typed : Bool)
  /-- Operands joined by operators that bind tighter than `level`. -/
  | binary (level : Nat)
  | unary
  /-- The operand of `new`. -/
  | constructed
  /-- A value with the members and calls behind it. -/
  | leftHand
  /-- A statement; `single` where only one may stand. -/
  | statement (single : Bool)
  /-- A markup element; `inner` if it is a child of another. -/
  | element (inner : Bool)

/-- What a rule reads. -/
def Rule.Result : Rule → Type
  | .type | .typeOperand => TypeExpr
  | .pattern => Pattern
  | .parameters _ => List Param × Option RestParam
  | .assignment _ | .binary _ | .unary | .constructed | .leftHand
  | .element _ => Expr
  | .statement _ => Stmt

/-- What is allowed where a parser stands. -/
structure Context where
  /-- `in` is an operator. -/
  inOperator : Bool
  /-- `await` is an operator. -/
  await : Bool
  /-- `yield` is an operator. -/
  yield : Bool
  /-- A `return` may stand here. -/
  returns : Bool
  /-- Declarations describe something that exists elsewhere. -/
  ambient : Bool
  /-- A bracket begins the next class member. -/
  decorator : Bool
  /-- `extends` does not begin a conditional type. -/
  plainTypes : Bool

/-! ## States -/

/-- How far a reading has come. -/
structure State where
  /-- The next token. -/
  token : Token
  /-- What follows the next token. -/
  rest : List Char
  /-- Where the token before ended. -/
  last : Nat
  /-- The comments met so far, the last one first. -/
  comments : List Comment
  /-- The faults inside tokens, the last one first. -/
  lexical : List Diagnostic
  /-- The other faults reported, the last one first. -/
  reported : List Diagnostic
  /-- Where properties stand that only a pattern may have. -/
  pending : List Nat

/-- The diagnostics of a reading that got this far, in order. -/
def State.diagnostics (s : State) : List Diagnostic := s.lexical.reverse ++ s.reported.reverse

/-- What surrounds a parser: the rules one level deeper, how many levels are left, what is
allowed, and whether markup elements are part of the language. -/
structure Env where
  rules : (r : Rule) → Context → State → Except (List Diagnostic) (r.Result × State)
  depth : Nat
  context : Context
  markup : Bool

/-- A parser: it fails with the diagnostics of the whole reading. -/
abbrev Parser (α : Type) := ReaderT Env (StateT State (Except (List Diagnostic))) α

/-! ## Steps -/

/-- The next token. -/
def peek : Parser Token := fun _ s => .ok (s.token, s)

/-- The next token is this keyword or operator. -/
def sees (text : String) : Parser Bool := fun _ s => .ok (s.token.is text, s)

/-- What is allowed here. -/
def context : Parser Context := fun e s => .ok (e.context, s)

/-- Reads `p` where something else is allowed. -/
def within {α : Type} (change : Context → Context) (p : Parser α) : Parser α := fun e s =>
  p { e with context := change e.context } s

/-- Reads by a rule of the grammar. -/
def parse (r : Rule) : Parser r.Result := fun e s => e.rules r e.context s

/-- Puts a scanned token in front. -/
def State.push (s : State) (token : Token) (rest : List Char) (faults : List Diagnostic) : State :=
  { s with token := token, rest := rest, lexical := faults.reverse ++ s.lexical }

/-- The state behind the next token. -/
def State.next (s : State) : State :=
  let scan := scanToken s.token.stop s.rest
  { s with
    token := scan.token, rest := scan.rest, last := s.token.stop,
    comments := scan.comments ++ s.comments, lexical := scan.faults.reverse ++ s.lexical }

/-- Goes behind the next token, which is taken for a name. -/
def advance : Parser Unit := fun _ s => .ok ((), s.next)

/-- Reports a fault and goes on. -/
def report (offset : Nat) (fault : Fault) : Parser Unit := fun _ s =>
  .ok ((), { s with reported := ⟨offset, fault⟩ :: s.reported })

/-- Ends the reading with a fault at `offset`. -/
def failAt {α : Type} (offset : Nat) (fault : Fault) : Parser α := fun _ s =>
  .error (s.diagnostics ++ [⟨offset, fault⟩])

/-- Ends the reading because the next token does not fit.  Where no token could be read, the fault
inside the token is the reason. -/
def unexpected {α : Type} : Parser α := fun _ s =>
  match s.token.isDead, s.lexical with
  | true, d :: ds => .error (ds.reverse ++ s.reported.reverse ++ [d])
  | _, _ => .error (s.diagnostics ++ [⟨s.token.start, .unexpected⟩])

/-- Goes behind the next token, which is taken for a keyword or an operator. -/
def bump : Parser Unit := do
  let t ← peek
  if t.isEscapedKeyword then report t.start .escapedKeyword
  advance

/-- Goes behind the next token if it is this keyword or operator. -/
def eat (text : String) : Parser Bool := do
  if (← peek).is text then
    bump
    pure true
  else pure false

/-- The next token has to be this keyword or operator. -/
def require (text : String) : Parser Unit := do
  let t ← peek
  if !t.is text then failAt t.start (.expected text t.describe)

/-- Goes behind this keyword or operator. -/
def expect (text : String) : Parser Unit := do
  require text
  bump

/-- The next token begins a line. -/
def atLineStart : Parser Bool := fun _ s => .ok (s.token.fresh, s)

/-- Where the next token begins. -/
def position : Parser Nat := fun _ s => .ok (s.token.start, s)

/-- Where the token before ended. -/
def lastEnd : Parser Nat := fun _ s => .ok (s.last, s)

/-! ## Braces

A brace in a string would begin an expression, so the two have names. -/

/-- The operator `{`. -/
def openBrace : String := "\x7b"

/-- The operator `}`. -/
def closeBrace : String := "\x7d"

/-! ## Combinations -/

/-- Reads `p` if that is possible, and otherwise nothing. -/
def attempt {α : Type} (p : Parser α) : Parser (Option α) := fun e s =>
  match p e s with
  | .ok (a, after) => .ok (some a, after)
  | .error _ => .ok (none, s)

/-- Reads `p`, and goes back if it gives nothing. -/
def unlessRejected {α : Type} (p : Parser (Option α)) : Parser (Option α) := fun e s =>
  match p e s with
  | .ok (some a, after) => .ok (some a, after)
  | .ok (none, _) => .ok (none, s)
  | .error ds => .error ds

/-- What `p` would answer here; no if it cannot be read. -/
def lookahead (p : Parser Bool) : Parser Bool := fun e s =>
  match p e s with
  | .ok (b, _) => .ok (b, s)
  | .error _ => .ok (false, s)

/-- The token behind the next one. -/
def peekNext : Parser Token := fun _ s => .ok (s.next.token, s)

/-- Repeats `step` until it gives a result, at most `n` times. -/
def iterateUpTo {α β : Type} (step : β → Parser (β ⊕ α)) : Nat → β → Parser α
  | 0, _ => do failAt (← position) .tooDeep
  | n + 1, b => do
    match ← step b with
    | .inl next => iterateUpTo step n next
    | .inr a => pure a

/-- Repeats `step` until it gives a result. -/
def iterate {α β : Type} (step : β → Parser (β ⊕ α)) (b : β) : Parser α := fun e s =>
  iterateUpTo step e.depth b e s

/-- Reads items by `item` while `more` holds. -/
def whileMore {α : Type} (more : Parser Bool) (item : Parser α) : Parser (List α) :=
  iterate (β := List α) (fun items => do
    if ← more then return .inl ((← item) :: items)
    else return .inr items.reverse) []

/-- Reads items with commas between them up to `close`, which is left to be read; a comma may
follow the last item, and its offset is given. -/
def delimited {α : Type} (close : String) (item : Parser α) : Parser (List α × Option Nat) :=
  iterate (β := List α) (fun items => do
    let t ← peek
    if t.is close || t.isDead then return .inr (items.reverse, none)
    if !items.isEmpty then
      if !t.is "," then failAt t.start (.expected ("`, ` or `" ++ close) t.describe)
      bump
      if (← peek).is close then return .inr (items.reverse, some t.start)
    return .inl ((← item) :: items)) []

/-- Reads items in brackets. -/
def bracketed {α : Type} (opening close : String) (item : Parser α) : Parser (List α) := do
  expect opening
  let (items, _) ← delimited close item
  expect close
  pure items

/-- Items before a rest item, and the rest item. -/
structure WithRest (α β : Type) where
  items : List α
  rest : Option β

/-- Reads items with commas between them up to `close`, where a last item may begin with dots. -/
def delimitedWithRest {α β : Type} (close : String) (item : Parser α) (restItem : Parser β) :
    Parser (WithRest α β) :=
  iterate (β := List α × Option (Nat × β)) (fun (items, rest) => do
    let t ← peek
    let done := WithRest.mk items.reverse (rest.map (·.2))
    if t.is close || t.isDead then return .inr done
    if !items.isEmpty || rest.isSome then
      if !t.is "," then failAt t.start (.expected ("`, ` or `" ++ close) t.describe)
      bump
      if (← peek).is close then
        if rest.isSome && !(← context).ambient then
          report t.start (.notAllowed "A rest element must not have a trailing comma")
        return .inr done
    match rest with
    | some (start, _) =>
      report start (.notAllowed "A rest element must be last")
    | none => pure ()
    let t ← peek
    if t.is "..." then return .inl (items, some (t.start, ← restItem))
    else return .inl ((← item) :: items, rest)) ([], none)

/-! ## Semicolons -/

/-- A statement may end here without a semicolon. -/
def mayEndStatement : Parser Bool := do
  let t ← peek
  pure (t.fresh || t.is ";" || t.is closeBrace || t.lexeme == .finish)

/-- Reads the end of a statement: a semicolon, or nothing where none is needed. -/
def endStatement : Parser Unit := do
  if ← eat ";" then pure ()
  else if ← mayEndStatement then pure ()
  else failAt (← lastEnd) .missingSeparator

/-! ## Tokens read anew -/

/-- Takes the operators that begin with `>` together. -/
def joinAngles : Parser Token := fun _ s =>
  if s.token.is ">" then
    let (token, rest) := s.token.rescanAngle
    .ok (token, s.push token rest [])
  else .ok (s.token, s)

/-- Takes an operator that begins with `<` or `>` for its first character alone. -/
def splitAngle : Parser Token := fun _ s =>
  if s.token.isAny ["<<", "<<=", "<=", ">>", ">>>", ">>=", ">>>=", ">="] then
    let (token, rest) := s.token.rescanSingle
    .ok (token, s.push token rest [])
  else .ok (s.token, s)

/-- Takes the token at a slash for a regular expression. -/
def rescanPattern : Parser Token := fun _ s =>
  let (token, rest, faults) := s.token.rescanPattern
  .ok (token, s.push token rest faults)

/-- Takes the token at a closing brace for the continuation of a template. -/
def rescanTemplate : Parser Token := fun _ s =>
  let (token, rest, faults) := s.token.rescanTemplate
  .ok (token, s.push token rest faults)

/-- The source from `start` up to the end of the token before; `input` is the source from `start`
on. -/
def rawSince (start : Nat) (input : List Char) : Parser String := do
  pure (String.ofList (input.take ((← lastEnd) - start)))

end Script
end CommandGrove
