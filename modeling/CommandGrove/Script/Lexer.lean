import CommandGrove.Script.Lexer.Gap
import CommandGrove.Script.Lexer.Number
import CommandGrove.Script.Lexer.Quoted

/-!
# The next token

The division of a source into tokens depends on what its reader expects, so tokens are read one
at a time.  Each reader here starts from an input and the offset of its first character.

## What is here

* `Scan` — a token that was read, together with the comments before it, the faults met on the way
  and the rest of the input.
* `scanToken` — reads the next token, taking `/` and `>` for operators of one character.
* `Token.rescan…` — read a token anew where the grammar wants another division: a regular
  expression, an operator that begins with `>`, a lone `<`, the continuation of a template, the
  names and strings inside markup elements.
-/

set_option autoImplicit false
namespace CommandGrove
namespace Script

open Text

/-- A token that was read. -/
structure Scan where
  token : Token
  /-- What follows the token. -/
  rest : List Char
  /-- The comments before the token, the last one first. -/
  comments : List Comment
  /-- The faults met on the way. -/
  faults : List Diagnostic

/-! ## Operators -/

/-- The operators in the order in which they are tried: no operator comes after its own
beginnings. -/
def operators : List (List Char × String) :=
  ["...", "===", "!==", "**=", "<<=", "&&=", "||=", "??=", "=>", "==", "!=", "++", "--", "+=",
   "-=", "**", "*=", "/=", "%=", "<<", "<=", "&&", "&=", "||", "|=", "^=", "??", "?.",
   "\x7b", "\x7d", "(", ")", "[", "]", ";", ",", ".", "?", ":", "=", "!", "+", "-", "*", "/",
   "%", "&", "|", "^", "~", "<", ">", "@"].map fun op => (op.toList, op)

/-- The operators that begin with `>`, longest first. -/
def angleOperators : List (List Char × String) :=
  [">>>=", ">>>", ">>=", ">>", ">=", ">"].map fun op => (op.toList, op)

/-- The first operator of a table that the input begins with. -/
def operatorIn (table : List (List Char × String)) (input : List Char) :
    Option (String × Nat × List Char) :=
  (table.find? fun op => op.1.isPrefixOf input).map fun op =>
    (op.2, op.1.length, input.drop op.1.length)

/-- The operator at the front of an input.  A question mark and a fraction are not `?.`. -/
def scanOperator (input : List Char) : Option (String × Nat × List Char) :=
  match input with
  | '?' :: '.' :: d :: rest =>
    if d.isDigit then some ("?", 1, '.' :: d :: rest) else some ("?.", 2, d :: rest)
  | _ => operatorIn operators input

/-! ## Tokens -/

/-- The token of a string whose opening quote has been read. -/
def stringToken (start : Nat) (fresh : Bool) (input : List Char) (s : QuotedScan) :
    Token × List Diagnostic :=
  let stop := start + 1 + s.used
  if s.closed then
    (⟨.string (textOfUnits s.units), start, stop, fresh, input⟩,
      s.bad.reverse.map fun place => ⟨start + 1 + place, .invalidEscape⟩)
  else (⟨.malformed, start, stop, fresh, input⟩, [⟨start, .unterminated "string"⟩])

/-- The token of a stretch of a template whose first character has been read. -/
def templateToken (start : Nat) (fresh : Bool) (input : List Char) (s : QuotedScan) :
    Token × List Diagnostic :=
  let stop := start + 1 + s.used
  if s.closed || s.hole then
    let text := if s.bad.isEmpty then some (textOfUnits s.units) else none
    (⟨.template text s.closed, start, stop, fresh, input⟩, [])
  else (⟨.malformed, start, stop, fresh, input⟩, [⟨start, .unterminated "string"⟩])

/-- The token at the front of an input without a gap, what follows it, and the faults in it. -/
def scanLexeme (start : Nat) (fresh : Bool) (input : List Char) :
    Token × List Char × List Diagnostic :=
  match input with
  | [] => (⟨.finish, start, start, fresh, []⟩, [], [])
  | c :: rest =>
    let bad (used : Nat) (after : List Char) (f : Fault) : Token × List Char × List Diagnostic :=
      (⟨.malformed, start, start + used, fresh, input⟩, after, [⟨start, f⟩])
    if beginsIdentifier c || c == '\\' then
      let w := scanWord input
      if w.sound then
        (⟨.word (String.ofList w.name.reverse) w.escaped, start, start + w.used, fresh, input⟩,
          w.rest, [])
      else bad w.used w.rest .invalidEscape
    else if c.isDigit || (c == '.' && rest.head?.any Char.isDigit) then
      let (n, big) := scanNumber input
      if n.sound then
        (⟨if big then .bigInteger else .number, start, start + n.used, fresh, input⟩, n.rest, [])
      else bad n.used n.rest .invalidNumber
    else if c == '"' || c == '\'' then
      let s := scanString c rest
      let (token, faults) := stringToken start fresh input s
      (token, s.rest, faults)
    else if c == backquote then
      let s := scanTemplate rest
      let (token, faults) := templateToken start fresh input s
      (token, s.rest, faults)
    else if c == '#' then
      let w := scanWord rest
      if w.sound && !w.name.isEmpty then
        (⟨.privateName (String.ofList w.name.reverse), start, start + 1 + w.used, fresh, input⟩,
          w.rest, [])
      else bad 1 rest .unexpected
    else
      match scanOperator input with
      | some (op, used, after) => (⟨.operator op, start, start + used, fresh, input⟩, after, [])
      | none => bad 1 rest .invalidCharacter

/-- Reads the token behind the gap at the front of an input that begins at `offset`. -/
def scanToken (offset : Nat) (input : List Char) : Scan :=
  let gap := skipGap offset input
  let (token, rest, faults) := scanLexeme gap.offset gap.fresh gap.input
  match gap.unterminated with
  | some start =>
    ⟨token, rest, gap.comments, ⟨start, .unterminated "multiline comment"⟩ :: faults⟩
  | none => ⟨token, rest, gap.comments, faults⟩

/-! ## Other divisions of the same characters -/

/-- Reads a token that begins with a slash as a regular expression. -/
def Token.rescanPattern (t : Token) : Token × List Char × List Diagnostic :=
  match scanPattern false false 1 t.input.tail with
  | some (used, rest) =>
    let (flagged, after, sound) := scanFlags [] 0 rest
    (⟨.regularExpression, t.start, t.start + used + flagged, t.fresh, t.input⟩, after,
      if sound then [] else [⟨t.start + used, .invalidFlag⟩])
  | none =>
    let line := t.input.takeWhile fun c => !isLineBreak c
    (⟨.malformed, t.start, t.start + line.length, t.fresh, t.input⟩, t.input.drop line.length,
      [⟨t.start, .unterminated "regular expression"⟩])

/-- Reads a token that begins with `>` as the longest operator that does. -/
def Token.rescanAngle (t : Token) : Token × List Char :=
  match operatorIn angleOperators t.input with
  | some (op, used, rest) => (⟨.operator op, t.start, t.start + used, t.fresh, t.input⟩, rest)
  | none => (t, t.input.drop (t.stop - t.start))

/-- Reads a token as an operator of its first character alone. -/
def Token.rescanSingle (t : Token) : Token × List Char :=
  (⟨.operator (String.ofList (t.input.take 1)), t.start, t.start + 1, t.fresh, t.input⟩,
    t.input.tail)

/-- Reads the stretch of a template behind a closing brace. -/
def Token.rescanTemplate (t : Token) : Token × List Char × List Diagnostic :=
  let s := scanTemplate t.input.tail
  let (token, faults) := templateToken t.start t.fresh t.input s
  (token, s.rest, faults)

/-! ## Markup elements -/

/-- Continues the name in a word token with the hyphens and words that a name of an element may
have: the token of the whole name and what follows. -/
def Token.rescanElementName (t : Token) : Token × List Char :=
  let name := t.input.takeWhile fun c => continuesIdentifier c || c == '-'
  (⟨.word (String.ofList name) false, t.start, t.start + name.length, t.fresh, t.input⟩,
    t.input.drop name.length)

/-- Reads a token that begins with a quote as a string without escapes. -/
def Token.rescanElementString (t : Token) : Token × List Char × List Diagnostic :=
  match t.input with
  | [] => (t, [], [])
  | quote :: rest =>
    let text := rest.takeWhile (· != quote)
    match rest.drop text.length with
    | _ :: after =>
      (⟨.string (String.ofList text), t.start, t.start + text.length + 2, t.fresh, t.input⟩, after,
        [])
    | [] =>
      (⟨.malformed, t.start, t.start + text.length + 1, t.fresh, t.input⟩, [],
        [⟨t.start, .unterminated "string"⟩])

end Script
end CommandGrove
