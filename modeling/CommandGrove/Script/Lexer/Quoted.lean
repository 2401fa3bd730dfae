import CommandGrove.Script.Lexer.Gap
import CommandGrove.Script.Lexer.Word

/-!
# Strings, templates and regular expressions

The content of a string or a template is read one character at a time by an automaton, whose
state tells how much of an escape has been seen.  A content is first a list of numbers: code
points, or surrogates that an escape named.

## What is here

* `EscapeState`, `escapeStep` — the automaton of the escapes.
* `textOfUnits` — the text that code points and surrogates write.
* `scanString`, `scanTemplate` — read the rest of a string or of a stretch of a template.
* `scanPattern`, `scanFlags` — read the rest of a regular expression.
-/

set_option autoImplicit false
namespace CommandGrove
namespace Script

open Text

/-! ## The text of code points and surrogates -/

/-- The number is the first half of a surrogate pair. -/
def isHighSurrogate (n : Nat) : Bool := 0xD800 ≤ n && n ≤ 0xDBFF

/-- The number is the second half of a surrogate pair. -/
def isLowSurrogate (n : Nat) : Bool := 0xDC00 ≤ n && n ≤ 0xDFFF

/-- Joins the halves of surrogate pairs. -/
def joinSurrogates : List Nat → List Nat
  | high :: low :: rest =>
    if isHighSurrogate high && isLowSurrogate low then
      (0x10000 + (high - 0xD800) * 0x400 + (low - 0xDC00)) :: joinSurrogates rest
    else high :: joinSurrogates (low :: rest)
  | units => units

/-- The four hexadecimal digits of a number below 2^16. -/
def fourHexDigits (n : Nat) : List Char :=
  [n / 4096 % 16, n / 256 % 16, n / 16 % 16, n % 16].map Nat.digitChar

/-- The text of code points and surrogates.  If half a surrogate pair is left alone, it is written
as the replacement character and its four digits, and so is every replacement character, so that
different contents have different texts. -/
def textOfUnits (units : List Nat) : String :=
  let joined := joinSurrogates units
  let lone := joined.any fun n => isHighSurrogate n || isLowSurrogate n
  String.ofList <| joined.flatMap fun n =>
    if isHighSurrogate n || isLowSurrogate n || (lone && n == 0xFFFD) then
      Char.ofNat 0xFFFD :: fourHexDigits n
    else [Char.ofNat n]

/-! ## Escapes -/

/-- How much of an escape has been seen. -/
inductive EscapeState where
  /-- No escape is open. -/
  | plain
  /-- A backslash. -/
  | begun
  /-- `\x` or `\u` with `left` digits to come. -/
  | digits (left value : Nat)
  /-- `\u`, before a digit or a brace. -/
  | unicode
  /-- `\u{` and digits of this value; `any` tells that there is a digit. -/
  | braced (any : Bool) (value : Nat)
  /-- `\` and octal digits of this value, of which `left` more may come; `zero` tells that the
  only one so far is a zero. -/
  | octal (zero : Bool) (left value : Nat)
  /-- A carriage return, which takes a line feed with it. -/
  | carriage

/-- What the next character of a content does: the next state, the units it adds, and whether an
escape turns out to mean nothing. -/
structure EscapeStep where
  state : EscapeState
  units : List Nat
  bad : Bool

/-- The value of a letter that stands for a control character behind a backslash. -/
def controlEscape (c : Char) : Option Nat :=
  match c with
  | 'n' => some 10
  | 't' => some 9
  | 'r' => some 13
  | 'b' => some 8
  | 'f' => some 12
  | 'v' => some 11
  | _ => none

/-- The next character outside an escape.  In a template a carriage return, alone or with a line
feed, is a line feed. -/
def plainStep (inTemplate : Bool) (c : Char) : EscapeStep :=
  if c == '\\' then ⟨.begun, [], false⟩
  else if inTemplate && c == '\r' then ⟨.carriage, [10], false⟩
  else ⟨.plain, [c.toNat], false⟩

/-- The next character behind a backslash. -/
def begunStep (inTemplate : Bool) (c : Char) : EscapeStep :=
  match controlEscape c with
  | some n => ⟨.plain, [n], false⟩
  | none =>
    if c == 'x' then ⟨.digits 2 0, [], false⟩
    else if c == 'u' then ⟨.unicode, [], false⟩
    else if c == '\r' then ⟨.carriage, [], false⟩
    else if isLineBreak c then ⟨.plain, [], false⟩
    else if c == '0' then ⟨.octal true 2 0, [], false⟩
    else if '1' ≤ c && c ≤ '7' then
      ⟨.octal false (if c ≤ '3' then 2 else 1) (c.toNat - 48), [], inTemplate⟩
    else if inTemplate && (c == '8' || c == '9') then ⟨.plain, [c.toNat], true⟩
    else ⟨.plain, [c.toNat], false⟩

/-- The next character of a content, in any state. -/
def escapeStep (inTemplate : Bool) (state : EscapeState) (c : Char) : EscapeStep :=
  let afterEscape (units : List Nat) (bad : Bool) : EscapeStep :=
    let next := plainStep inTemplate c
    ⟨next.state, units ++ next.units, bad || next.bad⟩
  match state with
  | .plain => plainStep inTemplate c
  | .begun => begunStep inTemplate c
  | .carriage => if c == '\n' then ⟨.plain, [], false⟩ else afterEscape [] false
  | .digits left value =>
    match hexDigit c with
    | some d =>
      if left ≤ 1 then ⟨.plain, [16 * value + d], false⟩
      else ⟨.digits (left - 1) (16 * value + d), [], false⟩
    | none => afterEscape [] true
  | .unicode =>
    if c == '{' then ⟨.braced false 0, [], false⟩
    else match hexDigit c with
      | some d => ⟨.digits 3 d, [], false⟩
      | none => afterEscape [] true
  | .braced any value =>
    if c == '}' then
      if any && value ≤ 0x10FFFF then ⟨.plain, [value], false⟩ else ⟨.plain, [], true⟩
    else match hexDigit c with
      | some d => ⟨.braced true (min (16 * value + d) 0x110000), [], false⟩
      | none => afterEscape [] true
  | .octal zero left value =>
    if '0' ≤ c && c ≤ '7' && 0 < left then
      ⟨.octal false (left - 1) (8 * value + (c.toNat - 48)), [], inTemplate⟩
    else afterEscape [value] (inTemplate && zero && c.isDigit)

/-- The units that an open escape stands for when the content ends. -/
def EscapeState.flush : EscapeState → List Nat
  | .octal _ _ value => [value]
  | _ => []

/-- The state in which a quote ends the content. -/
def EscapeState.mayEnd : EscapeState → Bool
  | .begun => false
  | _ => true

/-- The state in which an escape is cut off by the end of the content. -/
def EscapeState.isCut : EscapeState → Bool
  | .digits _ _ | .unicode | .braced _ _ => true
  | _ => false

/-! ## Strings -/

/-- A string or a stretch of a template that was read, from behind its first character on. -/
structure QuotedScan where
  units : List Nat
  used : Nat
  rest : List Char
  /-- Where, counted from the front of the input, escapes mean nothing. -/
  bad : List Nat
  /-- The content ends with its quote. -/
  closed : Bool
  /-- The content ends with `${`, in a template. -/
  hole : Bool

/-- Reads a string up to `quote`.  `units` and `bad` hold what was met before, last one first, and
`mark` the place of the last backslash. -/
def scanStringFrom (quote : Char) (state : EscapeState) (units bad : List Nat) (mark used : Nat)
    (input : List Char) : QuotedScan :=
  match input with
  | [] => ⟨units.reverse, used, [], bad, false, false⟩
  | c :: rest =>
    if c == quote && state.mayEnd then
      ⟨(state.flush ++ units).reverse, used + 1, rest,
        if state.isCut then mark :: bad else bad, true, false⟩
    else
      let breaks := c == '\n' || c == '\r'
      match state, breaks with
      | .plain, true | .octal _ _ _, true | .digits _ _, true | .unicode, true
      | .braced _ _, true => ⟨units.reverse, used, c :: rest, bad, false, false⟩
      | .carriage, true =>
        if c == '\n' then scanStringFrom quote .plain units bad mark (used + 1) rest
        else ⟨units.reverse, used, c :: rest, bad, false, false⟩
      | _, _ =>
        let next := escapeStep false state c
        let mark := match next.state with
          | .begun => used
          | _ => mark
        scanStringFrom quote next.state (next.units.reverse ++ units)
          (if next.bad then mark :: bad else bad) mark (used + 1) rest

/-- Reads a string from behind its opening quote on. -/
def scanString (quote : Char) (input : List Char) : QuotedScan :=
  scanStringFrom quote .plain [] [] 0 0 input

/-! ## Templates -/

/-- The character that a template begins and ends with. -/
def backquote : Char := Char.ofNat 96

/-- Reads a stretch of a template, up to its end or to a `${`. -/
def scanTemplateFrom (state : EscapeState) (units bad : List Nat) (used : Nat)
    (input : List Char) : QuotedScan :=
  match input with
  | [] => ⟨units.reverse, used, [], bad, false, false⟩
  | c :: rest =>
    let cut := if state.isCut then used :: bad else bad
    if c == backquote && state.mayEnd then
      ⟨(state.flush ++ units).reverse, used + 1, rest, cut, true, false⟩
    else
      match state.mayEnd, c, rest with
      | true, '$', '{' :: more =>
        ⟨(state.flush ++ units).reverse, used + 2, more, cut, false, true⟩
      | _, _, _ =>
        let next := escapeStep true state c
        scanTemplateFrom next.state (next.units.reverse ++ units)
          (if next.bad then used :: bad else bad) (used + 1) rest

/-- Reads a stretch of a template from behind its backquote or closing brace on. -/
def scanTemplate (input : List Char) : QuotedScan := scanTemplateFrom .plain [] [] 0 input

/-! ## Regular expressions -/

/-- Reads the pattern of a regular expression up to its closing slash: how many characters it
takes and what follows, or nothing if a line or the source ends first. -/
def scanPattern (inClass escaped : Bool) (used : Nat) (input : List Char) :
    Option (Nat × List Char) :=
  match input with
  | [] => none
  | c :: rest =>
    if isLineBreak c then none
    else if escaped then scanPattern inClass false (used + 1) rest
    else if c == '/' && !inClass then some (used + 1, rest)
    else if c == '[' then scanPattern true false (used + 1) rest
    else if c == ']' then scanPattern false false (used + 1) rest
    else scanPattern inClass (c == '\\') (used + 1) rest

/-- Reads the flags of a regular expression: how many characters they take, what follows, and
whether each is a flag that was not given before. -/
def scanFlags (seen : List Char) (used : Nat) (input : List Char) : Nat × List Char × Bool :=
  match input with
  | [] => (used, [], true)
  | c :: rest =>
    if continuesIdentifier c then
      let good := "dgimsuvy".toList.contains c && !seen.contains c
      let (used, rest, sound) := scanFlags (c :: seen) (used + 1) rest
      (used, rest, good && sound)
    else (used, c :: rest, true)

end Script
end CommandGrove
