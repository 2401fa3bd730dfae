import CommandGrove.Script.Grammar.Expr

/-!
# The grammar of markup elements

Between the tags of an element stands text, which is not divided into tokens; so a closing angle
bracket is followed either by a token or by text, as its place demands.

## What is here

* `elementRule` — an element or a fragment.
-/

set_option autoImplicit false
namespace CommandGrove
namespace Script

/-- Goes over the text behind the next token to the brace or the tag behind it. -/
def skipElementText : Parser Unit := fun _ s =>
  let text := s.rest.takeWhile fun c => c != Char.ofNat 123 && c != '<'
  let stop := s.token.stop + text.length
  let (token, rest, faults) := scanLexeme stop false (s.rest.drop text.length)
  let stray := (text.findIdx? fun c => c == '>' || c == Char.ofNat 125).toList.map fun i =>
    (⟨s.token.stop + i, .unexpected⟩ : Diagnostic)
  .ok ((), { s with
    token := token, rest := rest, last := s.token.stop,
    lexical := (stray ++ faults).reverse ++ s.lexical })

/-- Reads a name of an element or an attribute, which may hold hyphens. -/
def hyphenName : Parser String := do
  if !(← peek).isWord then unexpected
  let t ← (fun _ s =>
    let (token, rest) := s.token.rescanElementName
    .ok (token, s.push token rest []) : Parser Token)
  advance
  pure t.describe

/-- Reads the name of an element. -/
def elementName : Parser String := do
  let first ← hyphenName
  if ← eat ":" then return first ++ ":" ++ (← hyphenName)
  iterate (β := String) (fun name => do
    if ← eat "." then return .inl (name ++ "." ++ (← wordName))
    else return .inr name) first

/-- Goes behind an equals sign before the value of an attribute, where a string has no escapes. -/
def advanceToValue : Parser Unit := fun _ s =>
  let next := s.next
  match next.token.input with
  | '"' :: _ | '\'' :: _ =>
    let (token, rest, faults) := next.token.rescanElementString
    .ok ((), { next.push token rest faults with lexical := faults.reverse ++ s.lexical })
  | _ => .ok ((), next)

/-- Reads an expression in braces; the last brace is left. -/
def elementExpression : Parser (List Expr) := do
  expect openBrace
  let parts : List Expr ←
    if ← sees closeBrace then pure []
    else if ← eat "..." then pure [← parse (.assignment true)]
    else pure [← within (fun c => { c with inOperator := true, decorator := false }) expression]
  require closeBrace
  pure parts

/-- Reads an attribute. -/
def elementAttribute : Parser (List Expr) := do
  if ← sees openBrace then
    let parts ← elementExpression
    bump
    return parts
  let _ ← hyphenName
  if ← eat ":" then
    let _ ← hyphenName
  if !(← sees "=") then return []
  advanceToValue
  let t ← peek
  if t.isString then
    advance
    return []
  if t.is openBrace then
    let parts ← elementExpression
    bump
    return parts
  if t.is "<" then return [← parse (.element false)]
  unexpected

/-- Reads the closing angle bracket of an element, and goes behind it unless the element stands in
another. -/
def endElement (inner : Bool) : Parser Unit := do
  require ">"
  if !inner then bump

/-- Reads what stands between the tags of an element, up to the slash of the closing tag. -/
def elementChildren : Parser (List Expr) := do
  skipElementText
  let parts ← iterate (β := List Expr) (fun parts => do
    if ← sees openBrace then
      let more ← elementExpression
      skipElementText
      return .inl (parts ++ more)
    if ← sees "<" then
      if (← peekNext).is "/" then return .inr parts
      let child : Expr ← parse (.element true)
      skipElementText
      return .inl (parts ++ [child])
    unexpected) []
  bump
  bump
  pure parts

/-- Reads an element or a fragment. -/
def elementRule (inner : Bool) : Parser Expr := do
  expect "<"
  if ← sees ">" then
    let parts ← elementChildren
    endElement inner
    return .compound .element parts
  let name ← elementName
  let _ ← typeArgumentsHere
  let attributes ← whileMore
    (do let t ← peek; pure (!(t.isAny ["/", ">"] || t.isDead))) elementAttribute
  if ← eat "/" then
    endElement inner
    return .compound .element attributes.flatten
  require ">"
  let parts ← elementChildren
  let start ← position
  let closing ← elementName
  if closing != name then report start (.expected ("</" ++ name ++ ">") closing)
  endElement inner
  return .compound .element (attributes.flatten ++ parts)

end Script
end CommandGrove
