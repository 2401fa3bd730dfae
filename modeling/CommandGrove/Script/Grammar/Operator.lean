import CommandGrove.Script.Parser

/-!
# Operators between values

## What is here

* `operatorLevel` — how tightly an operator between two values binds.
* `Token.beginsExpression` — whether a token can begin an expression.
* `expression` — expressions with commas between them.
-/

set_option autoImplicit false
namespace CommandGrove
namespace Script

/-- The level of the comparisons. -/
def relationLevel : Nat := 8

/-- How tightly an operator between two values binds, if the token is one. -/
def operatorLevel (t : Token) : Option Nat :=
  if t.is "??" then some 1
  else if t.is "||" then some 2
  else if t.is "&&" then some 3
  else if t.is "|" then some 4
  else if t.is "^" then some 5
  else if t.is "&" then some 6
  else if t.isAny ["==", "!=", "===", "!=="] then some 7
  else if t.isAny ["<", ">", "<=", ">=", "instanceof", "in", "as", "satisfies"] then
    some relationLevel
  else if t.isAny ["<<", ">>", ">>>"] then some 9
  else if t.isAny ["+", "-"] then some 10
  else if t.isAny ["*", "/", "%"] then some 11
  else if t.is "**" then some 12
  else none

/-- The token is an operator between two values. -/
def Token.isBinaryOperator (t : Token) : Bool := (operatorLevel t).isSome

/-- An expression can begin with the token. -/
def Token.beginsExpression (t : Token) : Bool :=
  t.isName || t.isNumeric || t.isString || t.isTemplate || t.isPrivateName || t.isBinaryOperator ||
    t.isAny ["this", "super", "null", "true", "false", "(", "[", openBrace, "function", "class",
      "new", "/", "/=", "import", "delete", "void", "typeof", "+", "-", "~", "!", "++", "--", "<",
      "@"]

/-- Reads expressions with commas between them. -/
def expression : Parser Expr := do
  let first ← parse (.assignment true)
  if !(← peek).is "," then return first
  let parts ← iterate (β := List Expr) (fun parts => do
    if ← eat "," then return .inl ((← parse (.assignment true)) :: parts)
    else return .inr parts.reverse) [first]
  return .compound .sequence parts

end Script
end CommandGrove
