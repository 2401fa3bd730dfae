import CommandGrove.Script.Grammar.Type

/-!
# The grammar of patterns, parameters and functions

## What is here

* `patternRule`, `patternWithInitial` — binding patterns.
* `parametersRule` — the parameters of a function.
* `callableRest`, `accessorRest` — a function from its type parameters on.
* `arrowKind`, `arrowHead`, `arrowBody` — arrow functions.
-/

set_option autoImplicit false
namespace CommandGrove
namespace Script

/-! ## Patterns -/

/-- Reads the value behind an equals sign. -/
def initialValue : Parser Expr :=
  within (fun c => { c with inOperator := true }) (parse (.assignment true))

/-- Reads a pattern with the value it takes where there is none. -/
def patternWithInitial : Parser Pattern := do
  let target ← parse .pattern
  if ← eat "=" then return .withDefault target (← initialValue)
  else return target

/-- Reads the dots and the pattern of a rest element. -/
def restElement : Parser Pattern := do
  expect "..."
  parse .pattern

/-- Reads the dots and the pattern of a rest element in an object pattern, which has to be a
name. -/
def restName : Parser Pattern := do
  expect "..."
  let start ← position
  let pattern ← parse .pattern
  match pattern with
  | .identifier _ => pure ()
  | _ => report start (.notAllowed "Invalid rest element: a name is expected")
  pure pattern

/-- A property in an object pattern. -/
structure PatternProperty where
  key : Option Expr
  value : Pattern

/-- Reads a property in an object pattern. -/
def patternProperty : Parser PatternProperty := do
  let t ← peek
  let key ← propertyKey false
  let computed := match key with
    | .other _ value => value
    | _ => none
  if t.isName && !(← sees ":") then
    checkName t
    let target := Pattern.identifier key.text
    if ← eat "=" then return ⟨none, .withDefault target (← initialValue)⟩
    else return ⟨none, target⟩
  expect ":"
  return ⟨computed, ← patternWithInitial⟩

/-- Reads a pattern without the value it takes where there is none. -/
def patternRule : Parser Pattern := do
  let t ← peek
  if t.is "[" then
    bump
    let found ← delimitedWithRest "]"
      (do if ← sees "," then return none else return some (← patternWithInitial)) restElement
    expect "]"
    return .array found.items found.rest
  if t.is openBrace then
    bump
    let found ← delimitedWithRest closeBrace patternProperty restName
    expect closeBrace
    return .object (found.items.filterMap (·.key)) (found.items.map (·.value) ++ found.rest.toList)
  return .identifier (← bindingName)

/-! ## Parameters -/

/-- Reads decorators. -/
def decorators : Parser (List Expr) :=
  whileMore (sees "@") (do
    bump
    within (fun c => { c with decorator := true }) (parse .leftHand))

/-- Reads a parameter. -/
def parameter (owner : Bool) : Parser Param := do
  let found ← decorators
  checkModifiers (if owner then ["public", "private", "protected", "readonly", "override"] else [])
    (← modifiers false false)
  let pattern ← parse .pattern
  let optional ← eat "?"
  let type ← typeAnnotation
  let initial ← if ← eat "=" then pure (some (← initialValue)) else pure none
  pure ⟨found, pattern, optional, type, initial⟩

/-- Reads a rest parameter. -/
def restParameter : Parser RestParam := do
  expect "..."
  let pattern ← parse .pattern
  if ← eat "?" then
    report (← lastEnd) (.notAllowed "A rest parameter cannot be optional")
  let type ← typeAnnotation
  if ← eat "=" then
    report (← lastEnd) (.notAllowed "A rest parameter cannot have an initializer")
    let _ ← initialValue
  pure ⟨pattern, type⟩

/-- Reads the parameters of a function; the receiver `this` is none of them. -/
def parametersRule (owner : Bool) : Parser (List Param × Option RestParam) := do
  expect "("
  if ← sees "this" then
    bump
    let _ ← typeAnnotation
    if !(← sees ")") then expect ","
  let found ← delimitedWithRest ")" (parameter owner) restParameter
  expect ")"
  pure (found.items, found.rest)

/-! ## Functions -/

/-- Reads statements up to a closing brace. -/
def statements : Parser (List Stmt) :=
  whileMore (do let t ← peek; pure (!(t.is closeBrace || t.isDead))) (parse (.statement false))

/-- Reads the body of a function, braces included. -/
def functionBody : Parser (List Stmt) := do
  expect openBrace
  let inBody (c : Context) : Context :=
    { c with returns := true, inOperator := true, decorator := false, plainTypes := false }
  let body ← within inBody statements
  expect closeBrace
  pure body

/-- The operators that the kind of a function allows in it. -/
def Context.inFunction (async generator : Bool) (c : Context) : Context :=
  { c with await := async, yield := generator, inOperator := true }

/-- Whether a function may be without a body. -/
inductive BodyDemand where
  | needed
  | optional
  /-- A body is a fault. -/
  | absent
  deriving DecidableEq

/-- Reads a function from its type parameters on. -/
def callableRest (name : Option String) (async generator owner : Bool) (demand : BodyDemand) :
    Parser Callable := do
  within (Context.inFunction async generator) do
    let _ ← typeParameters
    let (params, rest) ← parse (.parameters owner)
    let _ ← returnAnnotation
    let body ←
      if ← sees openBrace then
        if demand == .absent then
          report (← position)
            (.notAllowed "An implementation cannot be declared in ambient contexts.")
        pure (some (← functionBody))
      else
        if demand == .needed then require openBrace
        endStatement
        pure none
    pure ⟨name, params, rest, body⟩

/-- Reads a function that gets a value (`getter`) or sets one: the former has no parameters, and
the latter has one that is no rest. -/
def accessorRest (getter : Bool) (demand : BodyDemand) : Parser Callable := do
  let start ← position
  let f ← callableRest none false false false demand
  if getter then
    if !f.params.isEmpty || f.rest.isSome then
      report start (.notAllowed "A 'get' accessor must not have any formal parameters.")
  else if f.params.length != 1 || f.rest.isSome then
    report start (.notAllowed "A 'set' accessor must have exactly one parameter.")
  pure f

/-! ## Arrow functions -/

/-- What the first tokens tell about an arrow function. -/
inductive ArrowKind where
  | no
  | maybe
  | yes
  deriving DecidableEq

/-- What the tokens behind an opening parenthesis tell. -/
def arrowKindInside : Parser ArrowKind := do
  let second ← peek
  advance
  let third ← peek
  if second.is ")" then
    return if third.isAny [":", "=>", openBrace] then .yes else .no
  if second.isAny ["[", openBrace] then return .maybe
  if second.is "..." then return .yes
  if second.isAny modifierWords && !second.is "async" && third.isName then
    return if third.is "as" then .no else .yes
  if !second.isName && !second.is "this" then return .no
  if third.is ":" then return .yes
  if third.is "?" then
    return if (← peekNext).isAny [":", ",", "=", ")"] then .yes else .no
  if third.isAny [",", "=", ")"] then return .maybe
  return .no

/-- Whether an arrow function with parentheses or type parameters begins here. -/
def arrowKind : Parser ArrowKind := fun e s =>
  let look : Parser ArrowKind := do
    let t ← peek
    if !t.isAny ["<", "(", "async"] then return .no
    if t.is "async" then
      advance
      let next ← peek
      if next.fresh || !next.isAny ["(", "<"] then return .no
    let first ← peek
    advance
    if first.is "(" then return (← arrowKindInside)
    let second ← peek
    if !second.isName && !second.is "const" then return .no
    if !e.markup then return .maybe
    advance
    let third ← peek
    if third.is "extends" then
      return if (← peekNext).isAny ["=", ">", "/"] then .no else .yes
    return if third.isAny [",", "="] then .yes else .no
  match look e s with
  | .ok (k, _) => .ok (k, s)
  | .error _ => .ok (.no, s)

/-- An arrow function up to its arrow. -/
structure ArrowHead where
  async : Bool
  params : List Param
  rest : Option RestParam
  typed : Bool

/-- Reads the arrow. -/
def arrow : Parser Unit := do
  let t ← peek
  if t.fresh then report t.start (.notAllowed "Line terminator not permitted before arrow")
  expect "=>"

/-- Reads an arrow function up to its arrow, which is read too. -/
def arrowHead : Parser ArrowHead := do
  let async ← eat "async"
  let (params, rest, result) ← within (fun c => { c with await := c.await || async }) do
    let _ ← typeParameters
    if (← sees "(") && (← peekNext).is "this" then
      report (← position) (.notAllowed "An arrow function cannot have a 'this' parameter.")
    let (params, rest) ← parse (.parameters false)
    pure (params, rest, ← returnAnnotation)
  arrow
  pure ⟨async, params, rest, result.isSome⟩

/-- Reads the body of an arrow function. -/
def arrowBody (async typed : Bool) : Parser (List Stmt) :=
  within (fun c => { c with await := async, yield := false }) do
    if ← sees openBrace then functionBody
    else return [.expression (← parse (.assignment typed))]

/-- Reads an arrow function whose parameters stand in parentheses, if one stands here. -/
def parenthesizedArrow (typed : Bool) : Parser (Option Expr) := do
  match ← arrowKind with
  | .no => return none
  | .yes =>
    let head ← arrowHead
    let body ← arrowBody head.async true
    return some (.arrow ⟨none, head.params, head.rest, some body⟩)
  | .maybe => unlessRejected do
    match ← attempt arrowHead with
    | none => return none
    | some head =>
      let body ← arrowBody head.async typed
      -- before the colon of a condition, a type behind the parameters is its second branch
      if !typed && head.typed && !(← sees ":") then return none
      return some (.arrow ⟨none, head.params, head.rest, some body⟩)

end Script
end CommandGrove
