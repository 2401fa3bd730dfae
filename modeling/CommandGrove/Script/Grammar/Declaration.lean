import CommandGrove.Script.Grammar.ClassBody
import CommandGrove.Script.Grammar.Expr

/-!
# The grammar of declarations

## What is here

* `variableDeclaration`, `functionDeclaration` — variables and functions.
* `enumDeclaration`, `interfaceDeclaration`, `aliasDeclaration`, `spaceDeclaration`,
  `importAlias` — the declarations that only types know.
* `declarationModifiers`, `declaration` — any declaration with the words before it.
* `atDeclaration` — whether a word begins a declaration.
-/

set_option autoImplicit false
namespace CommandGrove
namespace Script

/-! ## Variables -/

/-- A variable that was read, with the place where its initial value is missing, if it has to
have one. -/
structure DeclaratorRead where
  declarator : Declarator
  missing : Option Nat

/-- Reads a variable. -/
def declarator (kind : VariableKind) : Parser DeclaratorRead := do
  let t ← peek
  let pattern ← parse .pattern
  let named := match pattern with
    | .identifier _ => true
    | _ => false
  let stop ← lastEnd
  if named && (← sees "!") && !(← atLineStart) then bump
  let _ ← eat "?"
  let _ ← typeAnnotation
  if ← eat "=" then return ⟨⟨pattern, some (← parse (.assignment true))⟩, none⟩
  let missing :=
    if !named then some t.start
    else if kind == .const || kind == .using then some stop
    else none
  return ⟨⟨pattern, none⟩, missing⟩

/-- Reports the variables that have no initial value and need one. -/
def checkInitials : List DeclaratorRead → Parser Unit
  | [] => pure ()
  | d :: rest => do
    match d.missing with
    | some place => if !(← context).ambient then report place .missingInitializer
    | none => pure ()
    checkInitials rest

/-- Reads variables with commas between them. -/
def declarators (kind : VariableKind) : Parser (List DeclaratorRead) := do
  let first ← declarator kind
  let more ← whileMore (sees ",") (do
    bump
    declarator kind)
  pure (first :: more)

/-- The kind of variables that a keyword announces. -/
def variableKind (t : Token) : VariableKind :=
  if t.is "var" then .var
  else if t.is "let" then .let
  else if t.is "using" then .using
  else .const

/-- Reads a declaration of variables from its keyword on. -/
def variableDeclaration (start : Nat) : Parser Stmt := do
  let kind := variableKind (← peek)
  bump
  let found ← within (fun c => { c with inOperator := true }) (declarators kind)
  checkInitials found
  endStatement
  pure (.variable start kind (found.map (·.declarator)))

/-! ## Functions -/

/-- Reads a function declaration from the word `function` on; an `ambient` one has no body. -/
def functionDeclaration (start : Nat) (async single ambient : Bool) : Parser Stmt := do
  expect "function"
  let generator ← eat "*"
  let t ← peek
  let name ←
    if t.isName then some <$> bindingName
    else
      if t.is "(" then report t.start (.notAllowed "Expected function name")
      else unexpected
      pure none
  if single && (async || generator) then
    report start (.notAllowed "Async and generator functions cannot stand alone under a condition")
  let demand := if ambient then BodyDemand.absent else .optional
  return .function start (← callableRest name async generator false demand)

/-! ## Declarations of types -/

/-- The expression is a template without anything to fill in. -/
def Expr.isPlainText : Expr → Bool
  | .template _ holes => holes.isEmpty
  | _ => false

/-- Reads an enumeration from its keyword on. -/
def enumDeclaration : Parser Stmt := do
  expect "enum"
  let _ ← bindingName
  let members ← bracketed openBrace closeBrace (do
    let t ← peek
    if t.isNumeric then
      failAt t.start (.notAllowed "An enum member cannot have a numeric name.")
    if t.isTemplate then
      failAt t.start (.notAllowed "Computed property names are not allowed in enums.")
    let key ← propertyKey false
    match key with
    | .other _ (some value) =>
      if !value.isPlainText then
        failAt t.start (.notAllowed "Computed property names are not allowed in enums.")
    | _ => pure ()
    if ← eat "=" then return [Stmt.expression (← parse (.assignment true))] else return [])
  pure (.compound .declaration members.flatten)

/-- Reads an interface from its keyword on. -/
def interfaceDeclaration : Parser Stmt := do
  expect "interface"
  let _ ← bindingName
  let _ ← typeParameters
  if ← eat "extends" then
    let _ ← typeReference
    let _ : List TypeExpr ← whileMore (sees ",") (do
      bump
      typeReference)
  if ← sees "implements" then
    report (← position) (.notAllowed "Interface declaration cannot have 'implements' clause.")
    bump
    let _ ← typeReference
  let _ ← typeMembers
  pure (.compound .declaration [])

/-- Reads a name for a type from the word `type` on. -/
def aliasDeclaration : Parser Stmt := do
  expect "type"
  let _ ← bindingName
  let _ ← typeParameters
  expect "="
  let _ ← parse .type
  endStatement
  pure (.compound .declaration [])

/-- Reads the statements of a namespace, braces included. -/
def spaceBody : Parser (List Stmt) := do
  expect openBrace
  let body ← within (fun c => { c with inOperator := true, decorator := false }) statements
  expect closeBrace
  pure body

/-- Reads a namespace or the description of a module from its keyword on. -/
def spaceDeclaration : Parser Stmt := do
  if ← eat "global" then return .compound .space (← spaceBody)
  bump
  if (← peek).isString then
    advance
    if ← sees openBrace then return .compound .space (← spaceBody)
    endStatement
    return .compound .space []
  let _ ← bindingName
  let _ : List String ← whileMore (sees ".") (do
    bump
    wordName)
  return .compound .space (← spaceBody)

/-- Reads `= require("…")` or `= A.B` behind a name. -/
def importAlias : Parser Stmt := do
  expect "="
  if (← sees "require") && (← peekNext).is "(" then
    bump
    expect "("
    if (← peek).isString then advance else unexpected
    expect ")"
  else
    let _ ← dottedName
  endStatement
  pure (.compound .declaration [])

/-! ## Any declaration -/

/-- The next token is a modifier of a declaration. -/
def atDeclarationModifier : Parser Bool := do
  let t ← peek
  if !t.isAny modifierWords then return false
  let next ← peekNext
  if t.is "const" then return next.is "enum"
  if t.isAny ["static", "accessor"] then return next.followsModifier
  return !next.fresh && next.followsModifier

/-- Reads the modifiers before a declaration. -/
def declarationModifiers : Parser (List Modifier) :=
  iterate (β := List Modifier) (fun found => do
    if ← atDeclarationModifier then
      let t ← peek
      bump
      return .inl (⟨t.describe, t.start⟩ :: found)
    else return .inr found.reverse) []

/-- Reads a declaration behind its modifiers, which began at `start`. -/
def declaration (start : Nat) (found : List Modifier) : Parser Stmt := do
  let t ← peek
  let allowed (more : List String) := checkModifiers ("declare" :: more) found
  if t.isAny ["var", "let", "const"] then
    allowed []
    variableDeclaration start
  else if t.is "class" then
    allowed ["abstract"]
    return .compound .declaration
      [.expression (.compound .classBody (← classRest (hasModifier found "declare") []))]
  else if t.is "function" then
    allowed ["async"]
    functionDeclaration start (hasModifier found "async") false (hasModifier found "declare")
  else if t.is "enum" then
    allowed ["const"]
    enumDeclaration
  else if t.is "interface" then
    allowed []
    interfaceDeclaration
  else if t.is "type" then
    allowed []
    aliasDeclaration
  else if t.isAny ["namespace", "module", "global"] then
    allowed []
    spaceDeclaration
  else if t.is "import" then
    allowed []
    bump
    let _ ← eat "type"
    let _ ← bindingName
    importAlias
  else unexpected

/-- Reads a declaration with the modifiers before it. -/
def modifiedDeclaration : Parser Stmt := do
  let start ← position
  let found ← declarationModifiers
  let ambient := hasModifier found "declare"
  within (fun c => { c with ambient := c.ambient || ambient }) (declaration start found)

/-- The words that begin with a declaration behind any modifiers. -/
def atDeclaration : Parser Bool := lookahead <|
  iterate (β := Unit) (fun _ => do
    let t ← peek
    if t.isAny ["var", "let", "const", "function", "class", "enum"] then return .inr true
    if t.isAny ["interface", "type"] then
      let next ← peekNext
      return .inr (next.isName && !next.fresh)
    if t.isAny ["module", "namespace"] then
      let next ← peekNext
      return .inr (!next.fresh && (next.isName || next.isString))
    if t.isAny ["abstract", "accessor", "async", "declare", "private", "protected", "public",
        "readonly"] then
      advance
      if ← atLineStart then return .inr false
      return .inl ()
    if t.is "global" then
      let next ← peekNext
      return .inr (next.isAny [openBrace, "export"] || (next.isWord && !isKeyword next.describe))
    if t.is "import" then
      let next ← peekNext
      return .inr (next.isString || next.isAny ["*", openBrace] || next.isName)
    if t.is "export" then
      return .inr ((← peekNext).isAny ["=", "*", "default", openBrace, "@", "as"])
    if t.is "static" then
      advance
      return .inl ()
    return .inr false) ()

end Script
end CommandGrove
