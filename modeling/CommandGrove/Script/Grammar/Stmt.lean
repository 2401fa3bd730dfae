import CommandGrove.Script.Grammar.Declaration

/-!
# The grammar of statements and module items

## What is here

* `statementRule` — the rule of statements, imports and exports among them.
* `importItem`, `exportItem` — what a module takes and gives.
-/

set_option autoImplicit false
namespace CommandGrove
namespace Script

/-! ## Imports -/

/-- Reads the attributes behind the source of an import, if there are any. -/
def importAttributes : Parser Unit := do
  let t ← peek
  if t.is "with" || (t.is "assert" && !t.fresh) then
    bump
    let _ ← bracketed openBrace closeBrace (do
      let t ← peek
      if t.isWord || t.isString then advance else unexpected
      expect ":"
      if (← peek).isString then advance else unexpected)

/-- Reads the name of a module, which has to stand here. -/
def moduleSource : Parser String := do
  match (← peek).lexeme with
  | .string value =>
    advance
    pure value
  | _ => unexpected

/-- A word or a string that names an export. -/
structure ExportedWord where
  text : String
  quoted : Bool
  start : Nat

/-- Reads a word or a string that names an export. -/
def exportedWord : Parser ExportedWord := do
  let t ← peek
  match t.lexeme with
  | .word name _ =>
    advance
    pure ⟨name, false, t.start⟩
  | .string value =>
    advance
    pure ⟨value, true, t.start⟩
  | _ => unexpected

/-- What an item of a list of imports or exports names. -/
structure ListedName where
  name : ExportedWord
  exported : ExportedWord
  /-- Where the word `type` stands before it as a mark. -/
  typed : Option Nat

/-- Reads an item of a list of imports or exports.  The word `type` before a name is no name, but
it may be one itself. -/
def listedName : Parser ListedName := do
  let first ← exportedWord
  let typed := first.text == "type" && !first.quoted
  let t ← peek
  if typed && (t.isWord || t.isString) then
    if t.is "as" then
      -- `type as`, `type as x`, `type as as`, `type as as x`
      let second ← exportedWord
      if ← sees "as" then
        let third ← exportedWord
        if (← peek).isWord || (← peek).isString then
          return ⟨second, ← exportedWord, some first.start⟩
        else return ⟨first, third, none⟩
      if (← peek).isWord || (← peek).isString then return ⟨first, ← exportedWord, none⟩
      return ⟨second, second, some first.start⟩
    let name ← exportedWord
    if ← eat "as" then return ⟨name, ← exportedWord, some first.start⟩
    return ⟨name, name, some first.start⟩
  if ← eat "as" then return ⟨first, ← exportedWord, none⟩
  return ⟨first, first, none⟩

/-- Reads an item of a list of imports or exports; where the whole list is about types, no item of
it is marked again. -/
def listedNameIn (typeOnly : Bool) : Parser ListedName := do
  let item ← listedName
  match item.typed with
  | some start =>
    if typeOnly then
      report start (.notAllowed "The 'type' modifier cannot be used on a name in a list of types.")
  | none => pure ()
  pure item

/-- Reads an item of a list of imports: the local name has to be free. -/
def importedName (typeOnly : Bool) : Parser Unit := do
  let item ← listedNameIn typeOnly
  if item.exported.quoted then failAt item.exported.start .unexpected
  if isReserved item.exported.text then
    failAt item.exported.start (.reservedWord item.exported.text)

/-- Reads the names that an import takes, behind a default name. -/
def importClause (typeOnly : Bool) : Parser Unit := do
  if ← eat "*" then
    expect "as"
    let _ ← bindingName
  else
    let _ ← bracketed openBrace closeBrace (importedName typeOnly)

/-- Reads an import. -/
def importItem : Parser Stmt := do
  expect "import"
  if (← peek).isString then
    advance
    importAttributes
    endStatement
    return .compound .declaration []
  let t ← peek
  let next ← peekNext
  -- `type`, `defer` and `source` stand before what they mark, and may be names themselves
  let marks :=
    (t.is "type" &&
      (next.isAny ["*", openBrace] || (next.isName && (!next.is "from")))) ||
    (t.is "defer" && next.is "*") || (t.is "source" && next.isName && !next.is "from")
  let fromName ←
    if t.is "type" && next.is "from" then lookahead do
      -- `import type from from "m"` and `import type from = …` name what is imported `from`
      advance
      advance
      pure ((← peek).isAny ["from", "="])
    else pure false
  let typeOnly := t.is "type" && (marks || fromName)
  if marks || fromName then bump
  if (← peek).isName then
    let _ ← bindingName
    if ← sees "=" then return (← importAlias)
    if ← eat "," then importClause typeOnly
  else importClause typeOnly
  expect "from"
  let _ ← moduleSource
  importAttributes
  endStatement
  return .compound .declaration []

/-! ## Exports -/

/-- Reads a list of exported names, behind the word `export`. -/
def exportList (start : Nat) (typeOnly : Bool) : Parser Stmt := do
  let items ← bracketed openBrace closeBrace (listedNameIn typeOnly)
  let source ←
    if ← eat "from" then
      let source ← moduleSource
      importAttributes
      pure (some source)
    else pure none
  if source.isNone then
    match items.find? fun item =>
        item.name.quoted || isReserved item.name.text || strictWords.contains item.name.text with
    | some item => report item.name.start (.reservedWord item.name.text)
    | none => pure ()
  endStatement
  pure (.exportNames start typeOnly
    (items.map fun item => ⟨item.name.text, item.exported.text⟩) source)

/-- Reads what follows the asterisk of an export. -/
def exportAll : Parser Stmt := do
  expect "*"
  if ← eat "as" then
    let _ ← exportedWord
  expect "from"
  let _ ← moduleSource
  importAttributes
  endStatement
  pure (.compound .declaration [])

/-- Reads what a module gives by default, behind the word `default`. -/
def defaultExport : Parser DefaultExport := do
  let t ← peek
  let next ← peekNext
  if t.is "class" then return .other (← classRest false [])
  if t.is "@" then
    let marks ← decorators
    let _ ← eat "abstract"
    return .other (← classRest false marks)
  if t.is "abstract" && next.is "class" && !next.fresh then
    bump
    return .other (← classRest false [])
  if t.is "interface" && next.isName && !next.fresh then
    let _ ← interfaceDeclaration
    return .other []
  if t.is "function" || (t.is "async" && next.is "function" && !next.fresh) then
    let async ← eat "async"
    expect "function"
    let generator ← eat "*"
    let name ← if (← peek).isName then some <$> bindingName else pure none
    return .function (← callableRest name async generator false .optional)
  let value ← parse (.assignment true)
  endStatement
  return .expression value

/-- Reads an export that begins at `start`; `marks` are decorators before it. -/
def exportItem (start : Nat) (marks : List Expr) : Parser Stmt := do
  expect "export"
  let t ← peek
  let next ← peekNext
  if t.is "import" then
    bump
    if (← sees "type") && (← peekNext).isName then bump
    let _ ← bindingName
    return .exportDeclaration start false (← importAlias)
  if t.is "=" then
    bump
    let value : Expr ← parse (.assignment true)
    endStatement
    return .expression value
  if t.is "as" && next.is "namespace" then
    bump
    bump
    let _ ← wordName
    endStatement
    return .compound .declaration []
  if t.is "default" then
    bump
    match marks with
    | [] => return .exportDefault start (← defaultExport)
    | _ =>
      let _ ← eat "abstract"
      return .exportDefault start (.other (← classRest false marks))
  if t.is "*" then return (← exportAll)
  if t.is openBrace then return (← exportList start false)
  if t.is "type" && next.is openBrace then
    bump
    return (← exportList start true)
  if t.is "type" && next.is "*" then
    bump
    return (← exportAll)
  let here ← position
  let before ← if t.is "@" then decorators else pure []
  let found ← declarationModifiers
  let ambient := hasModifier found "declare"
  within (fun c => { c with ambient := c.ambient || ambient }) do
    if (marks ++ before).isEmpty then
      return .exportDeclaration start ambient (← declaration here found)
    else
      checkModifiers ["declare", "abstract"] found
      return .exportDeclaration start ambient
        (.compound .declaration
          [.expression (.compound .classBody (← classRest ambient (marks ++ before)))])

/-! ## Statements -/

/-- Reads an expression in parentheses before a statement. -/
def condition : Parser Stmt := do
  expect "("
  let value ← within (fun c => { c with inOperator := true }) expression
  expect ")"
  pure (.expression value)

/-- Reads statements in braces. -/
def block : Parser Stmt := do
  expect openBrace
  let body ← statements
  expect closeBrace
  pure (.compound .block body)

/-- Reads a statement that stands under another one. -/
def body : Parser Stmt := parse (.statement true)

/-- Reads an `if`. -/
def branchStatement : Parser Stmt := do
  expect "if"
  let test ← condition
  let yes ← body
  if ← eat "else" then return .compound .branch [test, yes, ← body]
  return .compound .branch [test, yes]

/-- Reads the rest of a `for` with semicolons. -/
def countedLoop (parts : List Stmt) : Parser Stmt := do
  let part : Parser (List Stmt) := within (fun c => { c with inOperator := true }) do
    return [.expression (← expression)]
  expect ";"
  let test ← if (← peek).isAny [";", ")"] then pure [] else part
  expect ";"
  let step ← if ← sees ")" then pure [] else part
  expect ")"
  return .compound .loop (parts ++ test ++ step ++ [← body])

/-- Reads the rest of a `for` over the members of a value. -/
def memberLoop (start : Nat) (awaits : Bool) (first : Stmt) : Parser Stmt := do
  let overValues ← sees "of"
  bump
  let source ← within (fun c => { c with inOperator := true })
    (if overValues then parse (.assignment true) else expression)
  expect ")"
  if awaits && !overValues then
    report start (.notAllowed "await can only be used in a for-of loop")
  return .compound .loop [first, .expression source, ← body]

/-- A declaration of variables that are disposed of begins here. -/
def atUsing : Parser Bool := do
  let t ← peek
  let next ← peekNext
  if t.is "using" then
    return !next.fresh && next.isName && !next.isAny ["in", "of", "as", "satisfies"]
  if t.is "await" && next.is "using" && !next.fresh then
    lookahead do
      advance
      let next ← peekNext
      pure (!next.fresh && next.isName && !next.isAny ["in", "of"])
  else return false

/-- Reads a `for`. -/
def forStatement : Parser Stmt := do
  let start ← position
  expect "for"
  let awaits ← sees "await"
  if awaits then
    if !(← context).await then
      report (← position) (.notAllowed
        "`await` is only allowed within async functions and at the top levels of modules")
    bump
  expect "("
  if ← sees ";" then
    if awaits then report start (.notAllowed "await can only be used in a for-of loop")
    return (← countedLoop [])
  let t ← peek
  let next ← peekNext
  let declares ←
    if t.isAny ["var", "const"] then pure true
    else if t.is "let" then
      pure ((next.isName && !next.isAny ["in", "of"]) || next.isAny ["[", openBrace])
    else atUsing
  if declares then
    if t.is "await" then bump
    let kind := variableKind (← peek)
    bump
    let found ← within (fun c => { c with inOperator := false }) (declarators kind)
    let first := Stmt.variable start kind (found.map (·.declarator))
    if (← peek).isAny ["of", "in"] then return (← memberLoop start awaits first)
    checkInitials found
    if awaits then report start (.notAllowed "await can only be used in a for-of loop")
    return (← countedLoop [first])
  let left ← within (fun c => { c with inOperator := false }) expression
  let first := Stmt.expression left
  if (← peek).isAny ["of", "in"] then
    if t.is "let" then
      report t.start (.notAllowed "The left-hand side of a `for...of` statement may not be `let`")
    if !awaits && t.is "async" && next.is "of" && (← sees "of") then
      report t.start (.notAllowed "The left-hand side of a `for...of` statement may not be `async`")
    takeTarget t.start left
    return (← memberLoop start awaits first)
  if awaits then report start (.notAllowed "await can only be used in a for-of loop")
  countedLoop [first]

/-- Reads a `switch`. -/
def switchStatement : Parser Stmt := do
  expect "switch"
  let value ← condition
  expect openBrace
  let cases : List (List Stmt) ← whileMore
    (do let t ← peek; pure (!(t.is closeBrace || t.isDead)))
    (do
      let test : List Stmt ←
        if ← eat "default" then pure []
        else
          expect "case"
          pure [.expression (← within (fun c => { c with inOperator := true }) expression)]
      expect ":"
      let body : List Stmt ← whileMore
        (do
          let t ← peek
          pure (!(t.isAny [closeBrace, "case", "default"] || t.isDead)))
        (parse (.statement false))
      pure (test ++ body))
  expect closeBrace
  pure (.compound .branch (value :: cases.flatten))

/-- Reads a `try`. -/
def tryStatement : Parser Stmt := do
  expect "try"
  let first ← block
  let stop ← lastEnd
  let handler ←
    if ← eat "catch" then
      let caught ←
        if ← eat "(" then
          let start ← position
          let pattern ← parse .pattern
          let _ ← typeAnnotation
          expect ")"
          pure [Stmt.variable start .let [⟨pattern, none⟩]]
        else pure []
      pure (caught ++ [← block])
    else pure []
  let last ← if ← eat "finally" then pure [← block] else pure []
  if handler.isEmpty && last.isEmpty then
    report stop (.notAllowed "Missing catch or finally clause")
  pure (.compound .attempt (first :: handler ++ last))

/-- Reads a `return`, a `throw`, a `break` or a `continue`. -/
def jumpStatement : Parser Stmt := do
  let t ← peek
  bump
  if t.isAny ["break", "continue"] then
    if !(← mayEndStatement) then
      let _ ← bindingName
    endStatement
    return .compound .jump []
  if t.is "return" then
    if !(← context).returns then
      report t.start (.notAllowed
        "A 'return' statement can only be used within a function body.")
    if ← mayEndStatement then
      endStatement
      return .compound .jump []
  else if ← atLineStart then
    report t.start (.notAllowed "Illegal newline after throw")
  let value ← within (fun c => { c with inOperator := true }) expression
  endStatement
  return .compound .jump [.expression value]

/-- Reads an expression as a statement, or a label and the statement behind it. -/
def expressionStatement : Parser Stmt := do
  let opens ← sees "("
  let value ← within (fun c => { c with inOperator := true }) expression
  match value with
  | .identifier _ =>
    if !opens && (← eat ":") then return .compound .labelled [← body]
  | _ => pure ()
  endStatement
  return .expression value

/-- Reads a statement that begins with `let`, which may be a name. -/
def letStatement (single : Bool) : Parser Stmt := do
  let start ← position
  let next ← peekNext
  let plain := next.isBinaryOperator || next.isAny ["=", ".", "("] ||
    next.isAny assigningOperators || next.is ";" || (single && !next.is "[")
  if plain then expressionStatement else variableDeclaration start

/-- Reads a statement. -/
def statementRule (single : Bool) : Parser Stmt := do
  let t ← peek
  let start := t.start
  if t.is openBrace then block
  else if t.is ";" then
    bump
    return .compound .empty []
  else if t.is "if" then branchStatement
  else if t.is "for" then forStatement
  else if t.is "while" then
    bump
    let test ← condition
    return .compound .loop [test, ← body]
  else if t.is "do" then
    bump
    let inner ← body
    expect "while"
    let test ← condition
    let _ ← eat ";"
    return .compound .loop [inner, test]
  else if t.isAny ["continue", "break", "return", "throw"] then jumpStatement
  else if t.is "with" then
    bump
    let value ← condition
    return .compound .branch [value, ← body]
  else if t.is "switch" then switchStatement
  else if t.is "try" then tryStatement
  else if t.is "debugger" then
    bump
    endStatement
    return .compound .empty []
  else if t.is "class" then
    if single then report start (.notAllowed "Invalid class declaration")
    return .compound .declaration [.expression (.compound .classBody (← classRest false []))]
  else if t.is "export" then exportItem start []
  else if t.is "function" then functionDeclaration start false single false
  else if t.is "@" then
    let marks ← decorators
    if ← sees "export" then exportItem start marks
    else
      let found ← declarationModifiers
      checkModifiers ["declare", "abstract"] found
      return .compound .declaration
        [.expression (.compound .classBody (← classRest (hasModifier found "declare") marks))]
  else if t.is "import" && !(← peekNext).isAny [".", "("] then importItem
  else if t.is "var" then variableDeclaration start
  else if t.is "const" then
    if (← peekNext).is "enum" then
      bump
      enumDeclaration
    else
      if single then report start (.notAllowed "Lexical declaration cannot appear here")
      variableDeclaration start
  else if t.is "let" && !t.isEscapedKeyword then letStatement single
  else if ← atUsing then
    if ← eat "await" then pure ()
    variableDeclaration start
  else if t.is "async" && (← peekNext).is "function" && !(← peekNext).fresh then
    bump
    functionDeclaration start true single false
  else if t.isAny ["async", "interface", "type", "module", "namespace", "declare", "enum",
      "private", "protected", "public", "abstract", "accessor", "static", "readonly", "global"] &&
      (← atDeclaration) then
    within (fun c => { c with await := false }) modifiedDeclaration
  else expressionStatement

end Script
end CommandGrove
