import CommandGrove.Script.Grammar.Name

/-!
# The grammar of types

## What is here

* `typeRule`, `typeOperandRule` — the rules of types.
* `typeAnnotation`, `returnAnnotation` — types behind a colon.
* `typeArguments`, `typeParameters` — lists in angle brackets.
* `typeMembers`, `indexSignature` — the members of record types and interfaces.
-/

set_option autoImplicit false
namespace CommandGrove
namespace Script

/-! ## Lists in angle brackets -/

/-- Reads type arguments, of which there has to be one. -/
def typeArguments : Parser (List TypeExpr) := do
  let start ← position
  expect "<"
  let (found, _) ← delimited ">" (parse .type)
  expect ">"
  if found.isEmpty then report start (.notAllowed "Type argument list cannot be empty.")
  pure found

/-- Reads type arguments on the line of the name before them, if there are any. -/
def typeArgumentsHere : Parser (List TypeExpr) := do
  if ← atLineStart then return []
  if (← splitAngle).is "<" then typeArguments else return []

/-- Reads a type parameter: what it extends and what it stands for by default. -/
def typeParameter : Parser (List TypeExpr) := do
  checkModifiers ["const", "in", "out"] (← modifiers true false)
  let _ ← bindingName
  let bound ← if ← eat "extends" then pure [← parse .type] else pure []
  let default ← if ← eat "=" then pure [← parse .type] else pure []
  pure (bound ++ default)

/-- Reads type parameters, if there are any. -/
def typeParameters : Parser (List TypeExpr) := do
  if !(← sees "<") then return []
  let start ← position
  bump
  let (found, _) ← delimited ">" typeParameter
  expect ">"
  if found.isEmpty then report start (.notAllowed "Type parameters list cannot be empty.")
  pure found.flatten

/-! ## Types behind a colon -/

/-- Reads a type, or what a function tells about an argument: `x is T`. -/
def typeOrPredicate : Parser TypeExpr := do
  let named ←
    if (← peek).isName then
      let next ← peekNext
      pure (next.is "is" && !next.fresh)
    else pure false
  if named then
    advance
    bump
    pure (.compound .predicate [← parse .type])
  else parse .type

/-- Reads a type annotation, if there is one. -/
def typeAnnotation : Parser (Option TypeExpr) := do
  if ← eat ":" then return some (← within (fun c => { c with plainTypes := false }) (parse .type))
  else return none

/-- Reads the annotation of what a function gives back, if there is one. -/
def returnAnnotation : Parser (Option TypeExpr) := do
  if ← eat ":" then
    return some (← within (fun c => { c with plainTypes := false }) typeOrPredicate)
  else return none

/-! ## Function types -/

/-- What follows an opening parenthesis can only be the parameters of a function type. -/
def opensParameters : Parser Bool := lookahead do
  bump
  if (← peek).isAny [")", "..."] then return true
  if (← peek).isAny modifierWords then
    let _ ← modifiers false false
  let t ← peek
  let skipped ←
    if t.isName || t.is "this" then
      advance
      pure true
    else if t.isAny ["[", openBrace] then
      let before := (← (fun _ s => .ok (s.reported.length + s.lexical.length, s) : Parser Nat))
      let _ ← parse .pattern
      let after := (← (fun _ s => .ok (s.reported.length + s.lexical.length, s) : Parser Nat))
      pure (before == after)
    else pure false
  if !skipped then return false
  if (← peek).isAny [":", ",", "?", "="] then return true
  if (← peek).is ")" then return (← peekNext).is "=>"
  return false

/-- A function type or a constructor type begins here. -/
def atFunctionType : Parser Bool := do
  let t ← peek
  if t.is "<" || t.is "new" then return true
  if t.is "(" then opensParameters
  else if t.is "abstract" then return (← peekNext).is "new"
  else return false

/-- Reads a function type or a constructor type. -/
def functionType : Parser TypeExpr := do
  let _ ← eat "abstract"
  let form := if ← eat "new" then TypeForm.constructor else TypeForm.function
  let bounds ← typeParameters
  let (params, rest) ← parse (.parameters false)
  expect "=>"
  let result ← typeOrPredicate
  let given := params.filterMap (·.type) ++ (rest.bind (·.type)).toList
  pure (.compound form (bounds ++ given ++ [result]))

/-! ## Members of records -/

/-- Reads the end of a member: a comma, a semicolon or the end of the line. -/
def endMember : Parser Unit := do
  if ← eat "," then pure () else endStatement

/-- An index signature begins at this bracket. -/
def atIndexSignature : Parser Bool := do
  if !(← sees "[") then return false
  lookahead do
    bump
    let t ← peek
    if t.isAny ["...", "]"] then return true
    if t.isAny modifierWords then
      advance
      if (← peek).isName then return true
    else if !t.isName then return false
    else advance
    let t ← peek
    if t.isAny [":", ","] then return true
    if !t.is "?" then return false
    return (← peekNext).isAny [":", ",", "]"]

/-- Reads an index signature: `[key: K]: V`. -/
def indexSignature : Parser Unit := do
  expect "["
  let (_, _) ← delimited "]" (do
    let _ ← bindingName
    match ← typeAnnotation with
    | some _ => pure ()
    | none => unexpected)
  expect "]"
  match ← typeAnnotation with
  | some _ => pure ()
  | none => report (← lastEnd) (.notAllowed "An index signature must have a type annotation.")
  endMember

/-- Reads the parameters and the result of a method or a call signature. -/
def signatureRest : Parser Unit := do
  let _ ← typeParameters
  let _ ← parse (.parameters false)
  let _ ← returnAnnotation
  endMember

/-- The name of a key as the source writes it, without its quotes. -/
def Key.text : Key → String
  | .name text => text
  | .string value => value
  | .other raw _ => raw

/-- Reads a member of a record type. -/
def typeMember : Parser TypeMember := do
  let t ← peek
  if t.isAny ["(", "<"] then
    signatureRest
    return .other
  if t.is "new" && (← peekNext).isAny ["(", "<"] then
    bump
    signatureRest
    return .other
  checkModifiers ["readonly"] (← modifiers true false)
  if (← atAccessor "get") || (← atAccessor "set") then
    bump
    let _ ← propertyKey false
    signatureRest
    return .other
  if ← atIndexSignature then
    indexSignature
    return .other
  let key ← propertyKey false
  let _ ← eat "?"
  if (← peek).isAny ["(", "<"] then
    signatureRest
    return .other
  let type ← typeAnnotation
  endMember
  return .property t.start key.text type

/-- Reads the members of a record type or an interface, with the braces around them. -/
def typeMembers : Parser (List TypeMember) := do
  expect openBrace
  let members ← whileMore (do let t ← peek; pure (!(t.is closeBrace || t.isDead))) typeMember
  expect closeBrace
  pure members

/-! ## Types in braces -/

/-- A mapped type begins at this brace. -/
def atMappedType : Parser Bool := lookahead do
  bump
  if (← peek).isAny ["+", "-"] then return (← peekNext).is "readonly"
  let _ ← eat "readonly"
  if !(← eat "[") then return false
  if (← peek).isWord then return (← peekNext).is "in"
  else return false

/-- Reads a mapped type: `{ [K in T]: V }`. -/
def mappedType : Parser TypeExpr := do
  expect openBrace
  if (← peek).isAny ["+", "-"] then
    bump
    expect "readonly"
  else
    let _ ← eat "readonly"
  expect "["
  let _ ← wordName
  expect "in"
  let source ← parse .type
  let renamed ← if ← eat "as" then pure [← parse .type] else pure []
  expect "]"
  if (← peek).isAny ["+", "-"] then
    bump
    expect "?"
  else
    let _ ← eat "?"
  let target ← if ← eat ":" then pure [← parse .type] else pure []
  endMember
  expect closeBrace
  pure (.compound .mapped (source :: renamed ++ target))

/-! ## Tuples -/

/-- A label stands before the next element. -/
def atTupleLabel : Parser Bool := lookahead do
  let _ ← eat "..."
  if !(← peek).isWord then return false
  advance
  if ← sees ":" then return true
  if ← sees "?" then return (← peekNext).is ":"
  return false

/-- Reads an element of a tuple type without its label. -/
def tupleElementType : Parser TupleElement := do
  if ← eat "..." then return .rest (← parse .type)
  match ← parse .type with
  | .nullable true inner => return .optional inner
  | type => return .plain type

/-- Reads an element of a tuple type. -/
def tupleElement : Parser TupleElement := do
  if ← atTupleLabel then
    let spread ← eat "..."
    let label ← wordName
    let _ ← eat "?"
    expect ":"
    let element ← tupleElementType
    if spread then
      let parts := match element with
        | .plain t | .optional t | .rest t => [t]
        | .named _ _ => []
      return .rest (.compound .labelled parts)
    return .named label element
  tupleElementType

/-! ## Types of one piece -/

/-- The keywords that are types, unless a dot follows. -/
def typeKeywords : List String :=
  ["any", "unknown", "string", "bigint", "boolean", "number", "symbol", "undefined", "object",
   "never"]

/-- Reads names with dots between them. -/
def dottedName : Parser (List String) := do
  let first ← wordName
  iterate (β := List String) (fun names => do
    if ← eat "." then return .inl ((← wordName) :: names)
    else return .inr names.reverse) [first]

/-- Reads a named type with its arguments. -/
def typeReference : Parser TypeExpr := do
  let name ← dottedName
  pure (.reference name (← typeArgumentsHere))

/-- Reads the type at `import`. -/
def importType : Parser TypeExpr := do
  expect "import"
  expect "("
  let source ← parse .type
  if ← eat "," then
    if !(← sees ")") then
      let _ ← parse (.assignment true)
      let _ ← eat ","
  expect ")"
  if ← eat "." then
    let _ ← dottedName
  pure (.compound .imported (source :: (← typeArgumentsHere)))

/-- Reads the type at `typeof`. -/
def typeQuery : Parser TypeExpr := do
  expect "typeof"
  if ← sees "import" then return .compound .query [← importType]
  let _ ← dottedName
  return .compound .query (← typeArgumentsHere)

/-- Reads a template literal type. -/
def templateType : Parser TypeExpr := do
  let t ← peek
  advance
  match t.lexeme with
  | .template _ false =>
    let parts ← iterate (β := List TypeExpr) (fun parts => do
      let part ← parse .type
      require closeBrace
      let t ← rescanTemplate
      match t.lexeme with
      | .template _ closed =>
        advance
        if closed then return .inr (part :: parts).reverse else return .inl (part :: parts)
      | _ => unexpected) []
    return .compound .template parts
  | _ => return .compound .literal []

/-- A type begins here. -/
def Token.beginsType (t : Token) : Bool :=
  t.isNumeric || t.isString || t.isTemplate || t.isName ||
    t.isAny ["void", "null", "this", "typeof", openBrace, "[", "<", "|", "&", "new", "true",
      "false", "*", "?", "!", "...", "import", "function", "-", "("]

/-- Reads a type of one piece. -/
def typePiece : Parser TypeExpr := do
  let t ← peek
  if t.isAny typeKeywords && !(← peekNext).is "." then
    advance
    if t.is "string" then return .string
    if t.is "number" then return .number
    if t.is "boolean" then return .boolean
    return .compound .keyword []
  if t.isString || t.isNumeric || t.isAny ["true", "false"] then
    bump
    return .compound .literal []
  if t.isTemplate then return (← templateType)
  if t.is "-" && (← peekNext).isNumeric then
    bump
    advance
    return .compound .literal []
  if t.isAny ["void", "null"] then
    bump
    return .compound .keyword []
  if t.is "this" then
    bump
    let next ← peek
    if next.is "is" && !next.fresh then
      bump
      return .compound .predicate [← parse .type]
    return .compound .this []
  if t.is "typeof" then return (← typeQuery)
  if t.is openBrace then
    if ← atMappedType then return (← mappedType)
    return .record (← typeMembers)
  if t.is "[" then
    return .tuple (← within (fun c => { c with plainTypes := false })
      (bracketed "[" "]" tupleElement))
  if t.is "(" then
    bump
    let inner ← within (fun c => { c with plainTypes := false }) (parse .type)
    expect ")"
    return .paren inner
  if t.is "import" then return (← importType)
  if t.is "asserts" then
    let next ← peekNext
    if !next.fresh && (next.isName || next.is "this") then
      bump
      advance
      if ← eat "is" then return .compound .predicate [← parse .type]
      return .compound .predicate []
  if t.is "?" then
    bump
    return .nullable false (← parse .type)
  if t.is "*" then
    bump
    return .compound .keyword []
  typeReference

/-- Reads a type of one piece and the brackets and marks behind it. -/
def postfixType : Parser TypeExpr := do
  let first ← typePiece
  iterate (β := TypeExpr) (fun type => do
    let t ← peek
    if t.fresh then return .inr type
    if t.is "!" then
      bump
      return .inl (.compound .nonNullable [type])
    if t.is "?" then
      if (← peekNext).beginsType then return .inr type
      bump
      return .inl (.nullable true type)
    if t.is "[" then
      bump
      if (← peek).beginsType then
        let index ← within (fun c => { c with plainTypes := false }) (parse .type)
        expect "]"
        return .inl (.compound .indexed [type, index])
      expect "]"
      return .inl (.array type)
    return .inr type) first

/-! ## Operators between types -/

/-- The type may stand behind `readonly`. -/
def TypeExpr.mayBeReadonly : TypeExpr → Bool
  | .array _ | .tuple _ => true
  | _ => false

/-- Reads a type with the operators that stand before it. -/
def typeOperandRule : Parser TypeExpr := do
  let t ← peek
  if t.is "readonly" then
    bump
    let inner ← parse .typeOperand
    if !inner.mayBeReadonly then
      report t.start (.notAllowed
        "'readonly' type modifier is only permitted on array and tuple literal types.")
    return .readonly inner
  if t.isAny ["keyof", "unique"] then
    bump
    return .compound .operator [← parse .typeOperand]
  if t.is "infer" then
    bump
    let _ ← bindingName
    let bound ← attempt (do
      expect "extends"
      let bound ← within (fun c => { c with plainTypes := true }) (parse .type)
      if !(← context).plainTypes && (← sees "?") then unexpected
      pure bound)
    return .compound .infer bound.toList
  within (fun c => { c with plainTypes := false }) postfixType

/-- Reads types joined by `operator`, which may also stand before the first one. -/
def joinedTypes (operator : String) (form : TypeForm) (part : Parser TypeExpr) :
    Parser TypeExpr := do
  let leading ← eat operator
  let first ← part
  if leading || (← sees operator) then
    let parts ← iterate (β := List TypeExpr) (fun parts => do
      if ← eat operator then return .inl ((← part) :: parts)
      else return .inr parts.reverse) [first]
    return .compound form parts
  return first

/-- Reads a type. -/
def typeRule : Parser TypeExpr := do
  if ← atFunctionType then return (← functionType)
  let type ← joinedTypes "|" .union (joinedTypes "&" .intersection (parse .typeOperand))
  if (← context).plainTypes || (← atLineStart) || !(← sees "extends") then return type
  bump
  let bound ← within (fun c => { c with plainTypes := true }) (parse .type)
  expect "?"
  let yes ← within (fun c => { c with plainTypes := false }) (parse .type)
  expect ":"
  let no ← within (fun c => { c with plainTypes := false }) (parse .type)
  return .compound .conditional [type, bound, yes, no]

end Script
end CommandGrove
