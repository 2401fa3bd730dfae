import CommandGrove.Script.Grammar.ClassBody

/-!
# The grammar of expressions

## What is here

* `assignmentRule`, `binaryRule`, `unaryRule`, `constructedRule`, `leftHandRule` — the rules of
  expressions.
* `Expr.isSimpleTarget`, `Expr.isTarget` — the expressions that can be assigned to.
* `operatorLevel` — how tightly an operator binds.
-/

set_option autoImplicit false
namespace CommandGrove
namespace Script

/-! ## Targets of assignments -/

/-- The expression without the parentheses and the casts around it. -/
def Expr.core : Expr → Expr
  | .paren inner => inner.core
  | .cast _ inner _ => inner.core
  | .nonNull inner => inner.core
  | e => e

/-- The expression is a name or a member. -/
def Expr.isPlace : Expr → Bool
  | .identifier _ | .member _ _ => true
  | _ => false

/-- The expression can be assigned to, as a whole. -/
def Expr.isSimpleTarget : Expr → Bool
  | .paren inner => inner.isSimpleTarget
  | .cast _ inner _ | .nonNull inner => inner.core.isPlace
  | e => e.isPlace

mutual

/-- The expression can be assigned to, as a whole or as a pattern. -/
def Expr.isTarget : Expr → Bool
  | .array elements => elementsAreTargets elements
  | .object properties => propertiesAreTargets properties
  | .paren inner => inner.isSimpleTarget
  | .cast _ inner _ | .nonNull inner => inner.core.isPlace
  | e => e.isPlace

/-- The elements can be assigned to; only the last one may take the rest. -/
def elementsAreTargets : List Expr → Bool
  | [] => true
  | .hole :: rest => elementsAreTargets rest
  | .spread inner :: rest => rest.isEmpty && inner.isTarget
  | .assign plain _ _ :: rest => plain && elementsAreTargets rest
  | e :: rest => e.isTarget && elementsAreTargets rest

/-- The properties can be assigned to; only the last one may take the rest. -/
def propertiesAreTargets : List Property → Bool
  | [] => true
  | .keyed _ (.assign plain _ _) :: rest => plain && propertiesAreTargets rest
  | .keyed _ value :: rest => value.isTarget && propertiesAreTargets rest
  | .method _ _ :: _ => false
  | .shorthand _ _ _ :: rest => propertiesAreTargets rest
  | .spread inner :: rest => rest.isEmpty && inner.isTarget

end

mutual

/-- Where the properties of a target stand that have a value to take. -/
def Expr.initialStarts : Expr → List Nat
  | .array elements => elementStarts elements
  | .object properties => propertyStarts properties
  | _ => []

/-- Where such properties stand in elements. -/
def elementStarts : List Expr → List Nat
  | [] => []
  | .spread inner :: rest => inner.initialStarts ++ elementStarts rest
  | e :: rest => e.initialStarts ++ elementStarts rest

/-- Where such properties stand in properties. -/
def propertyStarts : List Property → List Nat
  | [] => []
  | .keyed _ value :: rest => value.initialStarts ++ propertyStarts rest
  | .shorthand start _ _ :: rest => start :: propertyStarts rest
  | .spread inner :: rest => inner.initialStarts ++ propertyStarts rest
  | _ :: rest => propertyStarts rest

end

/-- Takes an expression for the target of `=`; `start` is where it begins. -/
def takeTarget (start : Nat) (e : Expr) : Parser Unit := do
  if !e.isTarget then failAt start .invalidTarget
  fun _ s =>
    .ok ((), { s with pending := s.pending.filter fun p => !e.initialStarts.contains p })

/-- Takes an expression for the target of any other operator that assigns. -/
def takeSimpleTarget (start : Nat) (e : Expr) : Parser Unit := do
  if !e.isSimpleTarget then failAt start .invalidTarget

/-! ## Templates -/

/-- Reads a template; in a `tagged` one an escape need not mean anything. -/
def templateLiteral (tagged : Bool) : Parser Expr := do
  let (texts, holes) ← iterate (β := List (Option String) × List Expr) (fun (texts, holes) => do
    let t ← peek
    match t.lexeme with
    | .template text closed =>
      if !tagged && text.isNone then report t.start .invalidEscape
      advance
      let texts := text :: texts
      if closed then return .inr (texts.reverse, holes.reverse)
      let filling ← within (fun c => { c with inOperator := true, decorator := false }) expression
      require closeBrace
      let _ ← rescanTemplate
      return .inl (texts, filling :: holes)
    | _ => unexpected) ([], [])
  pure (.template texts holes)

/-! ## Members and calls -/

/-- Reads an argument of a call. -/
def argument : Parser Expr := do
  if ← eat "..." then return .spread (← parse (.assignment true))
  else parse (.assignment true)

/-- Reads the arguments of a call, parentheses included. -/
def callArguments : Parser (List Expr) :=
  within (fun c => { c with inOperator := true, decorator := false }) (bracketed "(" ")" argument)

/-- Type arguments that stand behind an expression, if they cannot be anything else. -/
def typeArgumentsInExpression : Parser (List TypeExpr) := do
  if !(← splitAngle).is "<" then unexpected
  bump
  let (found, _) ← delimited ">" (parse .type)
  if (← joinAngles).is ">=" then unexpected
  let _ ← splitAngle
  expect ">"
  let t ← peek
  let follows :=
    if t.isAny ["("] || t.isTemplate then true
    else if t.isAny ["<", ">", "+", "-"] then false
    else t.fresh || t.isBinaryOperator || !t.beginsExpression
  if !follows then unexpected
  pure found

/-- A value, and whether an optional access is part of it. -/
structure Accessed where
  value : Expr
  optional : Bool

/-- Reads the name of a member behind its dot. -/
def accessedName : Parser Unit := do
  let t ← peek
  if t.isPrivateName then advance
  else
    let _ ← wordName

/-- A template stands behind a member that may be missing. -/
def taggedOptional : Fault :=
  .notAllowed "Tagged template expressions are not permitted in an optional chain"

/-- Reads the members behind a value. -/
def members (optionals : Bool) (first : Accessed) : Parser Accessed :=
  iterate (β := Accessed) (fun here => do
    let t ← peek
    if t.is "." then
      bump
      match here.value with
      | .compound .instantiation _ =>
        report t.start (.notAllowed
          "An instantiation expression cannot be followed by a property access.")
      | _ => pure ()
      accessedName
      return .inl ⟨.member here.value none, here.optional⟩
    if t.is "?." && optionals then
      let next ← peekNext
      if next.is "[" then
        bump
        bump
        let index ← within (fun c => { c with inOperator := true, decorator := false }) expression
        expect "]"
        return .inl ⟨.member here.value (some index), true⟩
      if next.isPrivateName || next.isWord then
        bump
        accessedName
        return .inl ⟨.member here.value none, true⟩
      if next.isTemplate then
        bump
        report t.start taggedOptional
        let quasi ← templateLiteral true
        return .inl ⟨.compound .tagged [here.value, quasi], true⟩
      return .inr here
    if t.is "[" && !(← context).decorator then
      bump
      let index ← within (fun c => { c with inOperator := true, decorator := false }) expression
      expect "]"
      return .inl ⟨.member here.value (some index), here.optional⟩
    if t.isTemplate then
      if here.optional then
        report t.start taggedOptional
      let quasi ← templateLiteral true
      return .inl ⟨.compound .tagged [here.value, quasi], here.optional⟩
    if t.is "!" && !t.fresh then
      bump
      return .inl ⟨.nonNull here.value, here.optional⟩
    if t.isAny ["<", "<<"] then
      match ← attempt typeArgumentsInExpression with
      | some _ =>
        if (← peek).isTemplate then
          let quasi ← templateLiteral true
          return .inl ⟨.compound .tagged [here.value, quasi], here.optional⟩
        return .inl ⟨.compound .instantiation [here.value], here.optional⟩
      | none => return .inr here
    return .inr here) first

/-- The callee of a call: type arguments belong to the call. -/
def Expr.callee : Expr → Expr
  | .compound .instantiation [inner] => inner
  | e => e

/-- Reads the members and the calls behind a value. -/
def membersAndCalls (first : Accessed) : Parser Accessed :=
  iterate (β := Accessed) (fun here => do
    let here ← members true here
    let question ← eat "?."
    if question then
      let given ← attempt typeArgumentsInExpression
      if given.isSome && (← peek).isTemplate then
        report (← position) (.notAllowed
          "Tagged template expressions are not permitted in an optional chain")
        let quasi ← templateLiteral true
        return .inl ⟨.compound .tagged [here.value, quasi], true⟩
      if !(← sees "(") then unexpected
      let given ← callArguments
      return .inl ⟨.call here.value given, true⟩
    if ← sees "(" then
      let given ← callArguments
      return .inl ⟨.call here.value.callee given, here.optional⟩
    return .inr here) first

/-! ## Values of one piece -/

/-- Reads an array. -/
def arrayLiteral : Parser Expr :=
  within (fun c => { c with inOperator := true, decorator := false }) do
    let elements ← bracketed "[" "]" (do if ← sees "," then return Expr.hole else argument)
    return .array elements

/-- Reads a property of an object. -/
def objectProperty : Parser Property := do
  let t ← peek
  if ← eat "..." then return .spread (← parse (.assignment true))
  let found ← modifiers false false
  let getter ← atAccessor "get"
  let setter ← atAccessor "set"
  if getter || setter then
    bump
    let key ← propertyKey false
    let f ← accessorRest getter .needed
    checkModifiers [] found
    return .method key f
  let generator ← eat "*"
  let name ← peek
  let key ← propertyKey false
  if generator || (← peek).isAny ["(", "<"] then
    checkModifiers ["async"] found
    return .method key (← callableRest none (hasModifier found "async") generator false .needed)
  checkModifiers [] found
  if name.isName && !(← sees ":") then
    checkName name
    if ← eat "=" then
      let initial ← parse (.assignment true)
      (fun _ s => .ok ((), { s with pending := t.start :: s.pending }) : Parser Unit)
      return .shorthand t.start key.text (some initial)
    return .shorthand t.start key.text none
  expect ":"
  return .keyed key (← parse (.assignment true))

/-- Reads an object. -/
def objectLiteral : Parser Expr :=
  within (fun c => { c with inOperator := true, decorator := false }) do
    return .object (← bracketed openBrace closeBrace objectProperty)

/-- Reads an expression in parentheses. -/
def parenthesized : Parser Expr := do
  expect "("
  let inner ← within (fun c => { c with inOperator := true, decorator := false }) expression
  expect ")"
  pure (.paren inner)

/-- Reads a function expression. -/
def functionExpression : Parser Expr := do
  let async ← eat "async"
  expect "function"
  let generator ← eat "*"
  let name ←
    if (← peek).isName then
      some <$> within (Context.inFunction async generator) bindingName
    else pure none
  return .function (← callableRest name async generator false .optional)

/-- Reads what an import call that begins at `start` is given: a module, and maybe options. -/
def importArguments (start : Nat) : Parser (List Expr) :=
  within (fun c => { c with inOperator := true }) do
    expect "("
    if ← sees ")" then
      failAt start (.notAllowed "import() requires a specifier.")
    let source ← parse (.assignment true)
    let options ←
      if ← eat "," then
        if ← sees ")" then pure [] else pure [← parse (.assignment true)]
      else pure []
    let _ ← eat ","
    if !(← sees ")") then
      failAt start (.notAllowed "Dynamic imports can only accept a module specifier and options.")
    bump
    return source :: options

/-- Reads what stands at `import` in an expression: a call or `import.meta`. -/
def importExpression : Parser Expr := do
  let start ← position
  expect "import"
  if ← eat "." then
    if ← sees "meta" then
      advance
      return .compound .metaProperty []
    if (← peek).isAny ["source", "defer"] then advance else unexpected
  return .compound .importCall (← importArguments start)

/-- Reads what stands at `new`. -/
def newExpression : Parser Expr := do
  let start ← position
  expect "new"
  if ← eat "." then
    let t ← peek
    if t.is "target" then
      advance
      return .compound .metaProperty []
    failAt start .unexpected
  let callee ← parse .constructed
  let given ← if ← sees "(" then callArguments else pure []
  match callee with
  | .compound .importCall _ => report start (.notAllowed "Cannot use new with dynamic import")
  | _ => pure ()
  return .compound .new (callee.callee :: given)

/-- Reads a value of one piece. -/
def primary : Parser Expr := do
  let t ← peek
  match t.lexeme with
  | .number =>
    advance
    return .compound .number []
  | .bigInteger =>
    advance
    return .compound .bigInteger []
  | .string value =>
    advance
    return .string value
  | .template _ _ => templateLiteral false
  | _ =>
    if t.is "async" && (← peekNext).is "function" && !(← peekNext).fresh then
      return (← functionExpression)
    if t.isName then
      checkName t
      advance
      match t.lexeme with
      | .word name _ => return .identifier name
      | _ => unexpected
    if t.isAny ["/", "/="] then
      let t ← rescanPattern
      if t.isDead then unexpected
      advance
      return .compound .regularExpression []
    if t.is "(" then return (← parenthesized)
    if t.is "[" then return (← arrayLiteral)
    if t.is openBrace then return (← objectLiteral)
    if t.is "function" then return (← functionExpression)
    if t.isAny ["this", "null", "true", "false"] then
      bump
      return .compound .constant []
    if t.is "new" then return (← newExpression)
    if t.is "class" then return .compound .classBody (← classRest false [])
    if t.is "@" then
      let found ← decorators
      if !(← sees "class") then unexpected
      return .compound .classBody (← classRest false found)
    unexpected

/-- Reads a value of one piece, or one that only goes with a member or a call. -/
def memberHead : Parser Expr := do
  let t ← peek
  if t.is "import" then return (← importExpression)
  if t.is "super" then
    bump
    if !(← peek).isAny [".", "[", "("] then
      report t.start (.notAllowed "'super' can only be used with a call or a member")
    return .compound .super []
  primary

/-- Reads the operand of `new`. -/
def constructedRule : Parser Expr := do
  let start ← position
  let found ← members false ⟨← memberHead, false⟩
  if ← sees "?." then
    report start (.notAllowed "Constructors in/after an Optional Chain are not allowed.")
  pure found.value

/-- Reads a value with the members and calls behind it. -/
def leftHandRule : Parser Expr := do
  let found ← membersAndCalls ⟨← memberHead, false⟩
  if found.optional then return .compound .chain [found.value] else return found.value

/-! ## Operators before and behind a value -/

/-- The operators that stand before a value. -/
def prefixOperators : List String := ["delete", "void", "typeof", "+", "-", "~", "!"]

/-- A word or a literal follows on the same line. -/
def wordFollows : Parser Bool := do
  let next ← peekNext
  pure (!next.fresh &&
    (next.isWord || next.isString || next.isNumeric || next.isTemplate))

/-- Reads a value with the operators directly before and behind it. -/
def unaryRule : Parser Expr := do
  let t ← peek
  if t.isAny prefixOperators then
    bump
    return .compound .unary [← parse .unary]
  if t.isAny ["++", "--"] then
    bump
    let start ← position
    let value ← parse .unary
    takeSimpleTarget start value
    return .compound .update [value]
  if t.is "await" then
    let allowed := (← context).await
    let operator ← if allowed then pure true else wordFollows
    if operator then
      if !allowed then
        report t.start (.notAllowed
          "`await` is only allowed within async functions and at the top levels of modules")
      bump
      return .compound .await
        [← within (fun c => { c with await := true }) (parse .unary)]
  if t.isAny ["<", "<<", "<="] then
    if (← read).markup then
      if t.is "<" then return (← parse (.element false))
    else
      let _ ← splitAngle
      bump
      let type ← parse .type
      expect ">"
      return .cast .angle (← parse .unary) type
  let value ← leftHandRule
  let after ← peek
  if after.isAny ["++", "--"] && !after.fresh then
    takeSimpleTarget t.start value
    bump
    return .compound .update [value]
  return value

/-! ## Operators between values -/

/-- The expression is made by a sign or a keyword before a value. -/
def Expr.isPrefixed : Expr → Bool
  | .compound .unary _ | .compound .await _ => true
  | _ => false

/-- The expression is made by `&&` or `||`. -/
def Expr.isLogical : Expr → Bool
  | .compound .logical _ => true
  | _ => false

/-- The expression is made by `??`. -/
def Expr.isCoalesce : Expr → Bool
  | .compound .coalesce _ => true
  | _ => false

/-- Continues an operand with the operators that bind tighter than `level`. -/
def binaryFrom (level : Nat) (first : Expr) (start : Nat) : Parser Expr :=
  iterate (β := Expr) (fun left => do
    let t ← joinAngles
    match operatorLevel t with
    | none => return .inr left
    | some here =>
      if here < level || (here == level && !t.is "**") then return .inr left
      if t.is "in" && !(← context).inOperator then return .inr left
      if t.isAny ["as", "satisfies"] then
        if t.fresh then return .inr left
        bump
        let type ← within (fun c => { c with plainTypes := false }) (parse .type)
        return .inl (.cast (if t.is "as" then .conversion else .satisfies) left type)
      bump
      let right ← parse (.binary here)
      if t.is "??" then
        if left.isLogical || right.isLogical then
          report start (.notAllowed "Logical expressions and coalesce expressions cannot be mixed")
        return .inl (.compound .coalesce [left, right])
      if t.isAny ["&&", "||"] then
        if left.isCoalesce || right.isCoalesce then
          report start (.notAllowed "Logical expressions and coalesce expressions cannot be mixed")
        return .inl (.compound .logical [left, right])
      if t.is "**" && left.isPrefixed then
        report start (.notAllowed "Unexpected operator before `**`")
      return .inl (.compound .binary [left, right])) first

/-- Reads operands joined by operators that bind tighter than `level`. -/
def binaryRule (level : Nat) : Parser Expr := do
  let t ← peek
  if t.isPrivateName && (← context).inOperator then
    advance
    if !(← sees "in") || relationLevel ≤ level then unexpected
    bump
    let right ← parse (.binary relationLevel)
    binaryFrom level (.compound .binary [.compound .privateName [], right]) t.start
  else
    let first ← unaryRule
    binaryFrom level first t.start

/-! ## Assignments and what binds as they do -/

/-- The operators that assign. -/
def assigningOperators : List String :=
  ["=", "+=", "-=", "*=", "/=", "%=", "**=", "<<=", ">>=", ">>>=", "&=", "|=", "^=", "&&=", "||=",
   "??="]

/-- Reads what stands at `yield`. -/
def yieldExpression : Parser Expr := do
  let start ← position
  if !(← context).yield then
    report start (.notAllowed "A 'yield' expression is only allowed in a generator body.")
  bump
  let t ← peek
  if t.fresh then return .compound .yield []
  let delegates ← eat "*"
  let t ← peek
  if !delegates && (t.lexeme == .finish || t.isAny [";", closeBrace, ")", "]", ":", ",", "in"]) then
    return .compound .yield []
  return .compound .yield [← parse (.assignment true)]

/-- Reads `async x => …`, if it stands here. -/
def asyncArrow (typed : Bool) : Parser (Option Expr) := do
  if !(← sees "async") then return none
  let found ← lookahead do
    advance
    let t ← peek
    if t.fresh || t.is "=>" || !t.isName then return false
    return (← peekNext).is "=>"
  if !found then return none
  bump
  let name ← within (fun c => { c with await := true }) bindingName
  arrow
  let body ← arrowBody true typed
  return some (.arrow ⟨none, [⟨[], .identifier name, false, none, none⟩], none, some body⟩)

/-- Reads an assignment or anything that binds tighter. -/
def assignmentRule (typed : Bool) : Parser Expr := do
  let t ← peek
  if t.is "yield" then
    let operator ← if (← context).yield then pure true else wordFollows
    if operator then return (← yieldExpression)
  if let some e ← parenthesizedArrow typed then return e
  if let some e ← asyncArrow typed then return e
  let left ← binaryRule 0
  let next ← peek
  match left with
  | .identifier name =>
    if next.is "=>" then
      arrow
      let body ← arrowBody false typed
      return .arrow ⟨none, [⟨[], .identifier name, false, none, none⟩], none, some body⟩
  | _ => pure ()
  if next.isAny assigningOperators then
    if next.is "=" then takeTarget t.start left else takeSimpleTarget t.start left
    bump
    return .assign (next.is "=") left (← parse (.assignment typed))
  if next.is "?" then
    bump
    let yes ← within (fun c => { c with inOperator := true }) (parse (.assignment false))
    expect ":"
    return .compound .conditional [left, yes, ← parse (.assignment typed)]
  return left

end Script
end CommandGrove
