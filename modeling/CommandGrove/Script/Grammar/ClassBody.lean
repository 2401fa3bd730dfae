import CommandGrove.Script.Grammar.Callable
import CommandGrove.Script.Grammar.Operator

/-!
# The grammar of classes

A class is kept as the expressions written in it, in source order: its decorators, what it
extends, and for each member the name in brackets and the value or the function.

## What is here

* `MemberKind`, `checkMember` — what a member may be.
* `classMember` — a member of a class.
* `classRest` — a class from the word `class` on.
-/

set_option autoImplicit false
namespace CommandGrove
namespace Script

/-- The expression in brackets that names a member, if any does. -/
def Key.parts : Key → List Expr
  | .other _ (some value) => [value]
  | _ => []

/-! ## What a member may be -/

/-- The modifiers that say who may use a member. -/
def accessModifiers : List String := ["public", "private", "protected"]

/-- The modifiers that any member but a constructor may have. -/
def memberModifiers : List String :=
  accessModifiers ++ ["static", "abstract", "override", "accessor"]

/-- The kinds of members. -/
inductive MemberKind where
  | field
  | method
  | accessor
  | constructor
  deriving DecidableEq

/-- The modifiers that a member of a kind may have. -/
def MemberKind.modifiers : MemberKind → List String
  | .field => memberModifiers ++ ["readonly", "declare"]
  | .method => memberModifiers ++ ["async"]
  | .accessor => memberModifiers
  | .constructor => accessModifiers ++ ["static", "async"]

/-- The name of a member and where it stands; `bracketed` names are found only at run time. -/
structure MemberName where
  key : Key
  bracketed : Bool
  start : Nat

/-- Reads the name of a member. -/
def memberName : Parser MemberName := do
  let start ← position
  let bracketed ← sees "["
  return ⟨← propertyKey true, bracketed, start⟩

/-- The name is this word, plainly or in quotes. -/
def MemberName.is (n : MemberName) (word : String) : Bool :=
  !n.bracketed &&
    match n.key with
    | .name text | .string text => text == word
    | .other _ _ => false

/-- Reports what a member with this name cannot be: nothing static is the prototype, and what
makes the instances is a plain function. -/
def checkMember (name : MemberName) (kind : MemberKind) (found : List Modifier)
    (generator : Bool) : Parser Unit := do
  checkModifiers kind.modifiers found
  let static := hasModifier found "static"
  if static && kind != .constructor && name.is "prototype" then
    report name.start (.notAllowed "Classes may not have a static property named prototype")
  if name.is "constructor" then
    if kind == .field then
      report name.start (.notAllowed "Classes can't have a field named 'constructor'")
    else if !static then
      if kind == .accessor then
        report name.start (.notAllowed "Constructor can't have get/set modifier")
      if generator then report name.start (.notAllowed "Constructor can't be a generator")
      if hasModifier found "async" then
        report name.start (.notAllowed "Constructor can't be an async method")

/-! ## Members -/

/-- Reads the rest of a property of a class: its type and its value. -/
def fieldRest : Parser (List Expr) := do
  let _ ← typeAnnotation
  let initial ←
    if ← eat "=" then
      pure [← within (fun c =>
        { c with inOperator := true, await := false, yield := false, decorator := false })
        (parse (.assignment true))]
    else pure []
  endStatement
  pure initial

/-- Reads a member of a class. -/
def classMember : Parser (List Expr) := do
  let marks ← decorators
  let found ← modifiers true true
  let t ← peek
  if t.is "static" && (← peekNext).is openBrace then
    bump
    expect openBrace
    let body ← within (fun c =>
      { c with await := false, yield := false, returns := false, inOperator := true,
               decorator := false })
      statements
    expect closeBrace
    return marks ++ [.function ⟨none, [], none, some body⟩]
  let getter ← atAccessor "get"
  if getter || (← atAccessor "set") then
    bump
    let name ← memberName
    let f ← accessorRest getter .optional
    checkMember name .accessor found false
    return marks ++ name.key.parts ++ [.function f]
  if t.is "constructor" || t.lexeme == .string "constructor" then
    if (← peekNext).isAny ["(", "<"] then
      let name ← memberName
      let f ← callableRest none false false true .optional
      checkMember name .constructor found false
      return marks ++ [.function f]
  if ← atIndexSignature then
    checkModifiers MemberKind.field.modifiers found
    indexSignature
    return marks
  let generator ← eat "*"
  let name ← memberName
  let mark ← position
  let optional ← eat "?"
  if generator || (← peek).isAny ["(", "<"] then
    let f ← callableRest none (hasModifier found "async") generator false .optional
    checkMember name .method found generator
    return marks ++ name.key.parts ++ [.function f]
  if optional && hasModifier found "accessor" then
    report mark (.notAllowed "An 'accessor' property cannot be declared optional.")
  if !optional && (← sees "!") && !(← atLineStart) then bump
  let value ← fieldRest
  checkMember name .field found false
  return marks ++ name.key.parts ++ value

/-- What has been read of the clauses before the body of a class. -/
structure Heritage where
  /-- What the class extends. -/
  parts : List Expr
  extended : Bool
  implemented : Bool

/-- Reads what a class extends and implements. -/
def heritage : Parser (List Expr) := do
  let found ← iterate (β := Heritage) (fun found => do
    let t ← peek
    if t.is "extends" then
      if found.extended then
        report t.start (.notAllowed "'extends' clause already seen")
      else if found.implemented then
        report t.start (.notAllowed "'extends' clause must precede 'implements' clause")
      bump
      let base : Expr ← parse .leftHand
      if (← splitAngle).is "<" then
        let _ ← typeArguments
      let more : List Expr ← whileMore (sees ",") (do
        report (← position) (.notAllowed "Classes can only extend a single class.")
        bump
        parse .leftHand)
      return .inl { found with parts := found.parts ++ base :: more, extended := true }
    if t.is "implements" then
      if found.implemented then
        report t.start (.notAllowed "'implements' clause already seen")
      bump
      let _ ← typeReference
      let _ : List TypeExpr ← whileMore (sees ",") (do
        bump
        typeReference)
      return .inl { found with implemented := true }
    return .inr found) ⟨[], false, false⟩
  pure found.parts

/-- Reads a class from the word `class` on; `marks` are the decorators before it. -/
def classRest (ambient : Bool) (marks : List Expr) : Parser (List Expr) := do
  expect "class"
  let t ← peek
  if t.isName && !t.is "implements" then
    let _ ← bindingName
  let _ ← typeParameters
  let bases ← heritage
  within (fun c => { c with ambient := c.ambient || ambient, decorator := false }) do
    expect openBrace
    let members ← whileMore
      (do let t ← peek; pure (!(t.is closeBrace || t.isDead)))
      (do if ← eat ";" then return [] else classMember)
    expect closeBrace
    pure (marks ++ bases ++ members.flatten)

end Script
end CommandGrove
