import CommandGrove.Script.Parser

/-!
# Names and modifiers

## What is here

* `bindingName`, `wordName`, `propertyKey` — the three kinds of names.
* `Modifier`, `modifiers` — words such as `readonly` or `static` before a declaration or a member,
  and `checkModifiers`, which reports the ones that do not belong there.
-/

set_option autoImplicit false
namespace CommandGrove
namespace Script

/-! ## Names -/

/-- Reports a name that is an operator where it stands. -/
def checkName (t : Token) : Parser Unit := do
  let c ← context
  if c.await && t.is "await" then
    report t.start (.notAllowed "Cannot use `await` as an identifier in an async context")
  if c.yield && t.is "yield" then
    report t.start (.notAllowed "Cannot use `yield` as an identifier in a generator context")

/-- Reads a name that is given to something. -/
def bindingName : Parser String := do
  let t ← peek
  match t.lexeme with
  | .word name _ =>
    if isReserved name then failAt t.start (.reservedWord name)
    checkName t
    advance
    pure name
  | _ => unexpected

/-- Reads any word as a name. -/
def wordName : Parser String := do
  let t ← peek
  match t.lexeme with
  | .word name _ =>
    advance
    pure name
  | _ => unexpected

/-- Reads the name of a property or a member; only a class has private names. -/
def propertyKey (inClass : Bool) : Parser Key := do
  let t ← peek
  match t.lexeme with
  | .word name _ =>
    advance
    pure (.name name)
  | .string value =>
    advance
    pure (.string value)
  | .number | .bigInteger =>
    advance
    pure (.other (← rawSince t.start t.input) none)
  | .privateName name =>
    if inClass then
      if name == "constructor" then
        report t.start (.notAllowed "Classes can't have an element named '#constructor'")
      advance
      pure (.other ("#" ++ name) none)
    else unexpected
  | _ =>
    if t.is "[" then
      bump
      let first ← peek
      let value ← within (fun c => { c with inOperator := true, decorator := false })
        (parse (.assignment true))
      let raw ← rawSince first.start first.input
      expect "]"
      match value with
      | .string text => pure (.string text)
      | _ => pure (.other raw (some value))
    else unexpected

/-! ## Modifiers -/

/-- A modifier and its place. -/
structure Modifier where
  name : String
  start : Nat

/-- The words that may be modifiers. -/
def modifierWords : List String :=
  ["abstract", "accessor", "async", "const", "declare", "default", "export", "in", "out", "public",
   "private", "protected", "override", "readonly", "static"]

/-- A member may go on with this token behind a modifier. -/
def Token.followsModifier (t : Token) : Bool :=
  t.isPrivateName || t.isWord || t.isString || t.isNumeric ||
    t.isAny ["[", openBrace, "*", "..."]

/-- The next token is a modifier of what follows it. -/
def atMemberModifier : Parser Bool := do
  let t ← peek
  if !t.isAny modifierWords then return false
  let next ← peekNext
  if t.isAny ["static"] then return next.followsModifier
  if t.is "const" then return next.is "enum"
  return !next.fresh && next.followsModifier

/-- The next token is this word and is followed by the rest of a member. -/
def atAccessor (word : String) : Parser Bool := do
  if (← peek).is word then return (← peekNext).followsModifier
  else return false

/-- Reads the modifiers before a member.  `constants` allows `const`, and `blocks` leaves the
`static` of a static block alone. -/
def modifiers (constants blocks : Bool) : Parser (List Modifier) :=
  iterate (β := List Modifier) (fun found => do
    let t ← peek
    if !t.isAny modifierWords then return .inr found.reverse
    let next ← peekNext
    let take ←
      if t.is "const" then pure (constants && !next.fresh && next.followsModifier)
      else if t.is "static" && (blocks && next.is openBrace ||
          found.any (fun m => m.name == "static")) then pure false
      else atMemberModifier
    if take then
      bump
      return .inl (⟨t.describe, t.start⟩ :: found)
    else return .inr found.reverse) []

/-- The place of a modifier in the order in which modifiers have to stand. -/
def modifierRank (name : String) : Option Nat :=
  if name == "public" || name == "private" || name == "protected" then some 0
  else if name == "static" then some 1
  else if name == "override" then some 2
  else if name == "readonly" || name == "accessor" || name == "async" then some 3
  else none

/-- Reports the modifiers that are not allowed here, are repeated or stand in the wrong order. -/
def checkModifiers (allowed : List String) : List Modifier → Parser Unit
  | [] => pure ()
  | m :: later => do
    if !allowed.contains m.name then report m.start (.modifier m.name)
    match modifierRank m.name with
    | some rank =>
      match later.find? fun l =>
          l.name == m.name || (modifierRank l.name).any (fun r => r < rank || (rank == 0 && r == 0))
        with
      | some l => report l.start (.modifier l.name)
      | none => pure ()
    | none =>
      match later.find? fun l => l.name == m.name with
      | some l => report l.start (.modifier l.name)
      | none => pure ()
    checkModifiers allowed later

/-- The modifier is among these. -/
def hasModifier (found : List Modifier) (name : String) : Bool := found.any fun m => m.name == name

end Script
end CommandGrove
