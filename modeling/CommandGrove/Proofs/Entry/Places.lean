import CommandGrove.Entry

/-!
# Places in a syntax tree

A syntax tree tells where its statements and some of its members stand.  The same text at another
place is another tree, but without the places it is the same one, and an entry is read without
looking at them.

## What is here

* `Expr.unplaced`, `unplacedStmts` — a tree without its places.
* `textOf?_unplaced`, `objectOf?_unplaced`, `Property.entry?_unplaced` — what expressions and
  properties hold.
* `EntryValues.ofProgram_congr` — modules that differ in their places alone tell the same.
-/

set_option autoImplicit false
namespace CommandGrove
namespace Script

/-! ## Trees without places -/

mutual

/-- A type without places. -/
def TypeExpr.unplaced : TypeExpr → TypeExpr
  | .string => .string
  | .number => .number
  | .boolean => .boolean
  | .array element => .array element.unplaced
  | .tuple elements => .tuple (unplacedElements elements)
  | .reference name arguments => .reference name (unplacedTypes arguments)
  | .readonly inner => .readonly inner.unplaced
  | .paren inner => .paren inner.unplaced
  | .record members => .record (unplacedMembers members)
  | .nullable trailing inner => .nullable trailing inner.unplaced
  | .compound form parts => .compound form (unplacedTypes parts)

/-- Types without places. -/
def unplacedTypes : List TypeExpr → List TypeExpr
  | [] => []
  | type :: rest => type.unplaced :: unplacedTypes rest

/-- A type that may be left out, without places. -/
def unplacedType? : Option TypeExpr → Option TypeExpr
  | none => none
  | some type => some type.unplaced

/-- An element of a tuple type without places. -/
def TupleElement.unplaced : TupleElement → TupleElement
  | .plain type => .plain type.unplaced
  | .optional type => .optional type.unplaced
  | .rest type => .rest type.unplaced
  | .named label element => .named label element.unplaced

/-- Elements of a tuple type without places. -/
def unplacedElements : List TupleElement → List TupleElement
  | [] => []
  | element :: rest => element.unplaced :: unplacedElements rest

/-- A member of a record type without its place. -/
def TypeMember.unplaced : TypeMember → TypeMember
  | .property _ name type => .property 0 name (unplacedType? type)
  | .other => .other

/-- Members of a record type without their places. -/
def unplacedMembers : List TypeMember → List TypeMember
  | [] => []
  | member :: rest => member.unplaced :: unplacedMembers rest

end

mutual

/-- An expression without places. -/
def Expr.unplaced : Expr → Expr
  | .identifier name => .identifier name
  | .string value => .string value
  | .template texts holes => .template texts (unplacedExprs holes)
  | .object properties => .object (unplacedProperties properties)
  | .array elements => .array (unplacedExprs elements)
  | .hole => .hole
  | .spread inner => .spread inner.unplaced
  | .paren inner => .paren inner.unplaced
  | .cast form inner type => .cast form inner.unplaced type.unplaced
  | .nonNull inner => .nonNull inner.unplaced
  | .call callee arguments => .call callee.unplaced (unplacedExprs arguments)
  | .member object index => .member object.unplaced (unplacedExpr? index)
  | .assign plain target value => .assign plain target.unplaced value.unplaced
  | .function f => .function f.unplaced
  | .arrow f => .arrow f.unplaced
  | .compound form parts => .compound form (unplacedExprs parts)

/-- Expressions without places. -/
def unplacedExprs : List Expr → List Expr
  | [] => []
  | e :: rest => e.unplaced :: unplacedExprs rest

/-- An expression that may be left out, without places. -/
def unplacedExpr? : Option Expr → Option Expr
  | none => none
  | some e => some e.unplaced

/-- A name of a property without places. -/
def Key.unplaced : Key → Key
  | .name text => .name text
  | .string value => .string value
  | .other raw value => .other raw (unplacedExpr? value)

/-- A property without places. -/
def Property.unplaced : Property → Property
  | .keyed key value => .keyed key.unplaced value.unplaced
  | .method key value => .method key.unplaced value.unplaced
  | .shorthand _ name initial => .shorthand 0 name (unplacedExpr? initial)
  | .spread inner => .spread inner.unplaced

/-- Properties without places. -/
def unplacedProperties : List Property → List Property
  | [] => []
  | p :: rest => p.unplaced :: unplacedProperties rest

/-- A pattern without places. -/
def Pattern.unplaced : Pattern → Pattern
  | .identifier name => .identifier name
  | .array elements rest => .array (unplacedSlots elements) (unplacedPattern? rest)
  | .object keys values => .object (unplacedExprs keys) (unplacedPatterns values)
  | .withDefault target initial => .withDefault target.unplaced initial.unplaced

/-- A pattern that may be left out, without places. -/
def unplacedPattern? : Option Pattern → Option Pattern
  | none => none
  | some p => some p.unplaced

/-- The elements of a pattern without places. -/
def unplacedSlots : List (Option Pattern) → List (Option Pattern)
  | [] => []
  | p :: rest => unplacedPattern? p :: unplacedSlots rest

/-- Patterns without places. -/
def unplacedPatterns : List Pattern → List Pattern
  | [] => []
  | p :: rest => p.unplaced :: unplacedPatterns rest

/-- A parameter without places. -/
def Param.unplaced : Param → Param
  | ⟨decorators, pattern, optional, type, initial⟩ =>
    ⟨unplacedExprs decorators, pattern.unplaced, optional, unplacedType? type,
      unplacedExpr? initial⟩

/-- Parameters without places. -/
def unplacedParams : List Param → List Param
  | [] => []
  | p :: rest => p.unplaced :: unplacedParams rest

/-- A rest parameter without places. -/
def RestParam.unplaced : RestParam → RestParam
  | ⟨pattern, type⟩ => ⟨pattern.unplaced, unplacedType? type⟩

/-- A rest parameter that may be left out, without places. -/
def unplacedRest? : Option RestParam → Option RestParam
  | none => none
  | some p => some p.unplaced

/-- A function without places. -/
def Callable.unplaced : Callable → Callable
  | ⟨name, params, rest, body⟩ =>
    ⟨name, unplacedParams params, unplacedRest? rest, unplacedBody? body⟩

/-- A body that may be left out, without places. -/
def unplacedBody? : Option (List Stmt) → Option (List Stmt)
  | none => none
  | some body => some (unplacedStmts body)

/-- A declared variable without places. -/
def Declarator.unplaced : Declarator → Declarator
  | ⟨pattern, initial⟩ => ⟨pattern.unplaced, unplacedExpr? initial⟩

/-- Declared variables without places. -/
def unplacedDeclarators : List Declarator → List Declarator
  | [] => []
  | d :: rest => d.unplaced :: unplacedDeclarators rest

/-- What a module exports by default, without places. -/
def DefaultExport.unplaced : DefaultExport → DefaultExport
  | .function f => .function f.unplaced
  | .expression e => .expression e.unplaced
  | .other parts => .other (unplacedExprs parts)

/-- A statement without its place and those in it. -/
def Stmt.unplaced : Stmt → Stmt
  | .function _ f => .function 0 f.unplaced
  | .variable _ kind declarators => .variable 0 kind (unplacedDeclarators declarators)
  | .exportDeclaration _ typeOnly declared => .exportDeclaration 0 typeOnly declared.unplaced
  | .exportNames _ typeOnly names source => .exportNames 0 typeOnly names source
  | .exportDefault _ value => .exportDefault 0 value.unplaced
  | .expression value => .expression value.unplaced
  | .compound form parts => .compound form (unplacedStmts parts)

/-- Statements without places. -/
def unplacedStmts : List Stmt → List Stmt
  | [] => []
  | s :: rest => s.unplaced :: unplacedStmts rest

end

theorem unplacedExpr?_eq_map (e : Option Expr) : unplacedExpr? e = e.map Expr.unplaced := by
  cases e <;> rw [unplacedExpr?] <;> rfl

theorem unplacedProperties_eq_map (properties : List Property) :
    unplacedProperties properties = properties.map Property.unplaced := by
  induction properties with
  | nil => rw [unplacedProperties, List.map_nil]
  | cons p rest ih => rw [unplacedProperties, ih, List.map_cons]

theorem unplacedDeclarators_eq_map (declarators : List Declarator) :
    unplacedDeclarators declarators = declarators.map Declarator.unplaced := by
  induction declarators with
  | nil => rw [unplacedDeclarators, List.map_nil]
  | cons d rest ih => rw [unplacedDeclarators, ih, List.map_cons]

theorem unplacedStmts_eq_map (body : List Stmt) :
    unplacedStmts body = body.map Stmt.unplaced := by
  induction body with
  | nil => rw [unplacedStmts, List.map_nil]
  | cons s rest ih => rw [unplacedStmts, ih, List.map_cons]

end Script

open Script

/-! ## What is read -/

theorem textOf?_unplaced (e : Expr) : textOf? e.unplaced = textOf? e := by
  fun_induction textOf? e with
  | case1 value => rw [Expr.unplaced, textOf?]
  | case2 texts => rw [Expr.unplaced, unplacedExprs, textOf?]
  | case3 inner ih => rw [Expr.unplaced, textOf?, ih]
  | case4 inner type ih => rw [Expr.unplaced, textOf?, ih]
  | case5 e hstring htemplate hparen hcast =>
    cases e with
    | string value => exact absurd rfl (hstring value)
    | template texts holes =>
      cases holes with
      | nil => exact absurd rfl (htemplate texts)
      | cons _ _ => rfl
    | paren inner => exact absurd rfl (hparen inner)
    | cast form inner type =>
      cases form with
      | conversion => exact absurd rfl (hcast inner type)
      | satisfies | angle => rfl
    | _ => rfl

theorem objectOf?_unplaced (e : Expr) :
    objectOf? e.unplaced = (objectOf? e).map unplacedProperties := by
  fun_induction objectOf? e with
  | case1 properties => rfl
  | case2 inner ih => rw [Expr.unplaced, objectOf?, ih]
  | case3 inner type ih => rw [Expr.unplaced, objectOf?, ih]
  | case4 inner type ih => rw [Expr.unplaced, objectOf?, ih]
  | case5 callee argument ih =>
    rw [Expr.unplaced, unplacedExprs, unplacedExprs, objectOf?, ih]
  | case6 e hobject hparen hconversion hsatisfies hcall =>
    cases e with
    | object properties => exact absurd rfl (hobject properties)
    | paren inner => exact absurd rfl (hparen inner)
    | cast form inner type =>
      cases form with
      | conversion => exact absurd rfl (hconversion inner type)
      | satisfies => exact absurd rfl (hsatisfies inner type)
      | angle => rfl
    | call callee arguments =>
      match arguments with
      | [] => rfl
      | [argument] => exact absurd rfl (hcall callee argument)
      | _ :: _ :: _ => rfl
    | _ => rfl

theorem Script.Key.text?_unplaced (key : Key) : key.unplaced.text? = key.text? := by
  cases key <;> rfl

theorem Script.Property.entry?_unplaced (p : Property) : p.unplaced.entry? = p.entry? := by
  cases p with
  | keyed key value =>
    rw [Property.unplaced, Property.entry?, Key.text?_unplaced, textOf?_unplaced, Property.entry?]
  | method key value =>
    rw [Property.unplaced, Property.entry?, Key.text?_unplaced, Property.entry?]
  | shorthand start name initial => rfl
  | spread inner => rfl

namespace EntryValues

theorem ofProperties_unplaced (properties : List Property) :
    ofProperties (unplacedProperties properties) = ofProperties properties := by
  have hentry : Property.entry? ∘ Property.unplaced = Property.entry? :=
    funext Property.entry?_unplaced
  rw [ofProperties, unplacedProperties_eq_map, List.filterMap_map, hentry, ofProperties]

end EntryValues

theorem initialOf?_unplaced (body : List Stmt) (name : String) :
    initialOf? (unplacedStmts body) name = (initialOf? body name).map Expr.unplaced := by
  rw [unplacedStmts_eq_map, initialOf?, List.findSome?_map, initialOf?, List.map_findSome?]
  congr 1
  funext s
  match s with
  | .variable start kind declarators =>
    simp only [Function.comp_apply, Stmt.unplaced, unplacedDeclarators_eq_map, List.findSome?_map,
      List.map_findSome?]
    congr 1
    funext ⟨pattern, initial⟩
    match pattern with
    | .identifier declared =>
      simp only [Function.comp_apply, Declarator.unplaced, Pattern.unplaced, unplacedExpr?_eq_map]
      split <;> rfl
    | .array _ _ | .object _ _ | .withDefault _ _ => rfl
  | .function _ _ | .exportDeclaration _ _ _ | .exportNames _ _ _ _ | .exportDefault _ _
  | .expression _ | .compound _ _ => rfl

theorem entryObject?_unplaced (body : List Stmt) :
    entryObject? (unplacedStmts body) = (entryObject? body).map unplacedProperties := by
  have hinitial := initialOf?_unplaced body
  rw [entryObject?, entryObject?]
  -- the statements are gone through once, and all of them again for the name of a variable
  generalize initialOf? (unplacedStmts body) = initial' at hinitial ⊢
  generalize initialOf? body = initial at hinitial ⊢
  rw [unplacedStmts_eq_map, List.findSome?_map, List.map_findSome?]
  congr 1
  funext s
  match s with
  | .exportDefault start (.expression e) =>
    cases e with
    | identifier name =>
      simp only [Function.comp_apply, Stmt.unplaced, DefaultExport.unplaced, Expr.unplaced,
        hinitial]
      cases initial name with
      | none => rfl
      | some e => exact objectOf?_unplaced e
    | _ => exact objectOf?_unplaced _
  | .exportDefault _ (.function _) | .exportDefault _ (.other _) => rfl
  | .function _ _ | .variable _ _ _ | .exportDeclaration _ _ _ | .exportNames _ _ _ _
  | .expression _ | .compound _ _ => rfl

/-- **Modules that differ in their places alone** tell the same. -/
theorem EntryValues.ofProgram_congr {program program' : Program}
    (h : unplacedStmts program.body = unplacedStmts program'.body) :
    ofProgram program = ofProgram program' := by
  have hobject : (entryObject? program.body).map unplacedProperties =
      (entryObject? program'.body).map unplacedProperties := by
    rw [← entryObject?_unplaced, ← entryObject?_unplaced, h]
  rw [ofProgram, ofProgram]
  cases hthis : entryObject? program.body with
  | none =>
    rw [hthis, Option.map_none, eq_comm, Option.map_eq_none_iff] at hobject
    rw [hobject]
  | some properties =>
    rw [hthis, Option.map_some, eq_comm, Option.map_eq_some_iff] at hobject
    obtain ⟨properties', hother, hproperties⟩ := hobject
    rw [hother]
    change ofProperties properties = ofProperties properties'
    rw [← ofProperties_unplaced, ← hproperties, ofProperties_unplaced]

end CommandGrove
