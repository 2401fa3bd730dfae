import CommandGrove.Script.Token

/-!
# Syntax trees of modules

The tree keeps what the readers of a module look at and, for every other construct, its parts in
source order, so that nothing nested in it is out of reach.

## What is here

* `TypeExpr` — a type as it is written, parentheses included; `TupleElement` and `TypeMember` are
  the parts of tuples and of record types.
* `Expr`, `Pattern`, `Callable`, `Stmt` — expressions, binding patterns, functions of every kind
  and statements.
* `Program` — a whole source with its comments.
-/

set_option autoImplicit false
namespace CommandGrove
namespace Script

/-! ## Types -/

/-- The forms of types that are kept as their parts only. -/
inductive TypeForm where
  | keyword | this | literal | template | union | intersection | function | constructor
  | conditional | infer | operator | indexed | mapped | query | imported | predicate | labelled
  | nonNullable
  deriving DecidableEq, Repr

mutual

/-- A type as it is written. -/
inductive TypeExpr where
  /-- The keyword `string`. -/
  | string
  /-- The keyword `number`. -/
  | number
  /-- The keyword `boolean`. -/
  | boolean
  /-- `T[]`. -/
  | array (element : TypeExpr)
  /-- `[A, B]`. -/
  | tuple (elements : List TupleElement)
  /-- A dotted name with type arguments. -/
  | reference (name : List String) (arguments : List TypeExpr)
  /-- `readonly T`. -/
  | readonly (inner : TypeExpr)
  /-- `(T)`. -/
  | paren (inner : TypeExpr)
  /-- A list of members in braces. -/
  | record (members : List TypeMember)
  /-- `T?` or `?T`. -/
  | nullable (trailing : Bool) (inner : TypeExpr)
  /-- Any other type, with the types written in it. -/
  | compound (form : TypeForm) (parts : List TypeExpr)

/-- An element of a tuple type. -/
inductive TupleElement where
  | plain (type : TypeExpr)
  /-- `T?`. -/
  | optional (type : TypeExpr)
  /-- `...T`. -/
  | rest (type : TypeExpr)
  /-- `label: T`. -/
  | named (label : String) (element : TupleElement)

/-- A member of a record type. -/
inductive TypeMember where
  /-- A property with its place, its name as it reads and its type. -/
  | property (start : Nat) (name : String) (type : Option TypeExpr)
  /-- A method, a call or an index signature. -/
  | other

end

/-! ## Expressions, patterns, functions and statements -/

/-- The forms of casts. -/
inductive CastForm where
  /-- `e as T`. -/
  | conversion
  /-- `e satisfies T`. -/
  | satisfies
  /-- `<T>e`. -/
  | angle
  deriving DecidableEq, Repr

/-- The forms of expressions that are kept as their parts only. -/
inductive ExprForm where
  | number | bigInteger | regularExpression | constant | super | privateName
  | unary | update | binary | logical | coalesce | conditional | sequence | await | yield
  | new | importCall | metaProperty | tagged | chain | instantiation | classBody | element
  deriving DecidableEq, Repr

/-- The forms of statements that are kept as their parts only. -/
inductive StmtForm where
  | empty | block | branch | loop | jump | attempt | labelled | declaration | space
  deriving DecidableEq, Repr

/-- The keyword of a declaration of variables. -/
inductive VariableKind where
  | var | let | const | using
  deriving DecidableEq, Repr

/-- A name in a list of exports, and the name it is exported under. -/
structure ExportName where
  name : String
  exported : String
  deriving DecidableEq, Repr

mutual

/-- An expression. -/
inductive Expr where
  | identifier (name : String)
  | string (value : String)
  /-- A template: the texts between its holes, and the expressions in them. -/
  | template (texts : List (Option String)) (holes : List Expr)
  | object (properties : List Property)
  | array (elements : List Expr)
  /-- A place left out in an array. -/
  | hole
  /-- `...e`, in an array or among arguments. -/
  | spread (inner : Expr)
  | paren (inner : Expr)
  | cast (form : CastForm) (inner : Expr) (type : TypeExpr)
  /-- `e!`. -/
  | nonNull (inner : Expr)
  | call (callee : Expr) (arguments : List Expr)
  /-- A member of a value, and the expression in brackets that names it, if any does. -/
  | member (object : Expr) (index : Option Expr)
  /-- An assignment; `plain` if it is made with `=` alone. -/
  | assign (plain : Bool) (target : Expr) (value : Expr)
  | function (f : Callable)
  | arrow (f : Callable)
  /-- Any other expression, with the expressions written in it. -/
  | compound (form : ExprForm) (parts : List Expr)

/-- The name of a property. -/
inductive Key where
  | name (text : String)
  | string (value : String)
  /-- A number, or an expression in brackets. -/
  | other (raw : String) (value : Option Expr)

/-- A property of an object literal. -/
inductive Property where
  | keyed (key : Key) (value : Expr)
  /-- A method or an accessor. -/
  | method (key : Key) (value : Callable)
  /-- A name alone, with the value it takes in a pattern. -/
  | shorthand (start : Nat) (name : String) (initial : Option Expr)
  | spread (inner : Expr)

/-- A binding pattern. -/
inductive Pattern where
  | identifier (name : String)
  /-- Elements by position, where one may be left out, and the rest element. -/
  | array (elements : List (Option Pattern)) (rest : Option Pattern)
  /-- Names in brackets and the patterns of the properties, the rest included. -/
  | object (keys : List Expr) (values : List Pattern)
  | withDefault (target : Pattern) (initial : Expr)

/-- A parameter of a function. -/
structure Param where
  decorators : List Expr
  pattern : Pattern
  optional : Bool
  type : Option TypeExpr
  initial : Option Expr

/-- The rest parameter of a function. -/
structure RestParam where
  pattern : Pattern
  type : Option TypeExpr

/-- A function of any kind; one that is only declared has no body, and an arrow function with an
expression for a body has the one statement of it. -/
structure Callable where
  name : Option String
  params : List Param
  rest : Option RestParam
  body : Option (List Stmt)

/-- A variable with its initial value. -/
structure Declarator where
  pattern : Pattern
  initial : Option Expr

/-- What a module exports under the name `default`. -/
inductive DefaultExport where
  | function (f : Callable)
  | expression (e : Expr)
  /-- A class or an interface. -/
  | other (parts : List Expr)

/-- A statement; `start` is the offset of its first character. -/
inductive Stmt where
  | function (start : Nat) (f : Callable)
  | variable (start : Nat) (kind : VariableKind) (declarators : List Declarator)
  /-- `export` before a declaration; `typeOnly` if it declares nothing to run. -/
  | exportDeclaration (start : Nat) (typeOnly : Bool) (declared : Stmt)
  /-- A list of exported names, from another module if `source` is given. -/
  | exportNames (start : Nat) (typeOnly : Bool) (names : List ExportName) (source : Option String)
  | exportDefault (start : Nat) (value : DefaultExport)
  | expression (value : Expr)
  /-- Any other statement, with the statements written in it. -/
  | compound (form : StmtForm) (parts : List Stmt)

end

/-- A source that was read. -/
structure Program where
  body : List Stmt
  /-- The comments in source order. -/
  comments : List Comment

end Script
end CommandGrove
