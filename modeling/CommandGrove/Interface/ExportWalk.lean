import CommandGrove.Script.Syntax

/-!
# The exports in a syntax tree

## What is here

* `Stmt.exports`, `stmtExports` — the statements that export something, wherever they stand, in
  source order.  What stands inside an exporting statement is not looked at.
-/

set_option autoImplicit false
namespace CommandGrove
namespace Script

mutual

/-- The exporting statements inside an expression. -/
def Expr.exports : Expr → List Stmt
  | .identifier _ | .string _ | .hole => []
  | .template _ holes => exprExports holes
  | .object properties => propertyExports properties
  | .array elements => exprExports elements
  | .spread inner | .paren inner | .cast _ inner _ | .nonNull inner => inner.exports
  | .call callee arguments => callee.exports ++ exprExports arguments
  | .member object index => object.exports ++ optionalExports index
  | .assign _ target value => target.exports ++ value.exports
  | .function f | .arrow f => f.exports
  | .compound _ parts => exprExports parts

/-- The exporting statements inside expressions. -/
def exprExports : List Expr → List Stmt
  | [] => []
  | e :: rest => e.exports ++ exprExports rest

/-- The exporting statements inside an expression that may be left out. -/
def optionalExports : Option Expr → List Stmt
  | none => []
  | some e => e.exports

/-- The exporting statements inside a name of a property. -/
def Key.exports : Key → List Stmt
  | .name _ | .string _ => []
  | .other _ value => optionalExports value

/-- The exporting statements inside a property. -/
def Property.exports : Property → List Stmt
  | .keyed key value => key.exports ++ value.exports
  | .method key value => key.exports ++ value.exports
  | .shorthand _ _ initial => optionalExports initial
  | .spread inner => inner.exports

/-- The exporting statements inside properties. -/
def propertyExports : List Property → List Stmt
  | [] => []
  | p :: rest => p.exports ++ propertyExports rest

/-- The exporting statements inside a pattern. -/
def Pattern.exports : Pattern → List Stmt
  | .identifier _ => []
  | .array elements rest => elementExports elements ++ optionalPatternExports rest
  | .object keys values => exprExports keys ++ patternExports values
  | .withDefault target initial => target.exports ++ initial.exports

/-- The exporting statements inside a pattern that may be left out. -/
def optionalPatternExports : Option Pattern → List Stmt
  | none => []
  | some p => p.exports

/-- The exporting statements inside the elements of a pattern. -/
def elementExports : List (Option Pattern) → List Stmt
  | [] => []
  | p :: rest => optionalPatternExports p ++ elementExports rest

/-- The exporting statements inside patterns. -/
def patternExports : List Pattern → List Stmt
  | [] => []
  | p :: rest => p.exports ++ patternExports rest

/-- The exporting statements inside a parameter. -/
def Param.exports : Param → List Stmt
  | ⟨decorators, pattern, _, _, initial⟩ =>
    exprExports decorators ++ pattern.exports ++ optionalExports initial

/-- The exporting statements inside parameters. -/
def paramExports : List Param → List Stmt
  | [] => []
  | p :: rest => p.exports ++ paramExports rest

/-- The exporting statements inside a rest parameter. -/
def RestParam.exports : RestParam → List Stmt
  | ⟨pattern, _⟩ => pattern.exports

/-- The exporting statements inside a rest parameter that may be left out. -/
def optionalRestExports : Option RestParam → List Stmt
  | none => []
  | some p => p.exports

/-- The exporting statements inside a function. -/
def Callable.exports : Callable → List Stmt
  | ⟨_, params, rest, body⟩ => paramExports params ++ optionalRestExports rest ++ bodyExports body

/-- The exporting statements inside a body that may be left out. -/
def bodyExports : Option (List Stmt) → List Stmt
  | none => []
  | some body => stmtExports body

/-- The exporting statements inside a declared variable. -/
def Declarator.exports : Declarator → List Stmt
  | ⟨pattern, initial⟩ => pattern.exports ++ optionalExports initial

/-- The exporting statements inside declared variables. -/
def declaratorExports : List Declarator → List Stmt
  | [] => []
  | d :: rest => d.exports ++ declaratorExports rest

/-- The exporting statements in a statement: the statement itself, or those inside it. -/
def Stmt.exports : Stmt → List Stmt
  | .function _ f => f.exports
  | .variable _ _ declarators => declaratorExports declarators
  | .exportDeclaration start typeOnly declared => [.exportDeclaration start typeOnly declared]
  | .exportNames start typeOnly names source => [.exportNames start typeOnly names source]
  | .exportDefault start value => [.exportDefault start value]
  | .expression value => value.exports
  | .compound _ parts => stmtExports parts

/-- The exporting statements in statements. -/
def stmtExports : List Stmt → List Stmt
  | [] => []
  | s :: rest => s.exports ++ stmtExports rest

end

end Script
end CommandGrove
