import CommandGrove.Interface.TypeShape
import Mathlib.Data.List.Basic
import Mathlib.Logic.Relation

/-!
# Parentheses in types

A type may be written with more parentheses than it needs, around all of it or around any part of
it, and an array in five ways.  None of this reaches a command line: the shape of the type, its kind
as a single value and its kind as a flag stay the same.

## What is here

* `TypeExpr.Wraps`, `TupleElement.Wraps`, `TypeMember.Wraps` — one more pair of parentheses
  somewhere in a type, in an element of a tuple and in a member of a record.
* `TypeExpr.Wraps.scalarKind_eq`, `TupleElement.Wraps.slotShape_eq`, `TypeExpr.Wraps.shape_eq` — what
  one pair leaves alone.
* `TypeExpr.arrayForms` — the five ways to write an array.
* `TypeExpr.reading_unchanged` — arrays have one shape however they are written, and parentheses
  change nothing, wherever and however often they are put.
-/

set_option autoImplicit false
namespace CommandGrove
namespace Script

/-! ## One more pair -/

mutual

/-- The second type is the first one with one more pair of parentheses, around all of it or
somewhere in it. -/
inductive TypeExpr.Wraps : TypeExpr → TypeExpr → Prop
  | here (type : TypeExpr) : TypeExpr.Wraps type (.paren type)
  | array {type type' : TypeExpr} (h : TypeExpr.Wraps type type') :
      TypeExpr.Wraps (.array type) (.array type')
  | tuple (before after : List TupleElement) {element element' : TupleElement}
      (h : TupleElement.Wraps element element') :
      TypeExpr.Wraps (.tuple (before ++ element :: after)) (.tuple (before ++ element' :: after))
  | reference (name : List String) (before after : List TypeExpr) {type type' : TypeExpr}
      (h : TypeExpr.Wraps type type') :
      TypeExpr.Wraps (.reference name (before ++ type :: after))
        (.reference name (before ++ type' :: after))
  | readonly {type type' : TypeExpr} (h : TypeExpr.Wraps type type') :
      TypeExpr.Wraps (.readonly type) (.readonly type')
  | paren {type type' : TypeExpr} (h : TypeExpr.Wraps type type') :
      TypeExpr.Wraps (.paren type) (.paren type')
  | record (before after : List TypeMember) {member member' : TypeMember}
      (h : TypeMember.Wraps member member') :
      TypeExpr.Wraps (.record (before ++ member :: after)) (.record (before ++ member' :: after))
  | nullable (trailing : Bool) {type type' : TypeExpr} (h : TypeExpr.Wraps type type') :
      TypeExpr.Wraps (.nullable trailing type) (.nullable trailing type')
  | compound (form : TypeForm) (before after : List TypeExpr) {type type' : TypeExpr}
      (h : TypeExpr.Wraps type type') :
      TypeExpr.Wraps (.compound form (before ++ type :: after))
        (.compound form (before ++ type' :: after))

/-- One more pair of parentheses in the type of an element. -/
inductive TupleElement.Wraps : TupleElement → TupleElement → Prop
  | plain {type type' : TypeExpr} (h : TypeExpr.Wraps type type') :
      TupleElement.Wraps (.plain type) (.plain type')
  | optional {type type' : TypeExpr} (h : TypeExpr.Wraps type type') :
      TupleElement.Wraps (.optional type) (.optional type')
  | rest {type type' : TypeExpr} (h : TypeExpr.Wraps type type') :
      TupleElement.Wraps (.rest type) (.rest type')
  | named (label : String) {element element' : TupleElement}
      (h : TupleElement.Wraps element element') :
      TupleElement.Wraps (.named label element) (.named label element')

/-- One more pair of parentheses in the type of a member. -/
inductive TypeMember.Wraps : TypeMember → TypeMember → Prop
  | property (start : Nat) (name : String) {type type' : TypeExpr} (h : TypeExpr.Wraps type type') :
      TypeMember.Wraps (.property start name (some type)) (.property start name (some type'))
  /-- Parentheses before a property move its place. -/
  | moved (start start' : Nat) (name : String) (type : Option TypeExpr) :
      TypeMember.Wraps (.property start name type) (.property start' name type)

end

/-! ## What it leaves alone -/

theorem TypeExpr.Wraps.scalarKind_eq {type type' : TypeExpr} (h : type.Wraps type') :
    type'.scalarKind = type.scalarKind := by
  match h with
  | .here _ => rfl
  | .paren h => exact h.scalarKind_eq
  | .array _ | .tuple _ _ _ | .reference _ _ _ _ | .readonly _ | .record _ _ _ | .nullable _ _
  | .compound _ _ _ _ => rfl

theorem TupleElement.Wraps.slotShape_eq {element element' : TupleElement}
    (h : element.Wraps element') : element'.slotShape = element.slotShape := by
  match h with
  | .plain h | .optional h | .rest h =>
    simp only [TupleElement.slotShape, h.scalarKind_eq]
  | .named label h => simp only [TupleElement.slotShape, h.slotShape_eq]

theorem TypeExpr.Wraps.shape_eq {type type' : TypeExpr} (h : type.Wraps type') :
    type'.shape = type.shape := by
  match h with
  | .here _ => rfl
  | .array h => simp only [TypeExpr.shape, h.scalarKind_eq]
  | .tuple before after h =>
    simp only [TypeExpr.shape, List.map_append, List.map_cons, h.slotShape_eq]
  | .reference name before after h =>
    -- Of the arguments only the kind of the first one is read.
    simp only [TypeExpr.shape, ← List.head?_map, List.map_append, List.map_cons, h.scalarKind_eq]
  | .readonly h | .paren h => simp only [TypeExpr.shape, h.shape_eq]
  | .record _ _ _ | .nullable _ _ | .compound _ _ _ _ => rfl

/-! ## Arrays -/

/-- The ways to write an array with elements of a type. -/
def TypeExpr.arrayForms (element : TypeExpr) : List TypeExpr :=
  [.array element, .reference ["Array"] [element], .reference ["ReadonlyArray"] [element],
    .readonly (.array element), .readonly (.paren (.array element))]

theorem TypeExpr.shape_of_mem_arrayForms {element form : TypeExpr}
    (h : form ∈ element.arrayForms) : form.shape = .array element.scalarKind := by
  simp only [arrayForms, List.mem_cons, List.not_mem_nil, or_false] at h
  rcases h with rfl | rfl | rfl | rfl | rfl
  all_goals rfl

/-! ## Any number of pairs -/

/-- **How a type is written does not change how it is read.**  An array has one shape in all five
forms; and parentheses around a type or any part of it, at any depth and any number of times, change
neither its shape nor its kind as a single value nor its kind as a flag. -/
theorem TypeExpr.reading_unchanged :
    (∀ element form : TypeExpr, form ∈ element.arrayForms →
      form.shape = (TypeExpr.array element).shape) ∧
    ∀ type type' : TypeExpr, Relation.ReflTransGen TypeExpr.Wraps type type' →
      type'.shape = type.shape ∧ type'.scalarKind = type.scalarKind ∧
        flagKind (some type') = flagKind (some type) := by
  refine ⟨fun element form h => TypeExpr.shape_of_mem_arrayForms h, fun type type' h => ?_⟩
  induction h with
  | refl => exact ⟨rfl, rfl, rfl⟩
  | tail _ hlast ih =>
    obtain ⟨hshape, hscalar, hflag⟩ := ih
    have hkind := hlast.scalarKind_eq
    refine ⟨hlast.shape_eq.trans hshape, hkind.trans hscalar, ?_⟩
    rw [← hflag, flagKind, flagKind, Option.map_some, Option.map_some, hkind]

/-- `readonly (string[])` is read as `string[]`, and `[first: ((string))?, ...number[]]` as
`[first: string?, ...number[]]`. -/
theorem TypeExpr.reading_unchanged_of_two_types :
    let form := TypeExpr.readonly (.paren (.array .string))
    let behind := [TupleElement.rest (.array .number)]
    let type := TypeExpr.tuple (.named "first" (.optional .string) :: behind)
    let type' := TypeExpr.tuple (.named "first" (.optional (.paren (.paren .string))) :: behind)
    (form ∈ TypeExpr.string.arrayForms ∧ form.shape = (TypeExpr.array .string).shape) ∧
      Relation.ReflTransGen TypeExpr.Wraps type type' ∧ type'.shape = type.shape := by
  intro form behind type type'
  have hform : form ∈ TypeExpr.string.arrayForms := by simp [form, TypeExpr.arrayForms]
  have hwraps : Relation.ReflTransGen TypeExpr.Wraps type type' := by
    refine .tail (.single ?_) (.tuple [] behind (.named "first" (.optional (.here (.paren .string)))))
    exact .tuple [] behind (.named "first" (.optional (.here .string)))
  obtain ⟨harrays, hparens⟩ := TypeExpr.reading_unchanged
  exact ⟨⟨hform, harrays .string form hform⟩, hwraps, (hparens type type' hwraps).1⟩

end Script
end CommandGrove
