import CommandGrove.Plan.Source
import CommandGrove.Proofs.Interface.RecordedNames
import Mathlib.Data.List.Basic

/-!
# Positions of words

The type of a first parameter may be a tuple, and its pattern may take an array apart.  Then every
position carries a name and a kind from the declaration of the function to the program: as an
element of the pattern and of the type, as a slot of the parameter, as an argument of the command
and as a word that the program reads.

## What is here

* `Script.FirstParam` — the parameter that the words on the command line are for.
* `TypeExpr.IsTuple`, `Pattern.boundAt`, `TupleElement.label?`, `TupleElement.type` — what stands
  at the positions of a type and of a pattern.
* `FirstParam.Aligned` — what a plan says about each position; `aligned_planArgument`, the main
  result, that the plan for every first parameter says just that.
* `arguments_of_labelled_rest` — a label that does not get through.
-/

set_option autoImplicit false
namespace CommandGrove

open Script

/-! ## First parameters -/

namespace Script

/-- The parameter that the words on the command line are for. -/
inductive FirstParam where
  | single (p : Param)
  /-- The rest parameter of a function without other parameters. -/
  | rest (r : RestParam)

/-- The first parameter of a function, if it has any. -/
def Callable.first? (f : Callable) : Option FirstParam :=
  match f.params with
  | p :: _ => some (.single p)
  | [] => f.rest.map .rest

namespace FirstParam

/-- The pattern that a first parameter binds. -/
def pattern : FirstParam → Pattern
  | .single p => p.pattern
  | .rest r => r.pattern

/-- The type that a first parameter declares. -/
def type? : FirstParam → Option TypeExpr
  | .single p => p.type
  | .rest r => r.type

/-- The argument that a first parameter stands for. -/
def describe : FirstParam → Parameter
  | .single p => describeParameter p
  | .rest r => describeRest r

/-- A first parameter that cannot be left out: it has neither the mark for that nor an initial
value, and it does not stand for the rest. -/
def IsRequired : FirstParam → Prop
  | .single p => p.optional = false ∧ p.initial = none ∧
      ∀ target initial, p.pattern ≠ .withDefault target initial
  | .rest _ => False

end FirstParam

/-- The argument that a function takes is that of its first parameter. -/
theorem Callable.argument_eq (f : Callable) : f.argument = f.first?.map FirstParam.describe := by
  rw [Callable.argument, Callable.first?]
  cases f.params with
  | nil => cases f.rest <;> rfl
  | cons first others => rfl

theorem Param.hasInitial_eq_false_iff (p : Param) :
    p.hasInitial = false ↔ p.initial = none ∧
      ∀ target initial, p.pattern ≠ .withDefault target initial := by
  rw [hasInitial, Bool.or_eq_false_iff, Option.isSome_eq_false_iff, Option.isNone_iff_eq_none]
  refine and_congr_right fun _ => ?_
  cases p.pattern <;> simp

theorem FirstParam.required_describe (first : FirstParam) :
    first.describe.required = true ↔ first.IsRequired := by
  cases first with
  | single p =>
    refine Iff.trans ?_ (and_congr_right' p.hasInitial_eq_false_iff)
    simp [describe, describeParameter, BoundNames.parameter]
  | rest r => exact iff_of_false Bool.false_ne_true id

/-! ## What stands at a position -/

/-- The type is a tuple of these elements, in parentheses and after `readonly` or not. -/
inductive TypeExpr.IsTuple (elements : List TupleElement) : TypeExpr → Prop
  | tuple : IsTuple elements (.tuple elements)
  | readonly {inner : TypeExpr} (h : IsTuple elements inner) : IsTuple elements (.readonly inner)
  | paren {inner : TypeExpr} (h : IsTuple elements inner) : IsTuple elements (.paren inner)

/-- The label of an element.  A rest element has its label, if any, in its type. -/
def TupleElement.label? : TupleElement → Option String
  | .named label _ => some label
  | .plain _ | .optional _ | .rest _ => none

/-- The type written in an element. -/
def TupleElement.type : TupleElement → TypeExpr
  | .plain type | .optional type | .rest type => type
  | .named _ element => element.type

/-- The name that a pattern binds at a position of an array; the rest element stands behind the
others. -/
def Pattern.boundAt : Pattern → Nat → Option String
  | .withDefault target _, i => target.boundAt i
  | .array elements rest, i =>
    if i < elements.length then (elements[i]?.join).bind boundName
    else if i = elements.length then rest.bind boundName
    else none
  | .identifier _, _ | .object _ _, _ => none

theorem TypeExpr.IsTuple.shape {elements : List TupleElement} {type : TypeExpr}
    (h : type.IsTuple elements) : type.shape = ⟨.tuple, elements.map TupleElement.slotShape⟩ := by
  induction h with
  | tuple => rfl
  | readonly _ ih => exact ih
  | paren _ ih => exact ih

theorem TupleElement.slotShape_eq (element : TupleElement) :
    element.slotShape = (element.label?, element.type.scalarKind) := by
  fun_induction TupleElement.slotShape element with
  | case4 label element ih => rw [ih, label?, TupleElement.type]
  | case1 type | case2 type | case3 type => rfl

/-- The names of a pattern by position. -/
theorem join_elements_ofPattern (pattern : Pattern) (i : Nat) :
    (BoundNames.ofPattern pattern).elements[i]?.join = pattern.boundAt i := by
  fun_induction BoundNames.ofPattern pattern with
  | case1 name => rfl
  | case2 target initial ih => exact ih
  | case3 elements rest =>
    rw [Pattern.boundAt, List.getElem?_append, List.length_map]
    rcases Nat.lt_trichotomy i elements.length with hlt | heq | hgt
    · rw [if_pos hlt, if_pos hlt, List.getElem?_map, List.getElem?_eq_getElem hlt]
      rfl
    · rw [if_neg (by omega), if_neg (by omega), if_pos heq, heq, Nat.sub_self]
      cases rest <;> rfl
    · rw [if_neg (by omega), if_neg (by omega), if_neg (by omega), List.getElem?_eq_none]
      · rfl
      · have hrest : rest.toList.length ≤ 1 := by cases rest <;> simp
        rw [List.length_map]
        omega
  | case4 keys values => rfl

end Script

/-! ## Slots -/

namespace TypeShape

variable (parameter : String) (bound : List (Option String))

/-- The slot at a position. -/
theorem getElem?_tupleSlots (elements : List (Option String × ValueKind)) (start i : Nat) :
    (tupleSlots parameter bound start elements)[i]? =
      elements[i]?.map fun e => ⟨slotName parameter bound (start + i) e.1, e.2⟩ := by
  induction elements generalizing start i with
  | nil => rfl
  | cons e others ih =>
    cases i with
    | zero => rfl
    | succ i =>
      rw [tupleSlots, List.getElem?_cons_succ, List.getElem?_cons_succ, ih, Nat.succ_add_eq_add_succ]

theorem map_kind_tupleSlots (elements : List (Option String × ValueKind)) (start : Nat) :
    (tupleSlots parameter bound start elements).map Slot.kind = elements.map Prod.snd := by
  induction elements generalizing start with
  | nil => rfl
  | cons e others ih => rw [tupleSlots, List.map_cons, ih, List.map_cons]

end TypeShape

/-! ## The program -/

/-- The code that makes a value of a kind of what the code `word` reads. -/
def converted (word : String) : ValueKind → String
  | .number => "__fliCoerce(" ++ word ++ ", \"number\")"
  | .boolean => "__fliCoerce(" ++ word ++ ", \"boolean\")"
  | _ => word

/-- The code that fragments make. -/
def codeOf (fragments : List Fragment) : String := String.ofList (fragments.flatMap Fragment.chars)

@[simp] theorem codeOf_nil : codeOf [] = "" := rfl

@[simp] theorem codeOf_code (text : String) (rest : List Fragment) :
    codeOf (.code text :: rest) = text ++ codeOf rest := by
  simp [codeOf, Fragment.chars]

@[simp] theorem codeOf_quoted (text : String) (rest : List Fragment) :
    codeOf (.quoted text :: rest) = String.ofList (Text.quote text.toList) ++ codeOf rest := by
  simp [codeOf, Fragment.chars]

@[simp] theorem codeOf_append (a b : List Fragment) : codeOf (a ++ b) = codeOf a ++ codeOf b := by
  simp [codeOf]

theorem codeOf_convert (read : List Fragment) (kind : ValueKind) :
    codeOf (convert read kind) = converted (codeOf read) kind := by
  have hnumber : String.ofList (Text.quote ValueKind.number.name.toList) = "\"number\"" := by
    decide
  have hboolean : String.ofList (Text.quote ValueKind.boolean.name.toList) = "\"boolean\"" := by
    decide
  cases kind with
  | number => simp [convert, ValueKind.isConverted, converted, hnumber, String.append_assoc]
  | boolean => simp [convert, ValueKind.isConverted, converted, hboolean, String.append_assoc]
  | string | array | tuple | unknown => rfl

theorem codeOf_wordAt (i : Nat) : codeOf (wordAt i) = "positional[" ++ toString i ++ "]" := by
  simp [wordAt]

theorem codeOf_commaSeparated (expressions : List (List Fragment)) :
    codeOf (commaSeparated expressions) = ", ".intercalate (expressions.map codeOf) := by
  fun_induction commaSeparated expressions with
  | case1 => rfl
  | case2 e => rw [List.map_singleton, String.intercalate_singleton]
  | case3 e rest hrest ih =>
    have hne : rest.map codeOf ≠ [] := fun h => hrest (List.map_eq_nil_iff.1 h)
    rw [codeOf_append, codeOf_code, ih, List.map_cons, String.intercalate_cons_of_ne_nil hne,
      String.append_assoc]

/-- The code that makes an array of the first words, one for each kind. -/
def wordArray (kinds : List ValueKind) : String :=
  "[" ++ ", ".intercalate (kinds.mapIdx fun i kind =>
    converted ("positional[" ++ toString i ++ "]") kind) ++ "]"

/-- The lines for a tuple take as many words as there are kinds, and make an array of them. -/
theorem map_codeOf_lines_tuple (kinds : List ValueKind) :
    (Input.lines (.tuple kinds)).map (fun l => codeOf l.fragments) =
      [ "const positional = received.slice(0, " ++ toString kinds.length ++ ");",
        "const input = " ++ wordArray kinds ++ ";" ] := by
  have hwords : (kinds.zipIdx.map fun x => convert (wordAt x.2) x.1).map codeOf =
      kinds.mapIdx fun i kind => converted ("positional[" ++ toString i ++ "]") kind := by
    rw [List.mapIdx_eq_zipIdx_map, List.map_map]
    refine List.map_congr_left fun x _ => ?_
    exact (codeOf_convert (wordAt x.2) x.1).trans (congrArg (converted · x.1) (codeOf_wordAt x.2))
  simp [Input.lines, Input.expression?, Input.arguments, codeLine, codeOf_commaSeparated, hwords,
    wordArray, String.append_assoc]

/-! ## From the declaration to the program -/

/-- The name of the slot at a position: the name that the pattern binds there, else the label of the
element, else the name of the parameter with the position counted from 1. -/
def Script.FirstParam.slotName (first : FirstParam) (i : Nat) (element : TupleElement) : String :=
  ((first.pattern.boundAt i).or element.label?).getD
    (first.describe.name ++ "-" ++ toString (i + 1))

/-- What a plan says about each position of a first parameter with these elements. -/
structure Script.FirstParam.Aligned (first : FirstParam) (elements : List TupleElement)
    (plan : List Argument × Input) : Prop where
  names : plan.1.map Argument.name = elements.mapIdx first.slotName
  required : first.IsRequired → ∀ a ∈ plan.1, a.arity = .required
  optional : ¬first.IsRequired → ∀ a ∈ plan.1, a.arity = .optional
  kinds : plan.2 = .tuple (elements.map fun e => e.type.scalarKind)
  code : plan.2.lines.map (fun l => codeOf l.fragments) =
    [ "const positional = received.slice(0, " ++ toString elements.length ++ ");",
      "const input = " ++ wordArray (elements.map fun e => e.type.scalarKind) ++ ";" ]

namespace Script.FirstParam

variable {first : FirstParam} {type : TypeExpr} {elements : List TupleElement}

/-- The argument for a tuple has a slot for each of its elements. -/
theorem describe_of_tuple (htype : first.type? = some type) (h : type.IsTuple elements) :
    first.describe.kind = .tuple ∧
      first.describe.slots = TypeShape.tupleSlots first.describe.name
        (BoundNames.ofPattern first.pattern).elements 0 (elements.map TupleElement.slotShape) := by
  cases first with
  | single p =>
    have hp : p.type = some type := htype
    simp [describe, describeParameter, BoundNames.parameter, TypeShape.slots, hp, h.shape, pattern]
  | rest r =>
    have hr : r.type = some type := htype
    simp [describe, describeRest, restShape, BoundNames.parameter, TypeShape.slots, hr, h.shape,
      pattern]

theorem map_name_slots (htype : first.type? = some type) (h : type.IsTuple elements) :
    first.describe.slots.map Slot.name = elements.mapIdx first.slotName := by
  refine List.ext_getElem? fun i => ?_
  rw [(describe_of_tuple htype h).2, List.getElem?_map, TypeShape.getElem?_tupleSlots,
    List.getElem?_map, List.getElem?_mapIdx, Option.map_map, Option.map_map]
  refine congrArg (Option.map · elements[i]?) (funext fun element => ?_)
  simp [TypeShape.slotName, slotName, join_elements_ofPattern, element.slotShape_eq]

theorem map_kind_slots (htype : first.type? = some type) (h : type.IsTuple elements) :
    first.describe.slots.map Slot.kind = elements.map fun e => e.type.scalarKind := by
  rw [(describe_of_tuple htype h).2, TypeShape.map_kind_tupleSlots, List.map_map]
  exact List.map_congr_left fun e _ => congrArg Prod.snd e.slotShape_eq

/-- The plan for a tuple that has elements. -/
theorem plan_of_tuple (htype : first.type? = some type) (h : type.IsTuple elements)
    (hne : elements ≠ []) :
    first.describe.plan =
      (first.describe.slots.map fun s => ⟨s.name, first.describe.arity⟩,
        .tuple (first.describe.slots.map Slot.kind)) := by
  have hslots : first.describe.slots ≠ [] := by
    intro hnil
    have hlength := congrArg List.length (map_kind_slots htype h)
    rw [hnil, List.length_map, List.length_map] at hlength
    exact hne (List.eq_nil_of_length_eq_zero hlength.symm)
  rw [Parameter.plan, (describe_of_tuple htype h).1]
  exact if_neg (by simpa using hslots)

theorem aligned_plan (htype : first.type? = some type) (h : type.IsTuple elements)
    (hne : elements ≠ []) : first.Aligned elements first.describe.plan := by
  have harity : ∀ a ∈ first.describe.plan.1, a.arity = first.describe.arity := by
    rw [plan_of_tuple htype h hne]
    intro a ha
    obtain ⟨s, -, rfl⟩ := List.mem_map.1 ha
    rfl
  have hkinds : first.describe.plan.2 = .tuple (elements.map fun e => e.type.scalarKind) := by
    rw [plan_of_tuple htype h hne, map_kind_slots htype h]
  refine ⟨?_, fun hrequired a ha => ?_, fun hrequired a ha => ?_, hkinds, ?_⟩
  · rw [plan_of_tuple htype h hne, List.map_map]
    exact map_name_slots htype h
  · rw [harity a ha, Parameter.arity, if_pos (first.required_describe.2 hrequired)]
  · rw [harity a ha, Parameter.arity, if_neg (mt first.required_describe.1 hrequired)]
  · rw [hkinds, map_codeOf_lines_tuple, List.length_map]

end Script.FirstParam

/-- **Every position keeps its name and its kind.**  If the first parameter of a function is
declared as a tuple that has elements, then there is an argument for each element, named after what
the pattern binds there or after the element, and the program makes an array of the words for them,
each converted to the kind of its element.  For an array there is one argument, which may be given
any number of times. -/
theorem aligned_planArgument (f : Callable) (first : FirstParam) (hfirst : f.first? = some first) :
    f.argument = some first.describe ∧
      (∀ type elements, first.type? = some type → type.IsTuple elements → elements ≠ [] →
        first.Aligned elements (planArgument f.argument)) ∧
      (first.describe.kind = .array →
        (planArgument f.argument).1 = [⟨first.describe.name, .repeated⟩]) := by
  have hargument : f.argument = some first.describe := by rw [f.argument_eq, hfirst]; rfl
  rw [hargument]
  refine ⟨rfl, fun type elements htype h hne => FirstParam.aligned_plan htype h hne, ?_⟩
  intro harray
  rw [planArgument, Parameter.plan, harray]

/-- The parameter of `function place([a, , ...b]: readonly [x: string, y: number, boolean]) \x7b\x7d`. -/
def placeParam : Param where
  decorators := []
  pattern := .array [some (.identifier "a"), none] (some (.identifier "b"))
  optional := false
  type := some (.readonly (.tuple [.named "x" (.plain .string), .named "y" (.plain .number),
    .plain .boolean]))
  initial := none

theorem aligned_placeParam :
    (planArgument (Callable.argument ⟨"place", [placeParam], none, some []⟩)).1 =
        [⟨"a", .required⟩, ⟨"y", .required⟩, ⟨"b", .required⟩] ∧
      FirstParam.Aligned (.single placeParam)
        [.named "x" (.plain .string), .named "y" (.plain .number), .plain .boolean]
        (planArgument (Callable.argument ⟨"place", [placeParam], none, some []⟩)) :=
  ⟨by decide, (aligned_planArgument ⟨"place", [placeParam], none, some []⟩ (.single placeParam)
    rfl).2.1 _ _ rfl (.readonly .tuple) (List.cons_ne_nil _ _)⟩

/-- The label of a rest element does not become the name of its argument. -/
theorem arguments_of_labelled_rest :
    ∃ m s, ModuleInterface.ofSource "mod.ts"
        "export function f(p: [first: string, ...rest: boolean[]]) \x7b\x7d" = .ok m ∧
      m.find? "f" = some s ∧
      (planArgument s.parameter).1.map Argument.name = ["first", "p-2"] := by
  have hnames : (ModuleInterface.ofSource "mod.ts"
        "export function f(p: [first: string, ...rest: boolean[]]) \x7b\x7d").toOption.map (fun m =>
      (m.find? "f").map fun s => (planArgument s.parameter).1.map Argument.name) =
      some (some ["first", "p-2"]) := by
    decide +kernel
  obtain ⟨m, hm, hfound⟩ := ofSource_of_map _ _ hnames
  obtain ⟨s, hs, heq⟩ := Option.map_eq_some_iff.1 hfound
  exact ⟨m, s, hm, hs, heq⟩

end CommandGrove
