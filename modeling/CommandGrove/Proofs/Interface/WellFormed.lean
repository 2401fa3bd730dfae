import CommandGrove.Proofs.Interface.Reexports
import Mathlib.Data.List.Basic

/-!
# Interfaces that are well formed

The functions of an interface come from many statements: declarations, variables, lists of names
and default exports, some of them through the functions that the module declares elsewhere.
Whichever way one comes, its signature is that of a function of the module or that of a function
that cannot be seen, and it is recorded under one name, which becomes the owner of its flags.

## What is here

* `Script.Program.callables` — the functions of a module that may be recorded.
* `Signature.WellFormed` — what is true of a signature under the name of its function, and
  `Signature.wellFormed_describe`, which says so of every function.
* `Signature.Origin` — where a signature comes from; `Signature.Origin.wellFormed`.
* `ModuleInterface.Sound` — the invariant of an interface while exports are added to it, with a step
  for each way to add one, up to `sound_ofProgram`.
* `wellFormed_of_ofSource` — the main result.
-/

set_option autoImplicit false
namespace CommandGrove

open Script

/-! ## The functions of a module -/

namespace Script

/-- The functions that a declaration declares. -/
def Stmt.declaredCallables : Stmt → List Callable
  | .function _ f => [f]
  | .variable _ _ declarators => (declarators.filterMap Declarator.function?).map Prod.snd
  | _ => []

/-- The functions that a statement declares or exports. -/
def Stmt.callables : Stmt → List Callable
  | .exportDeclaration _ _ declared => declared.declaredCallables
  | .exportDefault _ (.function f) | .exportDefault _ (.expression (.arrow f)) => [f]
  | s => s.declaredCallables

/-- The functions that the top level of a module declares, and those of its exports, wherever these
stand. -/
def Program.callables (p : Program) : List Callable :=
  p.body.flatMap Stmt.callables ++ (stmtExports p.body).flatMap Stmt.callables

end Script

/-! ## Shapes and slots -/

/-- A rest parameter is an array or a tuple. -/
theorem kind_restShape (type : Option TypeExpr) :
    (restShape type).kind = .array ∨ (restShape type).kind = .tuple := by
  rw [restShape]
  split
  · split
    · next hkind => exact hkind
    · exact Or.inl rfl
  · exact Or.inl rfl

theorem length_elements_restShape {type : Option TypeExpr} (h : (restShape type).kind = .array) :
    (restShape type).elements.length = 1 := by
  revert h
  rw [restShape]
  split
  · next shape hshape =>
    obtain ⟨type, -, rfl⟩ := Option.map_eq_some_iff.1 hshape
    split
    · exact fun h => type.length_elements h
    · exact fun _ => rfl
  · exact fun _ => rfl

/-- A parameter has slots that fit its kind: at most one for the elements of an array, and none for
a single value. -/
structure Parameter.SlotsFit (p : Parameter) : Prop where
  array : p.kind = .array → p.slots.length ≤ 1
  single : p.kind ≠ .array → p.kind ≠ .tuple → p.slots = []

theorem BoundNames.slotsFit_parameter {names : BoundNames} {shape : TypeShape} {required : Bool}
    (h : shape.kind = .array → shape.elements.length = 1) :
    (names.parameter shape required).SlotsFit where
  array := by
    intro harray
    have hkind : shape.kind = .array := harray
    rw [BoundNames.parameter, TypeShape.slots, hkind]
    simp [h hkind]
  single := by
    intro harray htuple
    rw [BoundNames.parameter]
    cases hkind : shape.kind with
    | array => exact absurd hkind harray
    | tuple => exact absurd hkind htuple
    | string | number | boolean | unknown => rw [TypeShape.slots, hkind]

/-- **The slots of the argument of any function fit its kind.** -/
theorem slotsFit_argument {f : Callable} {p : Parameter} (h : f.argument = some p) :
    p.SlotsFit := by
  rw [Callable.argument] at h
  split at h
  · next first _ _ =>
    rw [← Option.some.inj h, describeParameter]
    refine BoundNames.slotsFit_parameter ?_
    cases first.type with
    | none => exact fun h => absurd h (by decide)
    | some type => exact type.length_elements
  · obtain ⟨rest, -, rfl⟩ := Option.map_eq_some_iff.1 h
    exact BoundNames.slotsFit_parameter length_elements_restShape

/-- The argument that a rest parameter stands for. -/
theorem argument_of_rest {f : Callable} {r : RestParam} (hparams : f.params = [])
    (hrest : f.rest = some r) :
    ∃ p, f.argument = some p ∧ (p.kind = .array ∨ p.kind = .tuple) ∧ p.required = false := by
  rw [Callable.argument, hparams, hrest]
  exact ⟨describeRest r, rfl, kind_restShape r.type, rfl⟩

/-! ## Flags -/

theorem kind_flagKind (type : Option TypeExpr) :
    flagKind type = .string ∨ flagKind type = .number ∨ flagKind type = .boolean := by
  rw [flagKind]
  split <;> simp

theorem mem_describeFlags {index : CommentIndex} {owner : String} {p : Param} {flag : Flag}
    (h : flag ∈ describeFlags index owner p) :
    flag.owner = owner ∧ (flag.kind = .string ∨ flag.kind = .number ∨ flag.kind = .boolean) := by
  rw [describeFlags] at h
  split at h
  · obtain ⟨member, -, hmember⟩ := List.mem_filterMap.1 h
    cases member with
    | property start name type =>
      rw [← Option.some.inj hmember]
      exact ⟨rfl, kind_flagKind type⟩
    | other => exact absurd hmember.symm (Option.some_ne_none flag)
  · exact absurd h List.not_mem_nil

/-! ## Signatures -/

namespace Signature

/-- What is true of the signature of a function that is recorded under a name. -/
structure WellFormed (name : String) (s : Signature) : Prop where
  isDefault_iff : s.isDefault = true ↔ name = defaultName
  owner : ∀ flag ∈ s.flags, flag.owner = name
  kind : ∀ flag ∈ s.flags, flag.kind = .string ∨ flag.kind = .number ∨ flag.kind = .boolean
  takesFlags : s.flags ≠ [] → s.takesFlags = true
  slotsFit : ∀ p, s.parameter = some p → p.SlotsFit

/-- The description of a function may be anything. -/
theorem WellFormed.described {name : String} {s : Signature} (h : s.WellFormed name)
    (description : Option String) : ({ s with description := description }).WellFormed name :=
  ⟨h.isDefault_iff, h.owner, h.kind, h.takesFlags, h.slotsFit⟩

/-- **The signature of every function is well formed.** -/
theorem wellFormed_describe (index : CommentIndex) (name : String) (start : Nat) (f : Callable) :
    (describe index name start f).WellFormed name := by
  have hflags : ∀ flag ∈ (describe index name start f).flags,
      ∃ p, f.params[1]? = some p ∧ flag ∈ describeFlags index name p := by
    intro flag hflag
    rw [describe] at hflag
    cases hsecond : f.params[1]? with
    | none =>
      rw [hsecond] at hflag
      exact absurd hflag List.not_mem_nil
    | some p =>
      rw [hsecond] at hflag
      exact ⟨p, rfl, hflag⟩
  refine ⟨beq_iff_eq, fun flag hflag => ?_, fun flag hflag => ?_, fun hne => ?_, fun p hp => ?_⟩
  · obtain ⟨p, -, hmem⟩ := hflags flag hflag
    exact (mem_describeFlags hmem).1
  · obtain ⟨p, -, hmem⟩ := hflags flag hflag
    exact (mem_describeFlags hmem).2
  · obtain ⟨flag, hflag⟩ := List.exists_mem_of_ne_nil _ hne
    obtain ⟨p, hsecond, -⟩ := hflags flag hflag
    exact decide_eq_true (List.getElem?_eq_some_iff.1 hsecond).1
  · exact slotsFit_argument hp

theorem wellFormed_untypedDefault : untypedDefault.WellFormed defaultName where
  isDefault_iff := iff_of_true rfl rfl
  owner flag hflag := absurd hflag List.not_mem_nil
  kind flag hflag := absurd hflag List.not_mem_nil
  takesFlags _ := rfl
  slotsFit p hp := by
    rw [← Option.some.inj hp]
    exact ⟨fun _ => Nat.zero_le 1, fun _ _ => rfl⟩

/-- The signature is that of one of the functions, exported as `name`, or that of a default export
that cannot be seen.  Its description may come from another place. -/
inductive Origin (index : CommentIndex) (functions : List Callable) (name : String) :
    Signature → Prop
  | described {f : Callable} (hf : f ∈ functions) (start : Nat) (description : Option String) :
    Origin index functions name { describe index name start f with description := description }
  | unseen (hname : name = defaultName) (description : Option String) :
    Origin index functions name { untypedDefault with description := description }

section Origin

variable {index : CommentIndex} {functions : List Callable} {name : String} {s : Signature}

theorem Origin.wellFormed (h : s.Origin index functions name) : s.WellFormed name := by
  cases h with
  | described _ start description =>
    exact (wellFormed_describe index name start _).described description
  | unseen hname description =>
    rw [hname]
    exact wellFormed_untypedDefault.described description

/-- A function that is recorded under another name comes from the same place. -/
theorem Origin.ownedBy_described {f : Callable} (hf : f ∈ functions) (owner name : String)
    (start : Nat) (description : Option String) :
    (({ describe index owner start f with description := description } : Signature).ownedBy
      name).Origin index functions name := by
  have hdescribed :
      ({ describe index owner start f with description := description } : Signature).ownedBy name
        = { (describe index owner start f).ownedBy name with description := description } := rfl
  rw [hdescribed, ownedBy_describe]
  exact .described hf start description

theorem Origin.ownedBy_unseen (description : Option String) :
    (({ untypedDefault with description := description } : Signature).ownedBy
      defaultName).Origin index functions defaultName := .unseen rfl description

end Origin

end Signature

/-! ## Local functions -/

/-- The functions that are found under local names are among the given ones. -/
def Locals.FoundIn (index : CommentIndex) (functions : List Callable) (locals : Locals) : Prop :=
  ∀ x ∈ locals, ∃ f ∈ functions, ∃ start, x.2 = describe index defaultName start f

theorem Locals.FoundIn.find? {index : CommentIndex} {functions : List Callable} {locals : Locals}
    (h : locals.FoundIn index functions) {name : String} {s : Signature}
    (hs : locals.find? name = some s) :
    ∃ f ∈ functions, ∃ start, s = describe index defaultName start f := by
  obtain ⟨x, hx, rfl⟩ := Option.map_eq_some_iff.1 hs
  exact h x (List.mem_reverse.1 (List.mem_of_find?_eq_some hx))

/-- What the default export of a name makes of it. -/
theorem Locals.FoundIn.ownedBy_getD {index : CommentIndex} {functions : List Callable}
    {locals : Locals} (h : locals.FoundIn index functions) (name : String)
    (description : Option String) :
    (({ (locals.find? name).getD untypedDefault with description := description } :
      Signature).ownedBy defaultName).Origin index functions defaultName := by
  cases hfind : locals.find? name with
  | none => exact .ownedBy_unseen description
  | some s =>
    obtain ⟨f, hf, start, rfl⟩ := h.find? hfind
    exact .ownedBy_described hf _ _ start _

theorem mem_declaredFunctions {index : CommentIndex} {s : Stmt} {x : String × Signature}
    (h : x ∈ declaredFunctions index s) :
    ∃ f ∈ s.callables, ∃ start, x.2 = describe index defaultName start f := by
  revert h
  fun_cases declaredFunctions index s with
  | case1 start f name body hname hbody =>
    intro h
    rw [List.mem_singleton.1 h]
    exact ⟨f, List.mem_singleton_self f, start, rfl⟩
  | case2 start f _ => exact fun h => absurd h List.not_mem_nil
  | case3 start kind declarators =>
    intro h
    obtain ⟨d, hd, hx⟩ := List.mem_filterMap.1 h
    obtain ⟨⟨name, f⟩, hf, rfl⟩ := Option.map_eq_some_iff.1 hx
    exact ⟨f, List.mem_map.2 ⟨(name, f), List.mem_filterMap.2 ⟨d, hd, hf⟩, rfl⟩, start, rfl⟩
  | case4 => exact fun h => absurd h List.not_mem_nil

/-- What is found under the local names of a module are its functions. -/
theorem foundIn_localsOf (index : CommentIndex) (program : Program) :
    (localsOf index program.body).FoundIn index program.callables := by
  intro x hx
  obtain ⟨s, hs, hx⟩ := List.mem_flatMap.1 hx
  obtain ⟨f, hf, start, heq⟩ := mem_declaredFunctions hx
  exact ⟨f, List.mem_append_left _ (List.mem_flatMap.2 ⟨s, hs, hf⟩), start, heq⟩

/-! ## Interfaces -/

namespace ModuleInterface

theorem nodup_map_put {name : String} {value : Signature} {functions : List (String × Signature)}
    (h : (functions.map Prod.fst).Nodup) : ((put name value functions).map Prod.fst).Nodup := by
  induction functions with
  | nil => exact List.nodup_cons.2 ⟨List.not_mem_nil, List.nodup_nil⟩
  | cons f rest ih =>
    rw [List.map_cons, List.nodup_cons] at h
    rw [put]
    split
    · next hf => exact List.nodup_cons.2 ⟨hf ▸ h.1, h.2⟩
    · next hf =>
      refine List.nodup_cons.2 ⟨fun hmem => ?_, ih h.2⟩
      rcases mem_map_put.1 hmem with heq | hmem
      · exact hf heq
      · exact h.1 hmem

theorem mem_put {name : String} {value : Signature} {functions : List (String × Signature)}
    {x : String × Signature} (h : x ∈ put name value functions) :
    x = (name, value) ∨ x ∈ functions := by
  induction functions with
  | nil => exact Or.inl (List.mem_singleton.1 h)
  | cons f rest ih =>
    rw [put] at h
    split at h
    · exact (List.mem_cons.1 h).imp_right (List.mem_cons_of_mem f)
    · rcases List.mem_cons.1 h with rfl | h
      · exact Or.inr List.mem_cons_self
      · exact (ih h).imp_right (List.mem_cons_of_mem f)

/-- What an interface is made of under the names it has. -/
structure WellFormed (m : ModuleInterface) : Prop where
  names_nodup : m.names.Nodup
  names_public : ∀ name ∈ m.names, isPublicName name = true
  hasDefault_iff : m.hasDefault = true ↔ defaultName ∈ m.names
  signature : ∀ x ∈ m.functions, x.2.WellFormed x.1

/-- The interface has been made of some of the functions. -/
structure Sound (index : CommentIndex) (functions : List Callable) (m : ModuleInterface) : Prop
    where
  names_nodup : m.names.Nodup
  names_public : ∀ name ∈ m.names, isPublicName name = true
  hasDefault_iff : m.hasDefault = true ↔ defaultName ∈ m.names
  origin : ∀ x ∈ m.functions, x.2.Origin index functions x.1

section Sound

variable {index : CommentIndex} {functions : List Callable} {locals : Locals}
  {m : ModuleInterface}

theorem Sound.wellFormed (h : m.Sound index functions) : m.WellFormed where
  names_nodup := h.names_nodup
  names_public := h.names_public
  hasDefault_iff := h.hasDefault_iff
  signature x hx := (h.origin x hx).wellFormed

theorem sound_empty : empty.Sound index functions where
  names_nodup := List.nodup_nil
  names_public _ hname := absurd hname List.not_mem_nil
  hasDefault_iff := iff_of_false Bool.false_ne_true List.not_mem_nil
  origin _ hx := absurd hx List.not_mem_nil

theorem hasDefault_record {name : String} {s : Signature} :
    (m.record name s).hasDefault = true ↔ m.hasDefault = true ∨ name = defaultName := by
  rw [record]
  split
  · next hprivate =>
    refine (or_iff_left ?_).symm
    rintro rfl
    exact absurd hprivate (by decide)
  · rw [insert, Bool.or_eq_true, beq_iff_eq]

/-- **Recording a function** keeps an interface sound. -/
theorem Sound.record (h : m.Sound index functions) {name : String} {s : Signature}
    (hs : (s.ownedBy name).Origin index functions name) :
    (m.record name s).Sound index functions where
  names_nodup := by
    rw [ModuleInterface.record]
    split
    · exact h.names_nodup
    · exact nodup_map_put h.names_nodup
  names_public n hn := by
    rcases mem_names_record.1 hn with hn | ⟨-, hpublic⟩
    · exact h.names_public n hn
    · exact hpublic
  hasDefault_iff := by
    have hpublic : isPublicName defaultName = true := by decide
    rw [hasDefault_record, mem_names_record, h.hasDefault_iff, and_iff_left hpublic]
    exact or_congr_right eq_comm
  origin x hx := by
    rw [ModuleInterface.record] at hx
    split at hx
    · exact h.origin x hx
    · rcases mem_put hx with rfl | hx
      · exact hs
      · exact h.origin x hx

theorem Sound.foldl {α : Type} {step : ModuleInterface → α → ModuleInterface} {xs : List α}
    (hstep : ∀ m, m.Sound index functions → ∀ x ∈ xs, (step m x).Sound index functions)
    (h : m.Sound index functions) : (xs.foldl step m).Sound index functions :=
  List.foldlRecOn xs step h hstep

theorem Sound.addVariables (h : m.Sound index functions) {start : Nat}
    {declarators : List Declarator}
    (hd : ∀ f ∈ (declarators.filterMap Declarator.function?).map Prod.snd, f ∈ functions) :
    (addVariables index start m declarators).Sound index functions := by
  refine h.foldl fun m hm x hx => hm.record ?_
  exact Signature.Origin.ownedBy_described (hd x.2 (List.mem_map_of_mem hx)) x.1 x.1 start _

theorem Sound.addName (h : m.Sound index functions) (hlocals : locals.FoundIn index functions)
    (start : Nat) (item : ExportName) :
    (addName index locals start m item).Sound index functions := by
  rw [ModuleInterface.addName]
  split
  · next s hs =>
    obtain ⟨f, hf, place, rfl⟩ := hlocals.find? hs
    exact h.record (.ownedBy_described hf _ _ _ _)
  · split
    · exact h.record (.ownedBy_unseen none)
    · exact h

theorem Sound.addDefault (h : m.Sound index functions) (hlocals : locals.FoundIn index functions)
    {start : Nat} {value : DefaultExport} {s : Signature}
    (hvalue : ∀ f ∈ (Stmt.exportDefault start value).callables, f ∈ functions)
    (hs : defaultSignature index locals start value = some s) :
    (m.record defaultName s).Sound index functions := by
  revert hs
  fun_cases defaultSignature index locals start value with
  | case1 f =>
    intro hs
    rw [← Option.some.inj hs]
    exact h.record (.ownedBy_described (hvalue f (List.mem_singleton_self f)) _ _ start _)
  | case2 f =>
    intro hs
    rw [← Option.some.inj hs]
    exact h.record (.ownedBy_described (hvalue f (List.mem_singleton_self f)) _ _ start _)
  | case3 name known =>
    intro hs
    rw [← Option.some.inj hs]
    exact h.record (hlocals.ownedBy_getD name _)
  | case4 =>
    intro hs
    rw [← Option.some.inj hs]
    exact h.record (.ownedBy_unseen none)
  | case5 => exact fun hs => absurd hs.symm (Option.some_ne_none s)

/-- **An exporting statement keeps an interface sound**, whichever way it exports its functions. -/
theorem Sound.addExport (h : m.Sound index functions) (hlocals : locals.FoundIn index functions)
    {s : Stmt} (hs : ∀ f ∈ s.callables, f ∈ functions) :
    (addExport index locals m s).Sound index functions := by
  fun_cases ModuleInterface.addExport index locals m s with
  | case1 start place f =>
    exact h.record (.ownedBy_described (hs f (List.mem_singleton_self f)) _ _ start _)
  | case2 start place f _ => exact h
  | case3 start place kind declarators => exact h.addVariables hs
  | case4 start items => exact h.foldl fun m hm item _ => hm.addName hlocals start item
  | case5 start value signature hvalue => exact h.addDefault hlocals hs hvalue
  | case6 start value _ => exact h
  | case7 s _ _ _ _ => exact h

/-- **The interface of every module is sound.** -/
theorem sound_ofProgram (source : List Char) (program : Program) :
    (ofProgram source program).Sound (.ofPlaces source program.comments) program.callables := by
  refine sound_empty.foldl fun m hm s hs => hm.addExport (foundIn_localsOf _ program) ?_
  intro f hf
  exact List.mem_append_right _ (List.mem_flatMap.2 ⟨s, hs, hf⟩)

end Sound

end ModuleInterface

/-- **The interface of every module that is read is well formed**: each name is public and stands
for one function, `default` for the default export, which there is just if `hasDefault` says so;
each signature is well formed under its name.  It is that of a function of the module, whatever
else is exported with that function, or that of a default export that cannot be seen; and if it is
that of a function with nothing but a rest parameter, its argument is an array or a tuple that need
not be given. -/
theorem wellFormed_of_ofSource (path source : String) (m : ModuleInterface)
    (h : ModuleInterface.ofSource path source = .ok m) :
    m.WellFormed ∧
      ∃ program, readProgram (.ofPath false path.toList) source.toList = .ok program ∧
        (∀ x ∈ m.functions, x.2.Origin (.ofPlaces source.toList program.comments)
          program.callables x.1) ∧
        ∀ f ∈ program.callables, f.params = [] → ∀ r, f.rest = some r →
          ∀ x ∈ m.functions, x.2.parameter = f.argument →
            ∃ p, x.2.parameter = some p ∧ (p.kind = .array ∨ p.kind = .tuple) ∧
              p.required = false := by
  obtain ⟨program, hread, rfl⟩ := readProgram_of_ofSource h
  have hsound := ModuleInterface.sound_ofProgram source.toList program
  refine ⟨hsound.wellFormed, program, hread, hsound.origin, ?_⟩
  intro f _ hparams r hrest x _ hparameter
  obtain ⟨p, hp, hkind, hrequired⟩ := argument_of_rest hparams hrest
  exact ⟨p, hparameter.trans hp, hkind, hrequired⟩

/-- A function with a flag that is exported under another name, and a rest parameter. -/
theorem wellFormed_of_two_functions :
    ∃ m : ModuleInterface,
      ModuleInterface.ofSource "mod.ts"
        ("function add(a: string[], o: \x7b all: boolean \x7d) \x7b\x7d " ++
          "export \x7b add as put \x7d; export default (...ids: number[]) => 1") = .ok m ∧
      m.functions.map (fun x => (x.1, x.2.flags.map Flag.owner,
          x.2.parameter.map fun p => (p.kind, p.required)))
        = [("put", ["put"], some (.array, true)), ("default", [], some (.array, false))] ∧
      m.WellFormed := by
  have hfunctions : ((ModuleInterface.ofSource "mod.ts"
      ("function add(a: string[], o: \x7b all: boolean \x7d) \x7b\x7d " ++
        "export \x7b add as put \x7d; export default (...ids: number[]) => 1")).toOption.map
      fun m => m.functions.map fun x => (x.1, x.2.flags.map Flag.owner,
        x.2.parameter.map fun p => (p.kind, p.required)))
      = some [("put", ["put"], some (.array, true)), ("default", [], some (.array, false))] := by
    decide +kernel
  obtain ⟨m, h, hview⟩ := ofSource_of_map _ _ hfunctions
  exact ⟨m, h, hview, (wellFormed_of_ofSource _ _ m h).1⟩

end CommandGrove
