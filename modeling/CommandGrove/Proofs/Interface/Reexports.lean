import CommandGrove.Proofs.Interface.RecordedNames
import Mathlib.Data.List.Basic

/-!
# Functions that are exported again

A function that the module declares can be exported by another statement, by default or under any
name.  It is found if the statement that declares it is no export itself: then its signature is the
one that its parameters tell.  One that is exported where it is declared is not found, so another
export of it is taken for one that cannot be seen, or not at all.

## What is here

* `ModuleInterface.find?_record`, `ModuleInterface.find?_addExport` — what is known under a name
  behind an export.
* `Script.FunctionDeclaration`, `functionDeclarations` — the functions that the top level of a
  module declares, exported or not.
* `find?_localsOf` — which of them are found.
* `singleExports`, `Script.Stmt.reexport?` — the exports of a module one name at a time, and those
  that export a name that is declared elsewhere.
* `describe_parameter_ne` — no function looks like one that cannot be seen.
* `Reexported` — what an export of a declared function makes of the interface so far.
* `reexports_of_declared_once` — the main result.
-/

set_option autoImplicit false
namespace CommandGrove

open Script

/-! ## What is known under a name -/

/-- The signature of a function as it is exported under a name. -/
def Signature.ownedBy (s : Signature) (name : String) : Signature :=
  { s with
    isDefault := name == defaultName
    flags := s.flags.map fun flag => { flag with owner := name } }

namespace ModuleInterface

theorem find?_insert (m : ModuleInterface) (name n : String) (signature : Signature) :
    (m.insert name signature).find? n = if n = name then some signature else m.find? n := by
  obtain ⟨hasDefault, functions⟩ := m
  rw [find?, insert, find?]
  simp only
  induction functions with
  | nil =>
    by_cases hn : n = name
    · simp [put, hn]
    · simp [put, beq_eq_false_iff_ne.2 (Ne.symm hn), hn]
  | cons f rest ih =>
    rw [put]
    by_cases hf : f.1 = name
    · rw [if_pos hf]
      by_cases hn : n = name
      · simp [hn]
      · simp [hf, Ne.symm hn, hn]
    · rw [if_neg hf, List.find?_cons, List.find?_cons]
      by_cases hfn : f.1 = n
      · have hn : n ≠ name := hfn ▸ hf
        simp [hfn, hn]
      · rw [beq_eq_false_iff_ne.2 hfn]
        exact ih

/-- A function is known under the name it is recorded with, unless the name is private. -/
theorem find?_record (m : ModuleInterface) (name n : String) (signature : Signature) :
    (m.record name signature).find? n =
      if n = name ∧ isPublicName name = true then some (signature.ownedBy name) else m.find? n := by
  rw [record, isPublicName]
  by_cases hname : name.toList.head? = some '_'
  · rw [if_pos (beq_iff_eq.2 hname), if_neg]
    rintro ⟨-, hpublic⟩
    exact absurd hname (bne_iff_ne.1 hpublic)
  · rw [if_neg (mt beq_iff_eq.1 hname), find?_insert]
    simp only [bne_iff_ne, ne_eq, hname, not_false_eq_true, and_true]
    rfl

theorem find?_record_of_ne {m : ModuleInterface} {name n : String} {signature : Signature}
    (h : ¬ (n = name ∧ isPublicName n = true)) :
    (m.record name signature).find? n = m.find? n := by
  rw [find?_record, if_neg]
  rintro ⟨rfl, hpublic⟩
  exact h ⟨rfl, hpublic⟩

/-- What no step changes is the same behind all of them. -/
theorem find?_foldl {α : Type} {step : ModuleInterface → α → ModuleInterface} {n : String}
    {xs : List α} (hstep : ∀ m, ∀ x ∈ xs, (step m x).find? n = m.find? n) (m : ModuleInterface) :
    (xs.foldl step m).find? n = m.find? n := by
  induction xs generalizing m with
  | nil => rfl
  | cons x rest ih =>
    rw [List.foldl_cons, ih fun m x hx => hstep m x (List.mem_cons_of_mem _ hx)]
    exact hstep m x List.mem_cons_self

theorem find?_addName {index : CommentIndex} {locals : Locals} {start : Nat} {m : ModuleInterface}
    {item : ExportName} {n : String}
    (h : ¬ (item.isTaken locals = true ∧ n = item.exported ∧ isPublicName n = true)) :
    (addName index locals start m item).find? n = m.find? n := by
  rw [ExportName.isTaken] at h
  rw [addName]
  split
  · next hfind =>
    rw [hfind] at h
    exact find?_record_of_ne fun hn => h ⟨rfl, hn⟩
  · split
    · next hdefault =>
      rw [hdefault, Bool.or_true] at h
      exact find?_record_of_ne fun hn => h ⟨rfl, hn.1.trans (beq_iff_eq.1 hdefault).symm, hn.2⟩
    · rfl

/-- **An export leaves alone what is known under a name that is not taken from it.** -/
theorem find?_addExport {index : CommentIndex} {locals : Locals} {m : ModuleInterface} {s : Stmt}
    {n : String} (h : n ∉ s.recordedNames locals) :
    (addExport index locals m s).find? n = m.find? n := by
  rw [Stmt.recordedNames, List.mem_filter] at h
  revert h
  fun_cases addExport index locals m s with
  | case1 start place f name body hname hbody =>
    rw [Stmt.functionNames, hname, hbody]
    intro h
    exact find?_record_of_ne fun hn => h (by simpa using hn)
  | case2 start place f _ => exact fun _ => rfl
  | case3 start place kind declarators =>
    rw [Stmt.functionNames, addVariables]
    intro h
    refine find?_foldl (fun m f hf => find?_record_of_ne fun hn => h ⟨?_, hn.2⟩) m
    exact List.mem_map.2 ⟨f, hf, hn.1.symm⟩
  | case4 start items =>
    rw [Stmt.functionNames]
    intro h
    refine find?_foldl (fun m item hitem => find?_addName fun hn => h ⟨?_, hn.2.2⟩) m
    exact List.mem_map.2 ⟨item, List.mem_filter.2 ⟨hitem, hn.1⟩, hn.2.1.symm⟩
  | case5 start value signature hvalue =>
    rw [Stmt.functionNames, ← isSome_defaultSignature, hvalue]
    intro h
    exact find?_record_of_ne fun hn => h (by simpa using hn)
  | case6 start value _ => exact fun _ => rfl
  | case7 s _ _ _ _ => exact fun _ => rfl

end ModuleInterface

/-! ## Looking up a local name -/

/-- A name is looked up among the functions that have it. -/
theorem Locals.find?_eq (locals : Locals) (name : String) :
    locals.find? name = ((locals.filter fun f => f.1 == name).getLast?).map Prod.snd := by
  rw [Locals.find?, ← List.head?_filter, List.filter_reverse, List.head?_reverse]

/-! ## Declared functions -/

namespace Script

/-- A function that a statement at the top level declares. -/
structure FunctionDeclaration where
  name : String
  /-- The statement is an export itself. -/
  exported : Bool
  start : Nat
  function : Callable

/-- A function with a name and a body, declared at `start`. -/
def Callable.declaration? (f : Callable) (exported : Bool) (start : Nat) :
    Option FunctionDeclaration :=
  match f.name, f.body with
  | some name, some _ => some ⟨name, exported, start, f⟩
  | _, _ => none

/-- The functions that a declaration declares. -/
def Stmt.plainDeclarations (exported : Bool) : Stmt → List FunctionDeclaration
  | .function start f => (f.declaration? exported start).toList
  | .variable start _ declarators =>
    (declarators.filterMap Declarator.function?).map fun f => ⟨f.1, exported, start, f.2⟩
  | _ => []

/-- The functions that a statement at the top level declares: functions with a body, and variables
that hold a function from the start. -/
def Stmt.functionDeclarations : Stmt → List FunctionDeclaration
  | .exportDeclaration _ _ declared => declared.plainDeclarations true
  | .exportDefault start (.function f) => (f.declaration? true start).toList
  | s => s.plainDeclarations false

/-- The functions that the top level of a module declares. -/
def functionDeclarations (body : List Stmt) : List FunctionDeclaration :=
  body.flatMap Stmt.functionDeclarations

/-! ## Exports one name at a time -/

/-- A list of exports taken apart. -/
def Stmt.singles : Stmt → List Stmt
  | .exportNames start typeOnly names source =>
    names.map fun item => .exportNames start typeOnly [item] source
  | s => [s]

/-- The exports of a module in source order, one name at a time. -/
def singleExports (body : List Stmt) : List Stmt := (stmtExports body).flatMap Stmt.singles

/-- The name that an export of something declared elsewhere in the module exports, and the name it
exports it under. -/
def Stmt.reexport? : Stmt → Option (String × String)
  | .exportDefault _ (.expression (.identifier name)) => some (name, defaultName)
  | .exportNames _ false [item] none => some (item.name, item.exported)
  | _ => none

end Script

namespace ModuleInterface

theorem foldl_singles {index : CommentIndex} {locals : Locals} (m : ModuleInterface) (s : Stmt) :
    s.singles.foldl (addExport index locals) m = addExport index locals m s := by
  cases s with
  | exportNames start typeOnly names source =>
    rw [Stmt.singles, List.foldl_map]
    cases typeOnly with
    | true => exact List.foldl_fixed' (fun _ => rfl) names
    | false =>
      cases source with
      | none => rfl
      | some _ => exact List.foldl_fixed' (fun _ => rfl) names
  | _ => rfl

theorem ofProgram_eq (source : List Char) (program : Program) :
    ofProgram source program = (singleExports program.body).foldl
      (addExport (.ofPlaces source program.comments)
        (localsOf (.ofPlaces source program.comments) program.body)) empty := by
  rw [singleExports, List.foldl_flatMap]
  simp only [foldl_singles]
  rfl

end ModuleInterface

/-! ## Which functions are found -/

theorem Script.exported_of_declaration? {f : Callable} {exported : Bool} {start : Nat}
    {d : FunctionDeclaration} (h : f.declaration? exported start = some d) :
    d.exported = exported := by
  rw [Callable.declaration?] at h
  split at h
  · exact (Option.some.inj h) ▸ rfl
  · exact nomatch h

theorem Script.exported_of_mem_plainDeclarations {exported : Bool} {s : Stmt}
    {d : FunctionDeclaration} (h : d ∈ s.plainDeclarations exported) : d.exported = exported := by
  revert h
  fun_cases Stmt.plainDeclarations exported s with
  | case1 start f =>
    intro h
    exact exported_of_declaration? (Option.mem_toList.1 h)
  | case2 start kind declarators =>
    intro h
    obtain ⟨f, -, rfl⟩ := List.mem_map.1 h
    rfl
  | case3 => exact fun h => nomatch h

/-- The functions that are looked up are those whose statement is no export. -/
theorem declaredFunctions_eq (index : CommentIndex) (s : Stmt) :
    declaredFunctions index s = (s.functionDeclarations.filter fun d => !d.exported).map
      fun d => (d.name, describe index defaultName d.start d.function) := by
  fun_cases Stmt.functionDeclarations s with
  | case1 start typeOnly declared =>
    rw [List.filter_eq_nil_iff.2]
    · rfl
    · intro d hd
      rw [exported_of_mem_plainDeclarations hd]
      exact Bool.false_ne_true
  | case2 start f =>
    rw [List.filter_eq_nil_iff.2]
    · rfl
    · intro d hd
      rw [exported_of_declaration? (Option.mem_toList.1 hd)]
      exact Bool.false_ne_true
  | case3 s h₁ h₂ =>
    rw [List.filter_eq_self.2 fun d hd => by rw [exported_of_mem_plainDeclarations hd]; rfl]
    fun_cases Stmt.plainDeclarations false s with
    | case1 start f =>
      rw [declaredFunctions, Callable.declaration?]
      cases f.name <;> cases f.body <;> rfl
    | case2 start kind declarators =>
      rw [declaredFunctions, List.map_map, List.map_filterMap]
      rfl
    | case3 s h₃ h₄ =>
      rw [declaredFunctions]
      · rfl
      · exact h₃
      · exact h₄

theorem localsOf_eq (index : CommentIndex) (body : List Stmt) :
    localsOf index body = ((functionDeclarations body).filter fun d => !d.exported).map
      fun d => (d.name, describe index defaultName d.start d.function) := by
  rw [localsOf, functionDeclarations, List.filter_flatMap, List.map_flatMap]
  exact List.flatMap_congr fun s _ => declaredFunctions_eq index s

/-- **A function that is declared once is found exactly if its statement is no export.** -/
theorem find?_localsOf (index : CommentIndex) {body : List Stmt} {name : String}
    {d : FunctionDeclaration}
    (h : ((functionDeclarations body).filter fun d => d.name == name) = [d]) :
    (localsOf index body).find? name =
      if d.exported = true then none else some (describe index defaultName d.start d.function) := by
  have hnamed : (localsOf index body).filter (fun f => f.1 == name) =
      ([d].filter fun d => !d.exported).map
        fun d => (d.name, describe index defaultName d.start d.function) := by
    rw [localsOf_eq, List.filter_map, ← h, List.filter_filter, List.filter_filter]
    exact congrArg _ (List.filter_congr fun d _ => Bool.and_comm _ _)
  rw [Locals.find?_eq, hnamed]
  cases hd : d.exported <;> simp [hd]

/-! ## The signature of a function that is exported again -/

/-- The flags of a function are the same whatever it is exported as, but for their owner. -/
theorem map_owner_describeFlags (index : CommentIndex) (owner name : String) (p : Param) :
    (describeFlags index owner p).map (fun flag => { flag with owner := name })
      = describeFlags index name p := by
  rw [describeFlags, describeFlags]
  split
  · rw [List.map_filterMap]
    refine List.filterMap_congr fun member _ => ?_
    cases member <;> rfl
  · rfl

/-- A function that is exported under another name has the signature that it would have if it were
declared under that name. -/
theorem ownedBy_describe (index : CommentIndex) (owner name : String) (start : Nat)
    (f : Callable) : (describe index owner start f).ownedBy name = describe index name start f := by
  rw [Signature.ownedBy, describe, describe]
  simp only [Signature.mk.injEq, true_and]
  refine ⟨?_, trivial⟩
  cases f.params[1]? with
  | none => rfl
  | some p => exact map_owner_describeFlags index owner name p

theorem Script.TypeExpr.scalarKind_ne_array (type : TypeExpr) : type.scalarKind ≠ .array := by
  fun_induction TypeExpr.scalarKind type with
  | case4 inner ih => exact ih
  | _ => exact ValueKind.noConfusion

/-- The shape of an array has one kind for its elements. -/
theorem Script.TypeExpr.length_elements {type : TypeExpr} (h : type.shape.kind = .array) :
    type.shape.elements.length = 1 := by
  revert h
  fun_induction TypeExpr.shape type with
  | case1 element => exact fun _ => rfl
  | case2 elements => exact fun h => ValueKind.noConfusion h
  | case3 name arguments => exact fun _ => rfl
  | case4 name arguments => exact fun h => ValueKind.noConfusion h
  | case5 inner ih => exact ih
  | case6 inner ih => exact ih
  | case7 type => exact fun h => absurd h type.scalarKind_ne_array

theorem Script.TypeExpr.elements_ne_nil {type : TypeExpr} (h : type.shape.kind = .array) :
    type.shape.elements ≠ [] := by
  intro hnil
  have hlength := type.length_elements h
  rw [hnil, List.length_nil] at hlength
  exact Nat.zero_ne_one hlength

/-- A parameter of a function that is an array has a slot for its elements. -/
theorem BoundNames.parameter_ne {names : BoundNames} {shape : TypeShape} {required : Bool}
    (h : shape.kind = .array → shape.elements ≠ []) (name : String) (required' : Bool) :
    names.parameter shape required ≠ ⟨name, .array, required', []⟩ := by
  intro heq
  rw [BoundNames.parameter, Parameter.mk.injEq] at heq
  obtain ⟨-, hkind, -, hslots⟩ := heq
  rw [TypeShape.slots, hkind] at hslots
  exact h hkind (List.map_eq_nil_iff.1 hslots)

/-- **No function looks like one that cannot be seen**: if it takes any number of words, the kind of
the words is known. -/
theorem describe_parameter_ne (index : CommentIndex) (owner : String) (start : Nat) (f : Callable) :
    (describe index owner start f).parameter ≠ untypedDefault.parameter := by
  rw [describe, untypedDefault]
  simp only [Callable.argument]
  split
  · next first _ _ =>
    rw [Ne, Option.some_inj, describeParameter]
    refine BoundNames.parameter_ne ?_ _ _
    cases first.type with
    | none => exact fun h => nomatch h
    | some type => exact type.elements_ne_nil
  · cases f.rest with
    | none => exact fun h => nomatch h
    | some rest =>
      rw [Option.map_some, Ne, Option.some_inj, describeRest]
      refine BoundNames.parameter_ne ?_ _ _
      rw [restShape]
      split
      · next shape hshape =>
        obtain ⟨type, -, rfl⟩ := Option.map_eq_some_iff.1 hshape
        split
        · exact type.elements_ne_nil
        · exact fun _ => List.cons_ne_nil _ _
      · exact fun _ => List.cons_ne_nil _ _

namespace ModuleInterface

/-- The function known under a name has this signature, whatever its description is. -/
def Shows (m : ModuleInterface) (name : String) (signature : Signature) : Prop :=
  ∃ description, m.find? name = some { signature with description := description }

theorem shows_record {m : ModuleInterface} {name : String} {signature : Signature}
    (h : isPublicName name = true) :
    (m.record name signature).Shows name (signature.ownedBy name) := by
  refine ⟨signature.description, ?_⟩
  rw [find?_record, if_pos ⟨rfl, h⟩]
  rfl

theorem Shows.parameter_eq {m : ModuleInterface} {name : String} {s r : Signature}
    (hs : m.Shows name s) (hr : m.Shows name r) : s.parameter = r.parameter := by
  obtain ⟨_, hs⟩ := hs
  obtain ⟨_, hr⟩ := hr
  rw [hs, Option.some_inj, Signature.mk.injEq] at hr
  exact hr.2.2.1

/-- The export of a name that is found takes the signature of the function. -/
theorem shows_of_find?_eq_some (index : CommentIndex) (m : ModuleInterface) {locals : Locals}
    {s : Stmt} {name exported : String} {signature : Signature}
    (hs : s.reexport? = some (name, exported)) (hpublic : isPublicName exported = true)
    (hfind : locals.find? name = some signature) :
    (addExport index locals m s).Shows exported (signature.ownedBy exported) := by
  revert hs
  fun_cases Stmt.reexport? s with
  | case1 start n =>
    intro hs
    obtain ⟨rfl, rfl⟩ := Prod.mk.inj (Option.some.inj hs)
    rw [addExport, defaultSignature, hfind]
    exact shows_record hpublic
  | case2 start item =>
    intro hs
    obtain ⟨rfl, rfl⟩ := Prod.mk.inj (Option.some.inj hs)
    rw [addExport, List.foldl_cons, List.foldl_nil, addName, hfind]
    exact shows_record hpublic
  | case3 => exact fun hs => absurd hs (Option.some_ne_none _).symm

/-- The export of a name that is not found is taken for a function that cannot be seen if it is the
default export, and left out otherwise. -/
theorem addExport_of_find?_eq_none (index : CommentIndex) (m : ModuleInterface) {locals : Locals}
    {s : Stmt} {name exported : String} (hs : s.reexport? = some (name, exported))
    (hfind : locals.find? name = none) :
    if exported = defaultName then (addExport index locals m s).Shows exported untypedDefault
    else addExport index locals m s = m := by
  revert hs
  fun_cases Stmt.reexport? s with
  | case1 start n =>
    intro hs
    obtain ⟨rfl, rfl⟩ := Prod.mk.inj (Option.some.inj hs)
    rw [if_pos rfl, addExport, defaultSignature, hfind]
    exact shows_record (by decide)
  | case2 start item =>
    intro hs
    obtain ⟨rfl, rfl⟩ := Prod.mk.inj (Option.some.inj hs)
    rw [addExport, List.foldl_cons, List.foldl_nil, addName, hfind]
    split
    · next hdefault =>
      rw [hdefault, if_pos (beq_self_eq_true _)]
      exact shows_record (by decide)
    · next hdefault => rw [if_neg (mt beq_iff_eq.1 hdefault)]
  | case3 => exact fun hs => absurd hs (Option.some_ne_none _).symm

/-- What is known under a name stays the same behind exports that take nothing with that name. -/
theorem find?_addExports {index : CommentIndex} {locals : Locals} {n : String} {later : List Stmt}
    (hlater : ∀ r ∈ later, n ∉ r.recordedNames locals) (m : ModuleInterface) :
    (later.foldl (addExport index locals) m).find? n = m.find? n :=
  find?_foldl (fun _ r hr => find?_addExport (hlater r hr)) m

/-- What the export of a declared function under a name makes of the interface `seen` so far: the
interface `now`. -/
structure Reexported (index : CommentIndex) (d : FunctionDeclaration) (name : String)
    (seen now : ModuleInterface) : Prop where
  /-- A function whose statement is no export has the signature that its parameters tell. -/
  typed : d.exported = false → now.Shows name (describe index name d.start d.function) ∧
    ¬ now.Shows name untypedDefault
  /-- One that is exported where it is declared cannot be seen by the default export. -/
  untyped : d.exported = true → name = defaultName → now.Shows name untypedDefault ∧
    ¬ now.Shows name (describe index name d.start d.function)
  /-- Other exports of it are left out. -/
  dropped : d.exported = true → name ≠ defaultName → now = seen

theorem not_shows_both {index : CommentIndex} {owner name : String} {start : Nat} {f : Callable}
    {m : ModuleInterface} (hs : m.Shows name (describe index owner start f)) :
    ¬ m.Shows name untypedDefault :=
  fun hdefault => describe_parameter_ne index owner start f (hs.parameter_eq hdefault)

/-- **An export of a function that the module declares once finds it exactly if the statement that
declares it is no export itself.** -/
theorem reexported_of_declared_once {index : CommentIndex} {body : List Stmt} {f name : String}
    {d : FunctionDeclaration} {s : Stmt} (seen : ModuleInterface)
    (hd : ((functionDeclarations body).filter fun d => d.name == f) = [d])
    (hs : s.reexport? = some (f, name)) (hpublic : isPublicName name = true) :
    Reexported index d name seen (addExport index (localsOf index body) seen s) := by
  have hfind := find?_localsOf index hd
  cases hexported : d.exported with
  | false =>
    rw [hexported, if_neg Bool.false_ne_true] at hfind
    have hshows := shows_of_find?_eq_some index seen hs hpublic hfind
    rw [ownedBy_describe] at hshows
    exact
      { typed := fun _ => ⟨hshows, not_shows_both hshows⟩
        untyped := fun h => absurd (hexported.symm.trans h) Bool.false_ne_true
        dropped := fun h => absurd (hexported.symm.trans h) Bool.false_ne_true }
  | true =>
    rw [if_pos hexported] at hfind
    have htaken := addExport_of_find?_eq_none index seen hs hfind
    refine
      { typed := fun h => absurd (h.symm.trans hexported) Bool.false_ne_true
        untyped := fun _ hname => ?_
        dropped := fun _ hname => ?_ }
    · rw [if_pos hname] at htaken
      exact ⟨htaken, fun hshows => not_shows_both hshows htaken⟩
    · rwa [if_neg hname] at htaken

end ModuleInterface

open ModuleInterface in
/-- **Which exports of declared functions are found.**  The interface of a module is made by its
exports one name after the other.  An export of a function that is declared once gives it the
signature that its parameters tell if the statement that declares it is no export; otherwise a
default export of it is taken for a function that cannot be seen, and other exports of it are left
out.  It stays like that unless a later export takes the same name. -/
theorem reexports_of_declared_once (path source : String) (m : ModuleInterface)
    (h : ModuleInterface.ofSource path source = .ok m) :
    ∃ program, readProgram (.ofPath false path.toList) source.toList = .ok program ∧
      ∃ index locals, index = CommentIndex.ofPlaces source.toList program.comments ∧
        locals = localsOf index program.body ∧
        m = (singleExports program.body).foldl (addExport index locals) empty ∧
        ∀ f d, ((functionDeclarations program.body).filter fun d => d.name == f) = [d] →
          ∀ before s later, singleExports program.body = before ++ s :: later →
            ∀ name, s.reexport? = some (f, name) → isPublicName name = true →
              let seen := before.foldl (addExport index locals) empty
              let now := addExport index locals seen s
              Reexported index d name seen now ∧
                ((∀ r ∈ later, name ∉ r.recordedNames locals) → m.find? name = now.find? name) := by
  obtain ⟨program, hread, rfl⟩ := readProgram_of_ofSource h
  refine ⟨program, hread, _, _, rfl, rfl, ofProgram_eq _ _, ?_⟩
  intro f d hd before s later hsplit name hs hpublic
  refine ⟨reexported_of_declared_once _ hd hs hpublic, fun hlater => ?_⟩
  rw [ofProgram_eq, hsplit, List.foldl_append, List.foldl_cons]
  exact find?_addExports hlater _

/-- The default export of a function that is declared before it. -/
theorem reexports_of_one_function :
    ∃ (m : ModuleInterface) (index : CommentIndex) (d : FunctionDeclaration),
      ModuleInterface.ofSource "mod.ts"
        "function greet(name: string) \x7b\x7d export default greet;" = .ok m ∧
      d.name = "greet" ∧ d.exported = false ∧
      m.Shows defaultName (describe index defaultName d.start d.function) ∧
      ¬ m.Shows defaultName untypedDefault := by
  have hnames : ((ModuleInterface.ofSource "mod.ts"
      "function greet(name: string) \x7b\x7d export default greet;").toOption.map
        ModuleInterface.names) = some [defaultName] := by
    decide +kernel
  obtain ⟨m, h, -⟩ := ofSource_of_names _ _ hnames
  obtain ⟨program, hread, index, locals, -, -, hm, hexports⟩ := reexports_of_declared_once _ _ _ h
  have hprogram : ((readProgram (.ofPath false "mod.ts".toList)
      "function greet(name: string) \x7b\x7d export default greet;".toList).toOption.map
        fun p => ((functionDeclarations p.body).map fun d => (d.name, d.exported),
          (singleExports p.body).map Stmt.reexport?)) =
      some ([("greet", false)], [some ("greet", defaultName)]) := by
    decide +kernel
  obtain ⟨hdeclared, hsingles⟩ := Prod.mk.inj (Option.some.inj (hread ▸ hprogram))
  obtain ⟨d, hdeclared, hd⟩ := List.map_eq_singleton_iff.1 hdeclared
  obtain ⟨s, hsingles, hs⟩ := List.map_eq_singleton_iff.1 hsingles
  obtain ⟨hname, hexported⟩ := Prod.mk.inj hd
  have honce : ((functionDeclarations program.body).filter fun d => d.name == "greet") = [d] := by
    rw [hdeclared, List.filter_singleton, hname, beq_self_eq_true, cond_true]
  obtain ⟨hmade, -⟩ := hexports "greet" d honce [] s [] hsingles defaultName hs (by decide)
  rw [hsingles, List.foldl_cons, List.foldl_nil] at hm
  rw [List.foldl_nil, ← hm] at hmade
  exact ⟨m, index, d, h, hname, hexported, hmade.typed hexported⟩

/-- A function that is declared once, and exported there, is known by its own name, but its default
export is taken for a function that cannot be seen. -/
theorem default_of_exported_function :
    ((readProgram (.ofPath false "mod.ts".toList)
        "export function greet(name: string) \x7b\x7d\nexport default greet;\n".toList).toOption.map
      fun program => ((functionDeclarations program.body).map fun d => (d.name, d.exported),
        (singleExports program.body).map Stmt.reexport?)) =
      some ([("greet", true)], [none, some ("greet", defaultName)]) ∧
    ((ModuleInterface.ofSource "mod.ts"
        "export function greet(name: string) \x7b\x7d\nexport default greet;\n").toOption.map
      fun m => ((m.find? "greet").map Signature.parameter,
        (m.find? defaultName).map Signature.parameter)) =
      some (some (some ⟨"name", .string, true, []⟩), some untypedDefault.parameter) := by
  decide +kernel

end CommandGrove
