import CommandGrove.Proofs.Attempts
import CommandGrove.Proofs.Entry.Places
import Mathlib

/-!
# Objects of entries

An entry exports an object by default.  What the object stands in, and what its values stand in,
does not change what the entry tells: of each key the last property counts, and each of them has to
be written out.

## What is here

* `Expr.ConvertedIn`, `Expr.WrappedIn` — what a text and an object can stand in.
* `Expr.IsText`, `Property.HasKey`, `Property.Gives` — texts that are written out, and what a
  property gives to a key.
* `IsLast` — the text that the last property with a key gives to it.
* `Collects`, `ofProperties_eq_ok_iff` — when an object tells something, and what.
* `ExportsByDefault`, `entryObject?_eq` — the default export of a module, and the object in it.
* `EntryValues.ofSource_of_wrapped` — the main result.
-/

set_option autoImplicit false
namespace CommandGrove

open Script

/-! ## What expressions stand in -/

namespace Script

/-- The first expression, with any number of parentheses and conversions around it. -/
inductive Expr.ConvertedIn (inner : Expr) : Expr → Prop
  | bare : ConvertedIn inner inner
  | paren {e : Expr} (h : ConvertedIn inner e) : ConvertedIn inner (.paren e)
  | conversion {e : Expr} (type : TypeExpr) (h : ConvertedIn inner e) :
      ConvertedIn inner (.cast .conversion e type)

/-- The first expression, with any number of parentheses, conversions, `satisfies` clauses and calls
around it of which it is the only argument.  A call in an optional chain, such as `f?.(e)` or
`a?.b(e)`, is a part of the chain and no such call. -/
inductive Expr.WrappedIn (inner : Expr) : Expr → Prop
  | bare : WrappedIn inner inner
  | paren {e : Expr} (h : WrappedIn inner e) : WrappedIn inner (.paren e)
  | conversion {e : Expr} (type : TypeExpr) (h : WrappedIn inner e) :
      WrappedIn inner (.cast .conversion e type)
  | satisfies {e : Expr} (type : TypeExpr) (h : WrappedIn inner e) :
      WrappedIn inner (.cast .satisfies e type)
  | call {e : Expr} (callee : Expr) (h : WrappedIn inner e) : WrappedIn inner (.call callee [e])

end Script

theorem textOf?_of_convertedIn {inner e : Expr} (h : inner.ConvertedIn e) :
    textOf? e = textOf? inner := by
  induction h with
  | bare => rfl
  | paren _ ih => rw [textOf?, ih]
  | conversion type _ ih => rw [textOf?, ih]

theorem objectOf?_of_wrappedIn {inner e : Expr} (h : inner.WrappedIn e) :
    objectOf? e = objectOf? inner := by
  induction h with
  | bare => rfl
  | paren _ ih => rw [objectOf?, ih]
  | conversion type _ ih | satisfies type _ ih => rw [objectOf?, ih]
  | call callee _ ih => rw [objectOf?, ih]

/-! ## Texts and keys -/

namespace Script

/-- The expression is a text that is written out: a string, or a template without holes. -/
inductive Expr.IsLiteral (text : String) : Expr → Prop
  | string : IsLiteral text (.string text)
  | template (rest : List (Option String)) : IsLiteral text (.template (some text :: rest) [])

/-- The expression is a text that is written out, perhaps with parentheses and conversions around
it. -/
def Expr.IsText (text : String) (e : Expr) : Prop :=
  ∃ literal : Expr, literal.IsLiteral text ∧ literal.ConvertedIn e

/-- The key is this text: it is a name, or a string, in brackets or not. -/
def Key.Is (key : Key) (text : String) : Prop := key = .name text ∨ key = .string text

/-- The property has this text for a key. -/
inductive Property.HasKey (text : String) : Property → Prop
  | keyed {key : Key} (h : key.Is text) (value : Expr) : HasKey text (.keyed key value)
  | method {key : Key} (h : key.Is text) (value : Callable) : HasKey text (.method key value)
  | shorthand (start : Nat) (initial : Option Expr) : HasKey text (.shorthand start text initial)

/-- The property gives a text to a key. -/
inductive Property.Gives (text : String) (given : String) : Property → Prop
  | keyed {key : Key} (h : key.Is text) {value : Expr} (hvalue : value.IsText given) :
      Gives text given (.keyed key value)

end Script

theorem textOf?_eq_some_iff {e : Expr} {text : String} :
    textOf? e = some text ↔ e.IsText text := by
  constructor
  · intro h
    fun_induction textOf? e with
    | case1 value =>
      obtain rfl := Option.some.inj h
      exact ⟨_, .string, .bare⟩
    | case2 texts =>
      obtain ⟨rest, rfl⟩ := List.head?_eq_some_iff.1 (Option.join_eq_some_iff.1 h)
      exact ⟨_, .template rest, .bare⟩
    | case3 inner ih =>
      obtain ⟨literal, hliteral, hin⟩ := ih h
      exact ⟨literal, hliteral, hin.paren⟩
    | case4 inner type ih =>
      obtain ⟨literal, hliteral, hin⟩ := ih h
      exact ⟨literal, hliteral, hin.conversion type⟩
    | case5 => cases h
  · rintro ⟨literal, hliteral, hin⟩
    rw [textOf?_of_convertedIn hin]
    cases hliteral <;> rfl

theorem Script.Key.text?_eq_some_iff {key : Key} {text : String} :
    key.text? = some text ↔ key.Is text := by
  cases key <;> simp [Key.text?, Key.Is]

namespace Script.Property

theorem hasKey_iff {p : Property} {key : String} :
    p.HasKey key ↔ ∃ value, p.entry? = some (key, value) := by
  constructor
  · rintro (⟨h, value⟩ | ⟨h, value⟩ | ⟨start, initial⟩)
    · exact ⟨textOf? value, by rw [Property.entry?, Key.text?_eq_some_iff.2 h, Option.map_some]⟩
    · exact ⟨none, by rw [Property.entry?, Key.text?_eq_some_iff.2 h, Option.map_some]⟩
    · exact ⟨none, rfl⟩
  · rintro ⟨value, h⟩
    cases p with
    | keyed key value =>
      obtain ⟨text, htext, hpair⟩ := Option.map_eq_some_iff.1 h
      obtain ⟨rfl, -⟩ := Prod.mk.inj hpair
      exact .keyed (Key.text?_eq_some_iff.1 htext) value
    | method key value =>
      obtain ⟨text, htext, hpair⟩ := Option.map_eq_some_iff.1 h
      obtain ⟨rfl, -⟩ := Prod.mk.inj hpair
      exact .method (Key.text?_eq_some_iff.1 htext) value
    | shorthand start name initial =>
      obtain ⟨rfl, -⟩ := Prod.mk.inj (Option.some.inj h)
      exact .shorthand start initial
    | spread inner => exact absurd h.symm (Option.some_ne_none _)

theorem gives_iff {p : Property} {key text : String} :
    p.Gives key text ↔ p.entry? = some (key, some text) := by
  constructor
  · rintro ⟨h, hvalue⟩
    rw [Property.entry?, Key.text?_eq_some_iff.2 h, Option.map_some, textOf?_eq_some_iff.2 hvalue]
  · intro h
    cases p with
    | keyed key value =>
      obtain ⟨text, htext, hpair⟩ := Option.map_eq_some_iff.1 h
      obtain ⟨rfl, hvalue⟩ := Prod.mk.inj hpair
      exact .keyed (Key.text?_eq_some_iff.1 htext) (textOf?_eq_some_iff.1 hvalue)
    | method key value =>
      obtain ⟨text, -, hpair⟩ := Option.map_eq_some_iff.1 h
      exact absurd (Prod.mk.inj hpair).2.symm (Option.some_ne_none _)
    | shorthand start name initial =>
      exact absurd (Prod.mk.inj (Option.some.inj h)).2.symm (Option.some_ne_none _)
    | spread inner => exact absurd h.symm (Option.some_ne_none _)

theorem Gives.hasKey {p : Property} {key text : String} (h : p.Gives key text) : p.HasKey key :=
  hasKey_iff.2 ⟨_, gives_iff.1 h⟩

theorem entry?_unique {p : Property} {key key' : String} {value value' : Option String}
    (h : p.entry? = some (key, value)) (h' : p.entry? = some (key', value')) :
    key' = key ∧ value' = value := by
  obtain ⟨rfl, rfl⟩ := Prod.mk.inj (Option.some.inj (h.symm.trans h'))
  exact ⟨rfl, rfl⟩

end Script.Property

/-! ## The last property with a key -/

/-- The text that the last property with a key gives to it; there is none if no property has the
key. -/
def IsLast (properties : List Property) (key : String) : Option String → Prop
  | none => ∀ p ∈ properties, ¬p.HasKey key
  | some text => ∃ before p after, properties = before ++ p :: after ∧ p.Gives key text ∧
      ∀ q ∈ after, ¬q.HasKey key

section Last

variable {properties : List Property} {p : Property} {key : String} {value : Option String}

theorem isLast_nil_iff : IsLast [] key value ↔ value = none := by
  cases value with
  | none => exact iff_of_true (fun _ h => absurd h List.not_mem_nil) rfl
  | some text =>
    refine iff_of_false ?_ (Option.some_ne_none text)
    rintro ⟨before, p, after, h, -⟩
    exact List.append_ne_nil_of_right_ne_nil before (List.cons_ne_nil p after) h.symm

theorem isLast_concat_of_not_hasKey (h : ¬p.HasKey key) :
    IsLast (properties ++ [p]) key value ↔ IsLast properties key value := by
  cases value with
  | none =>
    simp only [IsLast, List.mem_append, List.mem_singleton]
    exact ⟨fun hall q hq => hall q (Or.inl hq), fun hall q hq =>
      hq.elim (hall q) fun hq => hq ▸ h⟩
  | some text =>
    constructor
    · rintro ⟨before, q, after, hsplit, hgives, hafter⟩
      rcases List.eq_nil_or_concat after with rfl | ⟨front, last, rfl⟩
      · obtain ⟨-, hlast⟩ := List.append_inj' hsplit rfl
        obtain rfl := List.singleton_inj.1 hlast
        exact absurd hgives.hasKey h
      · rw [List.concat_eq_append, ← List.cons_append, ← List.append_assoc] at hsplit
        obtain ⟨hfront, -⟩ := List.append_inj' hsplit rfl
        exact ⟨before, q, front, hfront, hgives, fun r hr =>
          hafter r (List.concat_eq_append ▸ List.mem_append_left _ hr)⟩
    · rintro ⟨before, q, after, rfl, hgives, hafter⟩
      refine ⟨before, q, after ++ [p], List.append_assoc before (q :: after) [p], hgives, ?_⟩
      intro r hr
      rcases List.mem_append.1 hr with hr | hr
      · exact hafter r hr
      · exact List.mem_singleton.1 hr ▸ h

theorem isLast_concat_of_gives {text : String} (h : p.Gives key text) :
    IsLast (properties ++ [p]) key value ↔ value = some text := by
  cases value with
  | none =>
    refine iff_of_false (fun hall => ?_) (Option.some_ne_none text).symm
    exact hall p (List.mem_append_right properties (List.mem_singleton_self p)) h.hasKey
  | some other =>
    constructor
    · rintro ⟨before, q, after, hsplit, hgives, hafter⟩
      rcases List.eq_nil_or_concat after with rfl | ⟨front, last, rfl⟩
      · obtain ⟨-, hlast⟩ := List.append_inj' hsplit rfl
        obtain rfl := List.singleton_inj.1 hlast
        exact (Property.entry?_unique (Property.gives_iff.1 h) (Property.gives_iff.1 hgives)).2
      · rw [List.concat_eq_append, ← List.cons_append, ← List.append_assoc] at hsplit
        obtain ⟨-, hlast⟩ := List.append_inj' hsplit rfl
        obtain rfl := List.singleton_inj.1 hlast
        exact absurd h.hasKey (hafter p (by simp))
    · intro hother
      obtain rfl := Option.some.inj hother
      exact ⟨properties, p, [], rfl, h, fun _ hq => absurd hq List.not_mem_nil⟩

theorem exists_isLast (h : ∀ p ∈ properties, p.HasKey key → ∃ text, p.Gives key text) :
    ∃ value, IsLast properties key value := by
  induction properties using List.reverseRecOn with
  | nil => exact ⟨none, isLast_nil_iff.2 rfl⟩
  | append_singleton properties p ih =>
    by_cases hkey : p.HasKey key
    · obtain ⟨text, hgives⟩ := h p (by simp) hkey
      exact ⟨some text, (isLast_concat_of_gives hgives).2 rfl⟩
    · obtain ⟨value, hvalue⟩ := ih fun q hq => h q (List.mem_append_left [p] hq)
      exact ⟨value, (isLast_concat_of_not_hasKey hkey).2 hvalue⟩

end Last

/-! ## What an object tells -/

/-- The keys that an entry is told by. -/
def entryKeys : List String := ["baseDir", "name"]

namespace EntryValues

/-- The value that belongs to one of the keys. -/
def value? (values : EntryValues) (key : String) : Option String :=
  if key = "name" then values.name else values.baseDir

/-- The properties tell these values: each property with one of the keys gives a text to it, and the
values are those of the last ones. -/
structure Collects (properties : List Property) (values : EntryValues) : Prop where
  literal : ∀ key ∈ entryKeys, ∀ p ∈ properties, p.HasKey key → ∃ text, p.Gives key text
  baseDir : IsLast properties "baseDir" values.baseDir
  name : IsLast properties "name" values.name

theorem collects_iff {properties : List Property} {values : EntryValues} :
    Collects properties values ↔
      (∀ key ∈ entryKeys, ∀ p ∈ properties, p.HasKey key → ∃ text, p.Gives key text) ∧
        ∀ key ∈ entryKeys, IsLast properties key (values.value? key) := by
  have hlast : (∀ key ∈ entryKeys, IsLast properties key (values.value? key)) ↔
      IsLast properties "baseDir" values.baseDir ∧ IsLast properties "name" values.name := by
    rw [entryKeys, List.forall_mem_cons, List.forall_mem_singleton]
    rfl
  rw [hlast]
  exact ⟨fun h => ⟨h.literal, h.baseDir, h.name⟩, fun ⟨hliteral, hbase, hname⟩ =>
    ⟨hliteral, hbase, hname⟩⟩

/-- The values that properties give, whether or not the place of the commands is among them. -/
def collect (properties : List Property) : Except LoadFault EntryValues :=
  (properties.filterMap Property.entry?).foldlM (fun v p => v.set p.1 p.2) empty

section Set

variable {values values' : EntryValues} {key : String}

theorem mem_entryKeys_iff : key ∈ entryKeys ↔ (key == "baseDir" || key == "name") = true := by
  simp [entryKeys]

theorem set_of_notMem (h : key ∉ entryKeys) (value : Option String) :
    values.set key value = .ok values := by
  unfold set
  rw [if_neg (mt mem_entryKeys_iff.2 h)]

theorem set_none (h : key ∈ entryKeys) : values.set key none = .error (.notLiteral key) := by
  unfold set
  rw [if_pos (mem_entryKeys_iff.1 h)]

theorem set_some_eq_ok_iff (h : key ∈ entryKeys) {text : String} :
    values.set key (some text) = .ok values' ↔ values'.value? key = some text ∧
      ∀ other ∈ entryKeys, other ≠ key → values'.value? other = values.value? other := by
  obtain ⟨base, name⟩ := values
  obtain ⟨base', name'⟩ := values'
  rcases List.mem_cons.1 h with rfl | h
  · simp [set, value?, entryKeys, and_comm, eq_comm]
  · obtain rfl := List.mem_singleton.1 h
    simp [set, value?, entryKeys, and_comm, eq_comm]

end Set

section Collect

variable {properties : List Property} {p : Property}

theorem collect_concat_of_none (h : p.entry? = none) :
    collect (properties ++ [p]) = collect properties := by
  rw [collect, List.filterMap_append, List.filterMap_cons_none h, List.filterMap_nil,
    List.append_nil, collect]

theorem collect_concat_of_some {key : String} {value : Option String}
    (h : p.entry? = some (key, value)) :
    collect (properties ++ [p]) = collect properties >>= fun v => v.set key value := by
  rw [collect, List.filterMap_append, List.filterMap_cons_some h, List.filterMap_nil,
    List.foldlM_append, collect]
  refine bind_congr fun v => ?_
  rw [List.foldlM_cons]
  exact bind_pure _

/-- A property that has none of the keys does not matter. -/
theorem collects_concat_of_not_hasKey {values : EntryValues}
    (h : ∀ key ∈ entryKeys, ¬p.HasKey key) :
    Collects (properties ++ [p]) values ↔ Collects properties values := by
  rw [collects_iff, collects_iff]
  refine and_congr (forall₂_congr fun key hkey => ?_) (forall₂_congr fun key hkey => ?_)
  · rw [List.forall_mem_append, List.forall_mem_singleton]
    exact and_iff_left fun hp => absurd hp (h key hkey)
  · exact isLast_concat_of_not_hasKey (h key hkey)

/-- There are values for any choice of a value for each key. -/
theorem exists_value?_eq (choice : String → Option String) :
    ∃ values : EntryValues, ∀ key ∈ entryKeys, values.value? key = choice key := by
  refine ⟨⟨choice "baseDir", choice "name"⟩, ?_⟩
  rw [entryKeys, List.forall_mem_cons, List.forall_mem_singleton]
  exact ⟨rfl, rfl⟩

/-- A text that a property gives to a key takes the place of the one before. -/
theorem collects_concat_of_gives {values : EntryValues} {key text : String}
    (hkey : key ∈ entryKeys) (h : p.Gives key text) :
    Collects (properties ++ [p]) values ↔
      ∃ before, Collects properties before ∧ before.set key (some text) = .ok values := by
  have hother {other : String} (hne : other ≠ key) : ¬p.HasKey other := by
    intro hp
    obtain ⟨value, hvalue⟩ := Property.hasKey_iff.1 hp
    exact hne (Property.entry?_unique (Property.gives_iff.1 h) hvalue).1
  simp only [collects_iff, set_some_eq_ok_iff hkey]
  constructor
  · rintro ⟨hliteral, hlast⟩
    have hfront : ∀ other ∈ entryKeys, ∀ q ∈ properties, q.HasKey other →
        ∃ text, q.Gives other text :=
      fun other hmem q hq => hliteral other hmem q (List.mem_append_left [p] hq)
    obtain ⟨value, hvalue⟩ := exists_isLast (hfront key hkey)
    obtain ⟨before, hbefore⟩ :=
      exists_value?_eq fun other => if other = key then value else values.value? other
    refine ⟨before, ⟨hfront, fun other hmem => ?_⟩, ?_, fun other hmem hne => ?_⟩
    · rw [hbefore other hmem]
      split
      · next heq => exact heq ▸ hvalue
      · next hne => exact (isLast_concat_of_not_hasKey (hother hne)).1 (hlast other hmem)
    · exact (isLast_concat_of_gives h).1 (hlast key hkey)
    · rw [hbefore other hmem, if_neg hne]
  · rintro ⟨before, ⟨hliteral, hlast⟩, hset, hsame⟩
    refine ⟨fun other hmem q hq hqkey => ?_, fun other hmem => ?_⟩
    · rcases List.mem_append.1 hq with hq | hq
      · exact hliteral other hmem q hq hqkey
      · obtain rfl := List.mem_singleton.1 hq
        by_cases heq : other = key
        · exact ⟨text, heq ▸ h⟩
        · exact absurd hqkey (hother heq)
    · by_cases heq : other = key
      · rw [heq, hset]
        exact (isLast_concat_of_gives h).2 rfl
      · rw [hsame other hmem heq]
        exact (isLast_concat_of_not_hasKey (hother heq)).2 (hlast other hmem)

theorem collects_nil_iff {values : EntryValues} : Collects [] values ↔ values = empty := by
  obtain ⟨base, name⟩ := values
  rw [empty, EntryValues.mk.injEq]
  constructor
  · exact fun h => ⟨isLast_nil_iff.1 h.baseDir, isLast_nil_iff.1 h.name⟩
  · rintro ⟨rfl, rfl⟩
    exact ⟨fun _ _ _ hp => absurd hp List.not_mem_nil, isLast_nil_iff.2 rfl, isLast_nil_iff.2 rfl⟩

/-- **What is collected** from the properties, one after the other, is what they tell. -/
theorem collect_eq_ok_iff {values : EntryValues} :
    collect properties = .ok values ↔ Collects properties values := by
  induction properties using List.reverseRecOn generalizing values with
  | nil =>
    rw [collects_nil_iff]
    exact ⟨fun h => (Except.ok.inj h).symm, fun h => congrArg Except.ok h.symm⟩
  | append_singleton properties p ih =>
    cases hentry : p.entry? with
    | none =>
      have hnone : ∀ key ∈ entryKeys, ¬p.HasKey key := by
        intro key _ hp
        obtain ⟨value, hvalue⟩ := Property.hasKey_iff.1 hp
        exact nomatch hentry.symm.trans hvalue
      rw [collect_concat_of_none hentry, collects_concat_of_not_hasKey hnone, ih]
    | some entry =>
      obtain ⟨key, value⟩ := entry
      rw [collect_concat_of_some hentry]
      by_cases hkey : key ∈ entryKeys
      · cases value with
        | none =>
          refine iff_of_false (fun h => ?_) fun h => ?_
          · obtain ⟨before, -, hset⟩ := Attempt.bind_eq_ok_iff.1 h
            exact nomatch (set_none hkey).symm.trans hset
          · obtain ⟨text, hgives⟩ := h.literal key hkey p
              (List.mem_append_right properties (List.mem_singleton_self p))
              (Property.hasKey_iff.2 ⟨none, hentry⟩)
            exact nomatch hentry.symm.trans (Property.gives_iff.1 hgives)
        | some text =>
          rw [Attempt.bind_eq_ok_iff,
            collects_concat_of_gives hkey (Property.gives_iff.2 hentry)]
          exact exists_congr fun before => and_congr_left fun _ => ih
      · have hnone : ∀ other ∈ entryKeys, ¬p.HasKey other := by
          intro other hother hp
          obtain ⟨value', hvalue⟩ := Property.hasKey_iff.1 hp
          exact hkey ((Property.entry?_unique hentry hvalue).1 ▸ hother)
        simp only [set_of_notMem hkey]
        rw [collects_concat_of_not_hasKey hnone, ← ih]
        exact iff_of_eq (congrArg (· = Except.ok values) (bind_pure (collect properties)))

end Collect

/-- **When an object tells something, and what:** one property at least has to tell where the
commands are. -/
theorem ofProperties_eq_ok_iff {properties : List Property} {values : EntryValues} :
    ofProperties properties = .ok values ↔
      (∃ p ∈ properties, p.HasKey "baseDir") ∧ Collects properties values := by
  have hbase (h : Collects properties values) :
      values.baseDir.isNone = true ↔ ¬∃ p ∈ properties, p.HasKey "baseDir" := by
    have hlast := h.baseDir
    rw [Option.isNone_iff_eq_none]
    cases hvalue : values.baseDir with
    | none =>
      rw [hvalue] at hlast
      exact iff_of_true rfl fun ⟨p, hp, hkey⟩ => hlast p hp hkey
    | some text =>
      rw [hvalue] at hlast
      obtain ⟨before, p, after, hsplit, hgives, -⟩ := hlast
      exact iff_of_false (Option.some_ne_none text) fun h => h ⟨p, by simp [hsplit], hgives.hasKey⟩
  rw [ofProperties, ← collect, Attempt.bind_eq_ok_iff]
  constructor
  · rintro ⟨found, hfound, h⟩
    have hcollects := collect_eq_ok_iff.1 hfound
    split at h
    · cases h
    · next hsome =>
      obtain rfl := Except.ok.inj h
      exact ⟨not_not.1 (mt (hbase hcollects).2 hsome), hcollects⟩
  · rintro ⟨hkey, hcollects⟩
    refine ⟨values, collect_eq_ok_iff.2 hcollects, ?_⟩
    rw [if_neg fun hnone => (hbase hcollects).1 hnone hkey]
    rfl

end EntryValues

/-! ## The default export -/

namespace Script

/-- The statement exports something by default. -/
def Stmt.isDefaultExport : Stmt → Bool
  | .exportDefault _ _ => true
  | _ => false

/-- The module exports this by default, and nothing else. -/
def ExportsByDefault (body : List Stmt) (value : DefaultExport) : Prop :=
  ∃ front start back, body = front ++ .exportDefault start value :: back ∧
    ∀ s ∈ front ++ back, s.isDefaultExport = false

end Script

/-- The object in what is exported by default, if variables have these initial values. -/
def Script.DefaultExport.object? (initial : String → Option Expr) :
    DefaultExport → Option (List Property)
  | .expression (.identifier name) => (initial name).bind objectOf?
  | .expression e => objectOf? e
  | .function _ | .other _ => none

/-- The object in a statement that exports something by default. -/
def Script.Stmt.object? (initial : String → Option Expr) : Stmt → Option (List Property)
  | .exportDefault _ value => value.object? initial
  | _ => none

theorem entryObject?_eq_findSome? (body : List Stmt) :
    entryObject? body = body.findSome? (Stmt.object? (initialOf? body)) := by
  rw [entryObject?]
  congr 1
  funext s
  cases s with
  | exportDefault start value =>
    cases value with
    | expression e => cases e <;> rfl
    | function f | other parts => rfl
  | _ => rfl

theorem findSome?_object?_eq_none {initial : String → Option Expr} {body : List Stmt}
    (h : ∀ s ∈ body, s.isDefaultExport = false) :
    body.findSome? (Stmt.object? initial) = none := by
  refine List.findSome?_eq_none_iff.2 fun s hs => ?_
  match s, h s hs with
  | .function _ _, _ | .variable _ _ _, _ | .exportDeclaration _ _ _, _
  | .exportNames _ _ _ _, _ | .expression _, _ | .compound _ _, _ => rfl

/-- **The object of a module** is the one in its default export. -/
theorem entryObject?_eq {body : List Stmt} {value : DefaultExport}
    (h : ExportsByDefault body value) :
    entryObject? body = value.object? (initialOf? body) := by
  rw [entryObject?_eq_findSome?]
  generalize initialOf? body = initial
  obtain ⟨front, start, back, rfl, hothers⟩ := h
  rw [List.forall_mem_append] at hothers
  rw [List.findSome?_append, findSome?_object?_eq_none hothers.1, Option.none_or,
    List.findSome?_cons, Stmt.object?]
  cases hvalue : value.object? initial with
  | none => exact findSome?_object?_eq_none hothers.2
  | some properties => rfl

/-! ## What a module tells -/

namespace Script

/-- The second property is the first one at another place, perhaps with parentheses and conversions
around its value. -/
inductive Property.RestatedAs : Property → Property → Prop
  | moved {p p' : Property} (h : p'.unplaced = p.unplaced) : RestatedAs p p'
  | converted (key : Key) {value value' value'' : Expr} (h : value'.unplaced = value.unplaced)
      (hconverted : value'.ConvertedIn value'') :
      RestatedAs (.keyed key value) (.keyed key value'')

end Script

theorem entry?_of_restatedAs {p p' : Property} (h : p.RestatedAs p') : p'.entry? = p.entry? := by
  cases h with
  | moved h => rw [← Property.entry?_unplaced, h, Property.entry?_unplaced]
  | converted key h hconverted =>
    rw [Property.entry?, textOf?_of_convertedIn hconverted, ← textOf?_unplaced, h,
      textOf?_unplaced, Property.entry?]

namespace EntryValues

theorem ofProperties_of_restatedAs {properties properties' : List Property}
    (h : List.Forall₂ Property.RestatedAs properties properties') :
    ofProperties properties' = ofProperties properties := by
  have hentries : properties'.filterMap Property.entry? = properties.filterMap Property.entry? := by
    induction h with
    | nil => rfl
    | cons hp _ ih =>
      rw [List.filterMap_cons, List.filterMap_cons, entry?_of_restatedAs hp, ih]
  rw [ofProperties, hentries, ofProperties]

theorem ofSource_of_readProgram {path source : String} {program : Program}
    (h : readProgram (.ofPath true path.toList) source.toList = .ok program) :
    ofSource path source = (ofProgram program).mapError (.load path) := by
  rw [ofSource, h]

theorem ofProgram_of_object {program : Program} {properties : List Property}
    (h : entryObject? program.body = some properties) :
    ofProgram program = ofProperties properties := by
  rw [ofProgram, h]

/-- An object that stands in something is the one that the module exports. -/
theorem entryObject?_of_wrappedIn {body : List Stmt} {properties : List Property} {e : Expr}
    (hdefault : ExportsByDefault body (.expression e))
    (hwrapped : (Expr.object properties).WrappedIn e) : entryObject? body = some properties := by
  rw [entryObject?_eq hdefault]
  cases hwrapped with
  | bare => rfl
  | paren h | conversion _ h | satisfies _ h | call _ h => exact objectOf?_of_wrappedIn h

/-- **What an entry tells depends on its object alone.**  A module tells the same, or fails in the
same way, whatever parentheses, conversions, `satisfies` clauses and calls with one argument stand
around the object, calls in an optional chain left aside, wherever its parts stand, and whatever
parentheses and conversions stand around the values in it.  It tells something exactly if one
property has the key `baseDir` and each property with the key `baseDir` or `name` has a text that is
written out for a value; then it tells the texts of the last ones.  A string in brackets is a key as
well, but no other expression in brackets is. -/
theorem ofSource_of_wrapped {path source source' : String} {program program' : Program}
    {properties properties' : List Property} {e : Expr}
    (hread : readProgram (.ofPath true path.toList) source.toList = .ok program)
    (hread' : readProgram (.ofPath true path.toList) source'.toList = .ok program')
    (hdefault : ExportsByDefault program.body (.expression (.object properties)))
    (hdefault' : ExportsByDefault program'.body (.expression e))
    (hwrapped : (Expr.object properties').WrappedIn e)
    (hrestated : List.Forall₂ Property.RestatedAs properties properties') :
    ofSource path source' = ofSource path source ∧
      ∀ values, ofSource path source = .ok values ↔
        (∃ p ∈ properties, p.HasKey "baseDir") ∧ Collects properties values := by
  have hobject := entryObject?_of_wrappedIn hdefault .bare
  have hobject' := entryObject?_of_wrappedIn hdefault' hwrapped
  rw [ofSource_of_readProgram hread, ofSource_of_readProgram hread', ofProgram_of_object hobject,
    ofProgram_of_object hobject', ofProperties_of_restatedAs hrestated]
  refine ⟨rfl, fun values => ?_⟩
  rw [Attempt.mapError_eq_ok_iff, ofProperties_eq_ok_iff]

/-- Properties of an object: the name is given twice. -/
def toolProperties : List Property :=
  [.keyed (.name "name") (.string "a"), .keyed (.name "baseDir") (.string "b"),
    .keyed (.string "name") (.template [some "c"] [])]

/-- The same properties, with parentheses and a conversion around values. -/
def convertedProperties : List Property :=
  [.keyed (.name "name") (.string "a"), .keyed (.name "baseDir") (.paren (.string "b")),
    .keyed (.string "name") (.cast .conversion (.template [some "c"] []) .string)]

/-- A module that exports the object. -/
def toolSource : String := "export default \x7bname:'a',baseDir:'b','name':`c`\x7d"

/-- A module that exports what a function makes of the object. -/
def wrappedSource : String :=
  "export default f((\x7bname:'a',baseDir:('b'),'name':`c` as string\x7d))"

set_option maxRecDepth 4000 in
theorem readProgram_toolSource :
    readProgram (.ofPath true "fli.entry.ts".toList) toolSource.toList =
      .ok ⟨[.exportDefault 0 (.expression (.object toolProperties))], []⟩ := by
  cbv

set_option maxRecDepth 4000 in
theorem readProgram_wrappedSource :
    readProgram (.ofPath true "fli.entry.ts".toList) wrappedSource.toList =
      .ok ⟨[.exportDefault 0 (.expression
        (.call (.identifier "f") [.paren (.object convertedProperties)]))], []⟩ := by
  cbv

theorem ofSource_of_wrapped_toolProperties :
    ofSource "fli.entry.ts" wrappedSource = .ok ⟨some "b", some "c"⟩ ∧
      Collects toolProperties ⟨some "b", some "c"⟩ := by
  have hrestated : List.Forall₂ Property.RestatedAs toolProperties convertedProperties :=
    .cons (.moved rfl) (.cons (.converted _ rfl (.paren .bare))
      (.cons (.converted _ rfl (.conversion _ .bare)) .nil))
  obtain ⟨hsame, htells⟩ := ofSource_of_wrapped readProgram_toolSource readProgram_wrappedSource
    ⟨[], 0, [], rfl, nofun⟩ ⟨[], 0, [], rfl, nofun⟩ (.call _ (.paren .bare)) hrestated
  have hvalues : ofSource "fli.entry.ts" toolSource = .ok ⟨some "b", some "c"⟩ := by
    decide +kernel
  exact ⟨hsame.trans hvalues, ((htells _).1 hvalues).2⟩

/-- A string in brackets is a key, and a call in an optional chain is no call, whether it is the
optional part of the chain or stands behind that. -/
theorem ofSource_of_brackets_and_chain :
    ofSource "fli.entry.ts" "export default \x7b ['baseDir']: 'src' \x7d;" =
        .ok ⟨some "src", none⟩ ∧
      ofSource "fli.entry.ts" "export default \x7b baseDir: 'src' \x7d;" =
        .ok ⟨some "src", none⟩ ∧
      ofSource "fli.entry.ts" "export default define?.(\x7b baseDir: 'src' \x7d);" =
        .error (.load "fli.entry.ts" .noBase) ∧
      ofSource "fli.entry.ts" "export default a?.b(\x7b baseDir: 'src' \x7d);" =
        .error (.load "fli.entry.ts" .noBase) := by
  decide +kernel

end EntryValues
end CommandGrove
