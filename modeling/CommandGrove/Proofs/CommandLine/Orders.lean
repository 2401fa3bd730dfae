import CommandGrove.CommandLine.Reading
import Mathlib.Data.List.Perm.Basic
import Mathlib.Data.List.Nodup
import Mathlib.Data.List.TakeWhile

/-!
# Options in any order

What is chosen can be written on a command line in many ways: the options behind the verb come in
any order and under any of their names, and those that every verb knows can also stand in front of
it.  Reading finds what was chosen in all of them, because an option that is read is settled at once
and only has to be new.

## What is here

* `valueIn_of_perm` — the value of a field among those that are given does not depend on the
  order.
* `Choice`, `Choice.Writes` — what can be chosen, and the arguments that write it.
* `Level.read_words` — reading words settles the options that they write.
* `exists_foldlM_readRest` — reading what stands behind `--`.
* `CommandLine.ofArguments_of_reads` — what is asked for is told by what is read in front of the
  verb and behind it.
* `ofArguments_of_writes` — the main result.
-/

set_option autoImplicit false
namespace CommandGrove

/-! ## Fields and values -/

/-- The value of a field among those that are given. -/
def valueIn (given : List (Field × String)) (field : Field) : Option String :=
  (given.find? fun g => g.1 == field).map (·.2)

theorem Reading.value?_eq (given : List (Field × String)) (pending : Option Pending)
    (positions : Nat) (field : Field) :
    (⟨given, pending, positions⟩ : Reading).value? field = valueIn given field := rfl

theorem valueIn_append (front behind : List (Field × String)) (field : Field) :
    valueIn (front ++ behind) field = (valueIn front field).or (valueIn behind field) := by
  rw [valueIn, List.find?_append, Option.map_or]
  rfl

theorem valueIn_nil (field : Field) : valueIn [] field = none := rfl

theorem valueIn_cons (g : Field × String) (given : List (Field × String)) (field : Field) :
    valueIn (g :: given) field = if g.1 = field then some g.2 else valueIn given field := by
  by_cases h : g.1 = field <;> simp [valueIn, h]

theorem valueIn_eq_none_iff {given : List (Field × String)} {field : Field} :
    valueIn given field = none ↔ field ∉ given.map Prod.fst := by
  simp only [valueIn, Option.map_eq_none_iff, List.find?_eq_none, beq_iff_eq, List.mem_map,
    not_exists, not_and]

theorem valueIn_eq_some_iff {given : List (Field × String)} (hkeys : (given.map Prod.fst).Nodup)
    {field : Field} {value : String} :
    valueIn given field = some value ↔ (field, value) ∈ given := by
  induction given with
  | nil => simp [valueIn]
  | cons g rest ih =>
    obtain ⟨key, text⟩ := g
    obtain ⟨hkey, hrest⟩ := List.nodup_cons.1 hkeys
    rw [valueIn_cons]
    by_cases h : key = field
    · subst h
      have hnot : (key, value) ∉ rest := fun hmem => hkey (List.mem_map.2 ⟨_, hmem, rfl⟩)
      simp [hnot, eq_comm]
    · simp [h, ih hrest, Ne.symm h]

/-- **The order of what is given does not matter** if no field is given twice. -/
theorem valueIn_of_perm {a b : List (Field × String)} (hperm : a.Perm b)
    (hkeys : (b.map Prod.fst).Nodup) (field : Field) : valueIn a field = valueIn b field := by
  have hkeys' : (a.map Prod.fst).Nodup := (hperm.map _).nodup_iff.2 hkeys
  refine Option.ext fun value => ?_
  rw [valueIn_eq_some_iff hkeys, valueIn_eq_some_iff hkeys', hperm.mem_iff]

theorem notMem_keys_of_nodup {front behind : List (Field × String)} {g : Field × String}
    (hkeys : ((front ++ g :: behind).map Prod.fst).Nodup) : g.1 ∉ front.map Prod.fst := by
  rw [List.map_append, List.map_cons] at hkeys
  exact fun hmem => (List.nodup_append.1 hkeys).2.2 _ hmem _ List.mem_cons_self rfl

/-- A field with its value, if it has one. -/
def optional (field : Field) (value : Option String) : List (Field × String) :=
  (value.map (field, ·)).toList

theorem valueIn_optional (key field : Field) (value : Option String) :
    valueIn (optional key value) field = if key = field then value else none := by
  cases value with
  | none => simp [optional, valueIn]
  | some text => simp [optional, valueIn_cons, valueIn_nil]

theorem keys_optional_sublist (field : Field) (value : Option String) :
    ((optional field value).map Prod.fst).Sublist [field] := by
  cases value with
  | none => exact List.nil_sublist _
  | some text => exact List.Sublist.refl _

/-! ## What is chosen, and how it is written -/

/-- The options of a request. -/
def Request.options (request : Request) : List (Field × String) :=
  optional .baseDir request.baseDir ++ optional .name request.name

/-- The options that a task gives to its verb. -/
def Task.options : Task → List (Field × String)
  | .build request | .watch _ request => request.options
  | .generate request out json =>
    request.options ++ optional .out out ++ optional .json (if json then some "" else none)

/-- What a task gives by position. -/
def Task.positional : Task → List (Field × String)
  | .build request | .generate request _ _ => optional .entry request.entry
  | .watch glob request => (.glob, glob) :: optional .entry request.entry

/-- What can be chosen: a task, and the options that every verb knows. -/
structure Choice where
  task : Task
  bundler : Option String
  logLevel : Option String

namespace Choice

/-- The options that can stand in front of the verb. -/
def shared (c : Choice) : List (Field × String) :=
  optional .bundler c.bundler ++ optional .logLevel c.logLevel

/-- All that is given. -/
def given (c : Choice) : List (Field × String) := c.shared ++ c.task.options ++ c.task.positional

/-- The command line that is asked for: what was left out has its usual value. -/
def line (c : Choice) : CommandLine where
  task := c.task
  bundler := c.bundler.getD defaultBundler
  logLevel := c.logLevel.getD defaultLogLevel

end Choice

/-- A word for an option with one of its names: `--name=value`, or `--name` if it takes no value. -/
def IsWordFor (option : Field × String) (word : String) : Prop :=
  ∃ name ∈ option.1.longNames,
    word = if option.1.takesValue then "--" ++ name ++ "=" ++ option.2 else "--" ++ name

/-- Arguments that write a choice: some of the options that every verb knows, the verb, all other
options in any order, and the texts that are told by their position behind `--`, which can be left
out if there are none. -/
inductive Choice.Writes (c : Choice) : List String → Prop
  | mk {front behind : List (Field × String)} {frontWords behindWords rest : List String}
      (hoptions : (front ++ behind).Perm (c.shared ++ c.task.options))
      (hfront : ∀ option ∈ front, option ∈ c.shared)
      (hfrontWords : List.Forall₂ IsWordFor front frontWords)
      (hbehindWords : List.Forall₂ IsWordFor behind behindWords)
      (hrest : rest = "--" :: c.task.positional.map Prod.snd ∨
        rest = [] ∧ c.task.positional = []) :
      Writes c (frontWords ++ c.task.verb.name :: (behindWords ++ rest))

/-! ## Words -/

section Words

variable {name value : List Char}

theorem cutAtEquals_of_notMem (hname : '=' ∉ name) :
    cutAtEquals name = (String.ofList name, none) := by
  have hall : ∀ c ∈ name, (c != '=') = true := fun c hc => bne_iff_ne.2 fun h => hname (h ▸ hc)
  simp only [cutAtEquals, List.takeWhile_eq_self_iff.2 hall, List.dropWhile_eq_nil_iff.2 hall]

theorem cutAtEquals_append (hname : '=' ∉ name) :
    cutAtEquals (name ++ '=' :: value) = (String.ofList name, some (String.ofList value)) := by
  have hall : ∀ c ∈ name, (c != '=') = true := fun c hc => bne_iff_ne.2 fun h => hname (h ▸ hc)
  rw [cutAtEquals, List.takeWhile_append_of_pos hall, List.dropWhile_append_of_pos hall]
  simp

/-- What begins with two hyphens and goes on is the long name of an option. -/
theorem Word.of_of_toList {argument : String} {text : List Char}
    (h : argument.toList = '-' :: '-' :: text) (hne : text ≠ []) :
    Word.of argument = .long (cutAtEquals text).1 (cutAtEquals text).2 := by
  obtain ⟨c, rest, rfl⟩ := List.exists_cons_of_ne_nil hne
  simp only [Word.of, h]

end Words

/-- The names of options are not empty and have no equals sign in them. -/
theorem Field.longName_facts (field : Field) :
    ∀ name ∈ field.longNames, name.toList ≠ [] ∧ '=' ∉ name.toList := by
  cases field <;> decide

/-- A word for an option is read as the name and the value of the option. -/
theorem IsWordFor.word {option : Field × String} {word : String} (h : IsWordFor option word) :
    word.toList.head? = some '-' ∧ ∃ name ∈ option.1.longNames, Word.of word =
      .long name (if option.1.takesValue then some option.2 else none) := by
  obtain ⟨name, hname, rfl⟩ := h
  obtain ⟨hne, hequals⟩ := option.1.longName_facts name hname
  cases option.1.takesValue with
  | true =>
    have htext : ("--" ++ name ++ "=" ++ option.2).toList =
        '-' :: '-' :: (name.toList ++ '=' :: option.2.toList) := by
      simp [String.toList_append]
    refine ⟨by simp [htext], name, hname, ?_⟩
    rw [if_pos rfl, Word.of_of_toList htext (by simp), cutAtEquals_append hequals]
    simp
  | false =>
    have htext : ("--" ++ name).toList = '-' :: '-' :: name.toList := by
      simp [String.toList_append]
    refine ⟨by simp [htext], name, hname, ?_⟩
    rw [if_neg Bool.false_ne_true, if_neg Bool.false_ne_true, Word.of_of_toList htext hne,
      cutAtEquals_of_notMem hequals]
    simp

namespace Level

variable {l : Level} {word : String} (hdash : word.toList.head? = some '-')

/-- Every level knows its options by each of their names. -/
theorem long?_of_mem_options {field : Field} (hfield : field ∈ l.options) {name : String}
    (hname : name ∈ field.longNames) : l.long? name = some field := by
  have hall : ∀ field ∈ l.options, ∀ name ∈ field.longNames, l.long? name = some field := by
    rcases l with _ | (_ | _ | _) <;> decide
  exact hall field hfield name hname

include hdash

theorem verb?_eq_none_of_dash : l.verb? word = none := by
  unfold verb?
  split
  · refine List.find?_eq_none.2 fun verb _ hverb => ?_
    rw [← beq_iff_eq.1 hverb] at hdash
    cases verb <;> exact absurd hdash (by decide)
  · rfl

theorem isHelp_eq_false_of_dash : l.isHelp word = false := by
  have hne : word ≠ helpName := by
    rintro rfl
    exact absurd hdash (by decide)
  simp [isHelp, hne]

end Level

/-! ## Reading words -/

/-- A level takes an option: it knows it, and the value is one that the option can have. -/
structure Level.Takes (l : Level) (option : Field × String) : Prop where
  known : option.1 ∈ l.options
  value : option.1.takesValue = true ∨ option = (.json, "")
  path : option.1.isPath = true → option.2 ≠ ""

/-- A field that is new is settled at once. -/
theorem Reading.accept_of_new {given : List (Field × String)} {pending : Option Pending}
    {positions : Nat} {option : Field × String} (hnew : option.1 ∉ given.map Prod.fst)
    (hpath : option.1.isPath = true → option.2 ≠ "") :
    (⟨given, pending, positions⟩ : Reading).accept option.1 option.2 =
      .ok ⟨given ++ [option], none, positions⟩ := by
  have hvalue : (⟨given, pending, positions⟩ : Reading).value? option.1 = none := by
    rw [value?_eq, valueIn_eq_none_iff]
    exact hnew
  have hempty : ¬(option.1.isPath && option.2.isEmpty) = true := by
    rw [Bool.and_eq_true, String.isEmpty_iff]
    exact fun h => hpath h.1 h.2
  rw [Reading.accept, hvalue, if_neg (by simp), if_neg hempty]

namespace Level

variable {l : Level} {given : List (Field × String)}

theorem readArgument_of_word {option : Field × String} {word : String}
    (hword : IsWordFor option word) (htakes : l.Takes option)
    (hnew : option.1 ∉ given.map Prod.fst) :
    Reading.readArgument l ⟨given, none, 0⟩ word = .ok ⟨given ++ [option], none, 0⟩ := by
  obtain ⟨-, name, hname, hof⟩ := hword.word
  have haccept : (⟨given, none, 0⟩ : Reading).accept option.1 option.2 =
      .ok ⟨given ++ [option], none, 0⟩ := Reading.accept_of_new hnew htakes.path
  rw [Reading.readArgument, hof]
  simp only [Reading.readLong, long?_of_mem_options htakes.known hname]
  rcases htakes.value with hvalue | rfl
  · rw [hvalue, if_pos rfl, if_pos rfl]
    exact haccept
  · exact haccept

theorem read_word {option : Field × String} {word : String} (hword : IsWordFor option word)
    (htakes : l.Takes option) (hnew : option.1 ∉ given.map Prod.fst) (rest : List String) :
    l.read ⟨given, none, 0⟩ (word :: rest) = l.read ⟨given ++ [option], none, 0⟩ rest := by
  obtain ⟨hdash, name, -, hof⟩ := hword.word
  have hescape : Word.of word ≠ .escape := by rw [hof]; exact nofun
  have hawaited : (⟨given, none, 0⟩ : Reading).awaited? = none := rfl
  rw [read, hawaited, verb?_eq_none_of_dash hdash, isHelp_eq_false_of_dash hdash,
    readArgument_of_word hword htakes hnew]
  simp only [ite_self, Bool.and_false, Bool.false_eq_true, if_false, if_neg hescape]
  rfl

/-- **Words settle the options that they write**, in the order in which they come. -/
theorem read_words {options : List (Field × String)} {words : List String}
    (hwords : List.Forall₂ IsWordFor options words) (htakes : ∀ option ∈ options, l.Takes option)
    (hkeys : ((given ++ options).map Prod.fst).Nodup) (rest : List String) :
    l.read ⟨given, none, 0⟩ (words ++ rest) = l.read ⟨given ++ options, none, 0⟩ rest := by
  induction hwords generalizing given with
  | nil => rw [List.append_nil, List.nil_append]
  | @cons option word options words hword _ ih =>
    have hnew := notMem_keys_of_nodup hkeys
    rw [List.append_cons] at hkeys
    rw [List.cons_append, read_word hword (htakes option List.mem_cons_self) hnew,
      ih (fun o ho => htakes o (List.mem_cons_of_mem _ ho)) hkeys, ← List.append_cons]

theorem read_start_words {options : List (Field × String)} {words : List String}
    (hwords : List.Forall₂ IsWordFor options words) (htakes : ∀ option ∈ options, l.Takes option)
    (hkeys : (options.map Prod.fst).Nodup) (rest : List String) :
    l.read .start (words ++ rest) = l.read ⟨options, none, 0⟩ rest :=
  @read_words l [] options words hwords htakes hkeys rest

end Level

/-! ## Reading behind `--` -/

/-- A text behind `--` is pending at the next position, whatever it looks like. -/
theorem Level.readRest_behind {verb : Verb} {done : List (Field × String)} {r : Reading}
    (hsettle : r.settle = .ok ⟨done, none, r.positions⟩) {field : Field}
    (hfield : (Level.behind verb).positions[r.positions]? = some field) (text : String) :
    (Level.behind verb).readRest r text =
      .ok ⟨done, some ⟨field, some text⟩, r.positions + 1⟩ := by
  have hverb : (Level.behind verb).verb? text = none := if_neg nofun
  have hhelp : (Level.behind verb).isHelp text = false := rfl
  rw [readRest, hverb, hhelp, if_neg (by simp), Reading.readPosition, hfield]
  simp only [hsettle]
  rfl

/-- **Texts behind `--` settle the positions of the verb**, one behind the other. -/
theorem exists_foldlM_readRest {verb : Verb} {done given : List (Field × String)} {r : Reading}
    (hsettle : r.settle = .ok ⟨done, none, r.positions⟩)
    (hgiven : given.map Prod.fst <+: (Level.behind verb).positions.drop r.positions)
    (hkeys : ((done ++ given).map Prod.fst).Nodup)
    (hpath : ∀ g ∈ given, g.1.isPath = true → g.2 ≠ "") :
    ∃ last, (given.map Prod.snd).foldlM (Level.behind verb).readRest r = .ok last ∧
      last.settle = .ok ⟨done ++ given, none, last.positions⟩ := by
  induction given generalizing done r with
  | nil => exact ⟨r, rfl, by rw [List.append_nil, hsettle]⟩
  | cons g rest ih =>
    obtain ⟨others, hothers⟩ := hgiven
    have hfield : (Level.behind verb).positions[r.positions]? = some g.1 := by
      rw [← List.head?_drop, ← hothers]
      rfl
    have hnext : rest.map Prod.fst <+: (Level.behind verb).positions.drop (r.positions + 1) := by
      rw [← List.drop_drop, ← hothers]
      exact List.prefix_append _ _
    have hsettled : (⟨done, some ⟨g.1, some g.2⟩, r.positions + 1⟩ : Reading).settle =
        .ok ⟨done ++ [g], none, r.positions + 1⟩ :=
      Reading.accept_of_new (notMem_keys_of_nodup hkeys) (hpath g List.mem_cons_self)
    obtain ⟨last, hlast, hdone⟩ := ih hsettled hnext (by rwa [← List.append_cons])
      fun p hp => hpath p (List.mem_cons_of_mem _ hp)
    refine ⟨last, ?_, by rw [hdone, ← List.append_cons]⟩
    rw [List.map_cons, List.foldlM_cons, Level.readRest_behind hsettle hfield]
    exact hlast

/-! ## What is given -/

theorem mem_optional {field : Field} {value : Option String} {g : Field × String} :
    g ∈ optional field value ↔ ∃ text, value = some text ∧ g = (field, text) := by
  cases value <;> simp [optional]

theorem Level.Takes.of_mem_optional {l : Level} {field : Field} {value : Option String}
    {option : Field × String} (h : option ∈ optional field value)
    (hfield : field ∈ l.options ∧ field.takesValue = true)
    (hpath : option.1.isPath = true → option.2 ≠ "") : l.Takes option := by
  obtain ⟨text, -, rfl⟩ := mem_optional.1 h
  exact ⟨hfield.1, Or.inl hfield.2, hpath⟩

theorem Request.keys_options_sublist (request : Request) :
    (request.options.map Prod.fst).Sublist [.baseDir, .name] := by
  rw [options, List.map_append]
  exact (keys_optional_sublist _ _).append (keys_optional_sublist _ _)

namespace Choice

variable {c : Choice}

theorem keys_shared_sublist (c : Choice) :
    (c.shared.map Prod.fst).Sublist [.bundler, .logLevel] := by
  rw [shared, List.map_append]
  exact (keys_optional_sublist _ _).append (keys_optional_sublist _ _)

/-- No field is given twice. -/
theorem nodup_keys_given (c : Choice) : (c.given.map Prod.fst).Nodup := by
  have hshared := c.keys_shared_sublist
  rw [given, List.map_append, List.map_append]
  cases c.task with
  | build request =>
    exact ((hshared.append request.keys_options_sublist).append
      (keys_optional_sublist .entry request.entry)).nodup (by decide)
  | watch glob request =>
    exact ((hshared.append request.keys_options_sublist).append
      ((keys_optional_sublist .entry request.entry).cons_cons .glob)).nodup (by decide)
  | generate request out json =>
    have hoptions := (request.keys_options_sublist.append (keys_optional_sublist .out out)).append
      (keys_optional_sublist .json (if json then some "" else none))
    rw [← List.map_append, ← List.map_append] at hoptions
    exact ((hshared.append hoptions).append
      (keys_optional_sublist .entry request.entry)).nodup (by decide)

/-- Options that every verb knows can stand in front of a verb and behind it. -/
theorem takes_of_mem_shared {option : Field × String} (h : option ∈ c.shared)
    (hpath : option.1.isPath = true → option.2 ≠ "") (l : Level) : l.Takes option := by
  rcases List.mem_append.1 h with h | h
  all_goals exact .of_mem_optional h (by rcases l with _ | (_ | _ | _) <;> decide) hpath

/-- The verb of a task takes all options of the choice. -/
theorem takes_of_mem_options {option : Field × String} (h : option ∈ c.shared ++ c.task.options)
    (hpath : option.1.isPath = true → option.2 ≠ "") :
    (Level.behind c.task.verb).Takes option := by
  have hrequest {verb : Verb} {request : Request} (h : option ∈ request.options) :
      (Level.behind verb).Takes option := by
    rcases List.mem_append.1 h with h | h
    all_goals exact .of_mem_optional h (by cases verb <;> decide) hpath
  rcases List.mem_append.1 h with h | h
  · exact takes_of_mem_shared h hpath _
  · revert h
    cases c.task with
    | build request => exact hrequest
    | watch glob request => exact hrequest
    | generate request out json =>
      change _ → (Level.behind .generate).Takes option
      intro h
      rcases List.mem_append.1 h with h | h
      · rcases List.mem_append.1 h with h | h
        · exact hrequest h
        · exact .of_mem_optional h (by decide) hpath
      · obtain ⟨text, htext, rfl⟩ := mem_optional.1 h
        have hempty : text = "" := by
          cases json with
          | false => exact nomatch htext
          | true => exact (Option.some.inj htext).symm
        exact ⟨List.mem_of_elem_eq_true rfl, Or.inr (by rw [hempty]), hpath⟩

/-- What is given by position stands in the order of the positions. -/
theorem keys_positional_isPrefix (c : Choice) :
    c.task.positional.map Prod.fst <+: (Level.behind c.task.verb).positions := by
  cases c.task with
  | build request | generate request | watch glob request =>
    cases hentry : request.entry <;>
      simp [Task.positional, Task.verb, hentry, optional, Level.positions]

/-- What is given of a field that every verb knows. -/
theorem valueIn_given_shared (c : Choice) :
    valueIn c.given .bundler = c.bundler ∧ valueIn c.given .logLevel = c.logLevel := by
  obtain ⟨task, bundler, logLevel⟩ := c
  cases task <;>
    simp [given, shared, Task.options, Request.options, Task.positional, valueIn_append,
      valueIn_optional, valueIn_cons]

/-- **A task is told by its verb and by the fields that are not known to every verb.** -/
theorem taskOf_eq {r : Reading} (hvalue : ∀ field, field ∉ [Field.bundler, Field.logLevel] →
    r.value? field = valueIn c.given field) : CommandLine.taskOf c.task.verb r = c.task := by
  have hrequest : (⟨r.value? .entry, r.value? .baseDir, r.value? .name⟩ : Request) =
      ⟨valueIn c.given .entry, valueIn c.given .baseDir, valueIn c.given .name⟩ := by
    rw [hvalue .entry (by decide), hvalue .baseDir (by decide), hvalue .name (by decide)]
  unfold CommandLine.taskOf
  dsimp only
  rw [hrequest, hvalue .glob (by decide), hvalue .out (by decide),
    hvalue .json (by decide)]
  obtain ⟨task, bundler, logLevel⟩ := c
  cases task with
  | build request | watch glob request =>
    simp [given, shared, Task.options, Request.options, Task.positional, Task.verb, valueIn_append,
      valueIn_optional, valueIn_cons]
  | generate request out json =>
    cases json <;>
      simp [given, shared, Task.options, Request.options, Task.positional, Task.verb,
        valueIn_append, valueIn_optional]

/-- What a verb needs is given. -/
theorem required_of_given (c : Choice) :
    ∀ field ∈ (Level.behind c.task.verb).required, field ∈ c.task.positional.map Prod.fst := by
  cases c.task with
  | build request | generate request => exact nofun
  | watch glob request => exact fun field hfield => List.mem_singleton.1 hfield ▸ List.mem_cons_self

section Places

variable {front behind : List (Field × String)}
  (hoptions : (front ++ behind).Perm (c.shared ++ c.task.options))

include hoptions

/-- All that is given stands in front of the verb or behind it. -/
theorem perm_given : (front ++ (behind ++ c.task.positional)).Perm c.given :=
  List.append_assoc front _ _ ▸ hoptions.append_right c.task.positional

/-- What stands behind the verb and in front of it has the values that are given. -/
theorem valueIn_places (field : Field) :
    (valueIn (behind ++ c.task.positional) field).or (valueIn front field) =
      valueIn c.given field := by
  rw [← valueIn_append]
  exact valueIn_of_perm (List.perm_append_comm.trans (perm_given hoptions)) c.nodup_keys_given field

/-- Fields that not every verb knows have their values behind the verb. -/
theorem valueIn_behind (hfront : ∀ option ∈ front, option ∈ c.shared) (field : Field)
    (hfield : field ∉ [Field.bundler, Field.logLevel]) :
    valueIn (behind ++ c.task.positional) field = valueIn c.given field := by
  have hnone : valueIn front field = none := valueIn_eq_none_iff.2 fun hmem => by
    obtain ⟨option, ho, rfl⟩ := List.mem_map.1 hmem
    exact hfield (c.keys_shared_sublist.subset (List.mem_map_of_mem (hfront option ho)))
  rw [← valueIn_places hoptions, hnone, Option.or_none]

end Places

end Choice

/-! ## Whole command lines -/

/-- Behind options that are settled, the texts behind `--` are read to the end. -/
theorem Level.exists_read_rest {verb : Verb} {options positional : List (Field × String)}
    {rest : List String} (hkeys : ((options ++ positional).map Prod.fst).Nodup)
    (hpositions : positional.map Prod.fst <+: (Level.behind verb).positions)
    (hpaths : ∀ g ∈ positional, g.1.isPath = true → g.2 ≠ "")
    (hrest : rest = "--" :: positional.map Prod.snd ∨ rest = [] ∧ positional = []) :
    ∃ last, (Level.behind verb).read ⟨options, none, 0⟩ rest = .ok (last, none) ∧
      last.settle = .ok ⟨options ++ positional, none, last.positions⟩ := by
  rcases hrest with rfl | ⟨rfl, rfl⟩
  · have hsettle : (⟨options, none, 0⟩ : Reading).settle = .ok ⟨options, none, 0⟩ := rfl
    obtain ⟨last, hlast, hdone⟩ := exists_foldlM_readRest hsettle hpositions hkeys hpaths
    refine ⟨last, ?_, hdone⟩
    have hverb : (Level.behind verb).verb? "--" = none := if_neg nofun
    have hhelp : (Level.behind verb).isHelp "--" = false := rfl
    have hescape : Word.of "--" = .escape := by decide
    rw [read, hverb, hhelp, hescape, hlast]
    simp only [ite_self, Bool.and_false, Bool.false_eq_true, if_false, if_true]
    rfl
  · exact ⟨⟨options, none, 0⟩, rfl, by rw [List.append_nil]; rfl⟩

/-- Behind the verb, reading finds the options and what is given by position. -/
theorem Verb.exists_read_of_words {verb : Verb} {options positional : List (Field × String)}
    {words rest : List String} (hwords : List.Forall₂ IsWordFor options words)
    (htakes : ∀ option ∈ options, (Level.behind verb).Takes option)
    (hkeys : ((options ++ positional).map Prod.fst).Nodup)
    (hpositions : positional.map Prod.fst <+: (Level.behind verb).positions)
    (hpaths : ∀ g ∈ positional, g.1.isPath = true → g.2 ≠ "")
    (hrequired : ∀ field ∈ (Level.behind verb).required, field ∈ positional.map Prod.fst)
    (hrest : rest = "--" :: positional.map Prod.snd ∨ rest = [] ∧ positional = []) :
    ∃ positions, verb.read (words ++ rest) = .ok ⟨options ++ positional, none, positions⟩ := by
  have hoptions : (options.map Prod.fst).Nodup := by
    rw [List.map_append] at hkeys
    exact (List.nodup_append.1 hkeys).1
  have hread := Level.read_start_words hwords htakes hoptions rest
  obtain ⟨last, hlast, hdone⟩ := Level.exists_read_rest hkeys hpositions hpaths hrest
  have hall : ((Level.behind verb).required.all fun field =>
      ((⟨options ++ positional, none, last.positions⟩ : Reading).value? field).isSome) = true := by
    refine List.all_eq_true.2 fun field hfield => ?_
    rw [Option.isSome_iff_ne_none, Reading.value?_eq, Ne, valueIn_eq_none_iff, not_not,
      List.map_append]
    exact List.mem_append_right _ (hrequired field hfield)
  refine ⟨last.positions, ?_⟩
  unfold Verb.read
  dsimp only
  rw [hread, hlast]
  change (last.settle >>= fun r => _) = _
  rw [hdone]
  exact if_pos hall

/-- What is read in front of the verb and behind it is what is asked for. -/
theorem CommandLine.ofArguments_of_reads {environment : Option String}
    {arguments rest : List String} {verb : Verb} {front settled behind : Reading}
    (hfront : Level.front.read .start arguments = .ok (front, some (verb, rest)))
    (hsettled : front.settle = .ok settled) (hbehind : verb.read rest = .ok behind) :
    ofArguments environment arguments = .ok
      { task := taskOf verb behind
        bundler := (((behind.value? .bundler).or (settled.value? .bundler)).or environment).getD
          defaultBundler
        logLevel := ((behind.value? .logLevel).or (settled.value? .logLevel)).getD
          defaultLogLevel } := by
  unfold ofArguments
  rw [hfront]
  change (verb.read rest >>= fun behind => front.settle >>= fun front => _) = _
  rw [hbehind, hsettled]
  rfl

/-- **Reading finds what was chosen**, in whatever order and place and under whatever names the
options are written and whatever their values look like: only a path must not be empty.  What was
left out has its usual value. -/
theorem ofArguments_of_writes {c : Choice} {arguments : List String} (h : c.Writes arguments)
    (hpaths : ∀ g ∈ c.given, g.1.isPath = true → g.2 ≠ "") :
    CommandLine.ofArguments none arguments = .ok c.line := by
  obtain @⟨front, behind, frontWords, behindWords, rest, hoptions, hfront, hfrontWords,
    hbehindWords, hrest⟩ := h
  have hgiven := Choice.perm_given hoptions
  have hpath : ∀ g ∈ front ++ (behind ++ c.task.positional), g.1.isPath = true → g.2 ≠ "" :=
    fun g hg => hpaths g (hgiven.mem_iff.1 hg)
  have hkeys := (hgiven.map Prod.fst).nodup_iff.2 c.nodup_keys_given
  rw [List.map_append] at hkeys
  obtain ⟨hfrontKeys, hbehindKeys, -⟩ := List.nodup_append.1 hkeys
  have htakesFront : ∀ option ∈ front, Level.front.Takes option := fun option ho =>
    Choice.takes_of_mem_shared (hfront option ho) (hpath option (List.mem_append_left _ ho)) _
  have htakesBehind : ∀ option ∈ behind, (Level.behind c.task.verb).Takes option := fun option ho =>
    Choice.takes_of_mem_options (hoptions.mem_iff.1 (List.mem_append_right _ ho))
      (hpath option (List.mem_append_right _ (List.mem_append_left _ ho)))
  -- In front of the verb options are read up to its name, and behind it to the end.
  have hverb : Level.front.read ⟨front, none, 0⟩ (c.task.verb.name :: (behindWords ++ rest)) =
      .ok (⟨front, none, 0⟩, some (c.task.verb, behindWords ++ rest)) := by
    cases c.task.verb <;> rfl
  have hreadFront := (Level.read_start_words hfrontWords htakesFront hfrontKeys _).trans hverb
  obtain ⟨positions, hreadBehind⟩ := Verb.exists_read_of_words hbehindWords htakesBehind hbehindKeys
    c.keys_positional_isPrefix
    (fun g hg => hpath g (List.mem_append_right _ (List.mem_append_right _ hg)))
    c.required_of_given hrest
  have hread : CommandLine.ofArguments none
      (frontWords ++ c.task.verb.name :: (behindWords ++ rest)) = _ :=
    CommandLine.ofArguments_of_reads hreadFront rfl hreadBehind
  have htask : CommandLine.taskOf c.task.verb ⟨behind ++ c.task.positional, none, positions⟩ =
      c.task := Choice.taskOf_eq (Choice.valueIn_behind hoptions hfront)
  obtain ⟨hbundler, hlogLevel⟩ := c.valueIn_given_shared
  rw [hread, htask, Option.or_none, Reading.value?_eq, Reading.value?_eq, Reading.value?_eq,
    Reading.value?_eq, Choice.valueIn_places hoptions, Choice.valueIn_places hoptions, hbundler,
    hlogLevel, Choice.line]

/-- A choice with values that look like something else. -/
def generateChoice : Choice :=
  ⟨.generate ⟨some "-x", some "a=b", none⟩ (some "build") true, some "--", none⟩

/-- The arguments have options on both sides of the verb, one of them under its other name. -/
theorem ofArguments_of_writes_generate :
    generateChoice.Writes
        ["--bun=--", "generate", "--json", "--base-dir=a=b", "--out=build", "--", "-x"] ∧
      CommandLine.ofArguments none
          ["--bun=--", "generate", "--json", "--base-dir=a=b", "--out=build", "--", "-x"] =
        .ok ⟨.generate ⟨some "-x", some "a=b", none⟩ (some "build") true, "--", "info"⟩ := by
  have hwrites : generateChoice.Writes
      ["--bun=--", "generate", "--json", "--base-dir=a=b", "--out=build", "--", "-x"] := by
    refine @Choice.Writes.mk generateChoice [(.bundler, "--")]
      [(.json, ""), (.baseDir, "a=b"), (.out, "build")] ["--bun=--"]
      ["--json", "--base-dir=a=b", "--out=build"] ["--", "-x"] (by decide) (by decide) ?_ ?_
      (Or.inl rfl)
    · exact .cons ⟨"bun", by decide, by decide⟩ .nil
    · exact .cons ⟨"json", by decide, by decide⟩ (.cons ⟨"base-dir", by decide, by decide⟩
        (.cons ⟨"out", by decide, by decide⟩ .nil))
  exact ⟨hwrites, ofArguments_of_writes hwrites (by decide)⟩

end CommandGrove
