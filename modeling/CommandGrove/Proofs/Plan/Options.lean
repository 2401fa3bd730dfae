import CommandGrove.CommandTree.OfModules
import CommandGrove.Plan.OfTree
import CommandGrove.Proofs.Interface.RecordedNames
import CommandGrove.Proofs.Naming
import Mathlib.Data.List.TakeWhile

/-!
# Options that can be read back

An option is registered by one text, and a command line reader takes it apart again: its long name
ends at the first space, must not be blank or look like another option, and tells the key that the
value is kept under and whether the option switches something off.  A plan tells these as well.

## What is here

* `longName` — the long name in the flags of an option.
* `OptionPlan.IsReadable` — the long name can be registered and tells what the plan tells.
* `isReadable_planOption_iff` — the option for a flag is readable just if the name of the flag could
  be the one of a command.
* `Plan.readable_options_iff` — the options of a command are readable, and no two of them have one
  long name, just if the fields have such names and tokens of their own.
* `options_of_quoted_field` — a module with a field for which there is no readable option.
-/

set_option autoImplicit false
namespace CommandGrove

open Text

/-! ## Long names -/

/-- The long name in the flags of an option: what stands before the first space, without the
hyphens at its front. -/
def longName (flags : String) : String :=
  let word := flags.toList.takeWhile (· != ' ')
  String.ofList ((stripPrefix? ['-', '-'] word).getD word)

/-- The long name of an option can be registered, and it tells the key of the option and whether
the option switches something off. -/
structure OptionPlan.IsReadable (o : OptionPlan) : Prop where
  ne_nil : (longName o.flags).toList ≠ []
  isSolid : ∀ c ∈ (longName o.flags).toList, isBlank c = false
  isName : (longName o.flags).toList.head? ≠ some '-'
  key : Naming.optionKey (longName o.flags) = o.key
  negated : Naming.isNegated (longName o.flags) = o.negated

theorem toList_optionUsage (token : String) (kind : ValueKind) :
    (optionUsage token kind).toList =
      ['-', '-'] ++ (token.toList ++ if kind = .boolean then [] else " <value>".toList) := by
  unfold optionUsage
  split <;> simp

/-- The long name of an option without spaces is the token that it was made of. -/
theorem longName_optionUsage {token : String} (h : ' ' ∉ token.toList) (kind : ValueKind) :
    longName (optionUsage token kind) = token := by
  have hmarks : ∀ c ∈ ['-', '-'], (c != ' ') = true := by simp
  have htoken : ∀ c ∈ token.toList, (c != ' ') = true := by
    intro c hc
    rw [bne_iff_ne]
    rintro rfl
    exact h hc
  have hword : (optionUsage token kind).toList.takeWhile (· != ' ') = ['-', '-'] ++ token.toList := by
    have hbehind : (if kind = .boolean then [] else " <value>".toList).takeWhile (· != ' ') = [] := by
      split <;> rfl
    rw [toList_optionUsage, List.takeWhile_append_of_pos hmarks,
      List.takeWhile_append_of_pos htoken, hbehind, List.append_nil]
  rw [longName, hword, stripPrefix?_append, Option.getD_some, String.ofList_toList]

theorem space_notMem_longName (flags : String) : ' ' ∉ (longName flags).toList := by
  have hword : ' ' ∉ flags.toList.takeWhile (· != ' ') := fun hmem =>
    absurd (List.mem_takeWhile_imp hmem) (by decide)
  rw [longName, String.toList_ofList]
  cases h : stripPrefix? ['-', '-'] (flags.toList.takeWhile (· != ' ')) with
  | none => exact hword
  | some rest =>
    rw [stripPrefix?_eq_some_iff.1 h] at hword
    exact fun hmem => hword (List.mem_append_right _ hmem)

/-! ## The option for a flag -/

theorem key_planOption (flag : Flag) :
    (planOption flag).key = Naming.optionKey (Naming.token flag.name) := by
  rw [planOption]

/-- The long name of the option for a flag whose name has no blanks. -/
theorem longName_planOption {flag : Flag} (h : Naming.isCommand flag.name = true) :
    longName (planOption flag).flags = Naming.token flag.name := by
  rw [← Naming.isCommand_token, Naming.isCommand_iff] at h
  rw [planOption, longName_optionUsage]
  exact fun hspace => nomatch h.2.2 ' ' hspace

/-- A readable option has no space in its token: its key would have it as well, which the key of
its long name does not. -/
theorem space_notMem_token {flag : Flag} (h : (planOption flag).IsReadable) :
    ' ' ∉ (Naming.token flag.name).toList := by
  intro hspace
  have hkey := h.key
  rw [key_planOption] at hkey
  rw [← Naming.mem_optionKey_iff (by decide), ← hkey, Naming.mem_optionKey_iff (by decide)] at hspace
  exact space_notMem_longName _ hspace

/-- **The option for a flag is readable** just if the name of the flag could be the one of a
command. -/
theorem isReadable_planOption_iff (flag : Flag) :
    (planOption flag).IsReadable ↔ Naming.isCommand flag.name = true := by
  constructor
  · intro h
    have hname : longName (planOption flag).flags = Naming.token flag.name :=
      longName_optionUsage (space_notMem_token h) flag.kind
    rw [← Naming.isCommand_token, Naming.isCommand_iff, ← hname]
    exact ⟨h.ne_nil, h.isName, h.isSolid⟩
  · intro h
    have hname := longName_planOption h
    rw [← Naming.isCommand_token, Naming.isCommand_iff, ← hname] at h
    obtain ⟨hne, hhead, hsolid⟩ := h
    refine ⟨hne, hsolid, hhead, ?_, ?_⟩
    · rw [hname, key_planOption]
    · rw [hname, planOption]

/-! ## The options of a command -/

/-- The options of a command are the ones for flags. -/
theorem Plan.exists_flag_of_mem_options {name base : String} {t : CommandTree} {c : Command}
    (hc : c ∈ (Plan.ofTree name base t).commands) {o : OptionPlan} (ho : o ∈ c.options) :
    ∃ flag, o = planOption flag := by
  obtain ⟨⟨node, i⟩, -, rfl⟩ := List.mem_map.1 hc
  change o ∈ node.binding.elim [] fun b => b.signature.flags.map planOption at ho
  cases hbinding : node.binding with
  | none =>
    rw [hbinding] at ho
    exact absurd ho List.not_mem_nil
  | some b =>
    rw [hbinding] at ho
    obtain ⟨flag, -, rfl⟩ := List.mem_map.1 ho
    exact ⟨flag, rfl⟩

/-- **Which options can be read back**: an option of a command is readable just if its field could
be the name of a command.  All of them are readable, and no two of them have one long name, just if
all fields are such names and have tokens of their own. -/
theorem Plan.readable_options_iff {name base : String}
    {modules : List (ModulePath × ModuleInterface)} {c : Command}
    (hc : c ∈ (Plan.ofTree name base (CommandTree.ofModules modules)).commands) :
    (∀ o ∈ c.options, (o.IsReadable ↔ Naming.isCommand o.field = true)) ∧
      (((∀ o ∈ c.options, o.IsReadable) ∧ (c.options.map fun o => longName o.flags).Nodup) ↔
        (∀ o ∈ c.options, Naming.isCommand o.field = true) ∧
          (c.options.map fun o => Naming.token o.field).Nodup) := by
  have hreadable : ∀ o ∈ c.options, (o.IsReadable ↔ Naming.isCommand o.field = true) := by
    intro o ho
    obtain ⟨flag, rfl⟩ := Plan.exists_flag_of_mem_options hc ho
    exact isReadable_planOption_iff flag
  refine ⟨hreadable, ?_⟩
  rw [forall₂_congr hreadable]
  refine and_congr_right fun hcommands => ?_
  rw [List.map_congr_left fun o ho => ?_]
  obtain ⟨flag, rfl⟩ := Plan.exists_flag_of_mem_options hc ho
  exact longName_planOption (hcommands _ ho)

/-- A function with two flags: the key of one is written with a space. -/
def deploySource : String :=
  "export function deploy(target: string, flags: \x7b \"dry run\": boolean; force: boolean \x7d) \x7b\x7d"

/-- The commands for a directory with this module alone. -/
def deployCommands (m : ModuleInterface) : List Command :=
  (Plan.ofTree "cli" "/cmds" (CommandTree.ofModules [(.ofText "mod.ts", m)])).commands

theorem exists_deployCommand :
    ∃ m c, ModuleInterface.ofSource "mod.ts" deploySource = .ok m ∧ c ∈ deployCommands m ∧
      (c.options.map fun o => (o.flags, o.key)) =
        [("--dry run", "dry run"), ("--force", "force")] := by
  have hoptions : (ModuleInterface.ofSource "mod.ts" deploySource).toOption.map (fun m =>
      ((deployCommands m).find? fun c => c.token == "deploy").map fun c =>
        c.options.map fun o => (o.flags, o.key)) =
      some (some [("--dry run", "dry run"), ("--force", "force")]) := by
    decide +kernel
  obtain ⟨m, hm, hfound⟩ := ofSource_of_map _ _ hoptions
  obtain ⟨c, hc, heq⟩ := Option.map_eq_some_iff.1 hfound
  exact ⟨m, c, hm, List.mem_of_find?_eq_some hc, heq⟩

theorem readable_options_of_deploySource :
    ∃ m c, ModuleInterface.ofSource "mod.ts" deploySource = .ok m ∧ c ∈ deployCommands m ∧
      c.options.length = 2 ∧
      (∀ o ∈ c.options, (o.IsReadable ↔ Naming.isCommand o.field = true)) ∧
      (((∀ o ∈ c.options, o.IsReadable) ∧ (c.options.map fun o => longName o.flags).Nodup) ↔
        (∀ o ∈ c.options, Naming.isCommand o.field = true) ∧
          (c.options.map fun o => Naming.token o.field).Nodup) := by
  obtain ⟨m, c, hm, hc, hoptions⟩ := exists_deployCommand
  exact ⟨m, c, hm, hc, by simpa using congrArg List.length hoptions, Plan.readable_options_iff hc⟩

/-- The option of a field whose key has a space in it is not readable. -/
theorem options_of_quoted_field :
    ∃ m c, ModuleInterface.ofSource "mod.ts" deploySource = .ok m ∧ c ∈ deployCommands m ∧
      ∃ o ∈ c.options, o.flags = "--dry run" ∧ ¬o.IsReadable := by
  obtain ⟨m, c, hm, hc, hoptions⟩ := exists_deployCommand
  have hmem : ("--dry run", "dry run") ∈ c.options.map fun o => (o.flags, o.key) := by
    rw [hoptions]
    exact List.mem_cons_self
  obtain ⟨o, ho, heq⟩ := List.mem_map.1 hmem
  obtain ⟨hflags, hkey⟩ := Prod.mk.inj heq
  refine ⟨m, c, hm, hc, o, ho, hflags, fun hreadable => ?_⟩
  have hname := hreadable.key
  rw [hflags, hkey] at hname
  exact absurd hname (by decide +kernel)

end CommandGrove
