import CommandGrove.Naming
import CommandGrove.Path

/-!
# Module paths

A module is known by its path below the directory of the commands, with slashes whatever the
system that it was written on.

## What is here

* `ModulePath`, `ModulePath.ofText` — a path without backslashes, and the one that a text writes.
* `ModulePath.stemPath`, `ModulePath.directories`, `ModulePath.stem`, `ModulePath.isIndex` — its
  parts.
* `isModuleFileName` — the name is one of a file that holds a module.
-/

set_option autoImplicit false
namespace CommandGrove

/-! ## Paths with slashes -/

/-- A backslash counts as a slash. -/
def slashed (c : Char) : Char := if c = '\\' then '/' else c

/-- The path of a module below the directory of the commands. -/
structure ModulePath where
  text : String
  /-- All separators are slashes. -/
  noBackslash : '\\' ∉ text.toList
  deriving DecidableEq

namespace ModulePath

/-- The path that a text writes; backslashes count as slashes. -/
def ofText (text : String) : ModulePath where
  text := String.ofList (text.toList.map slashed)
  noBackslash := by
    simp only [String.toList_ofList, List.mem_map, not_exists, not_and]
    intro c _ h
    unfold slashed at h
    split at h
    · exact absurd h (by decide)
    · contradiction

/-- A text without backslashes is the path it writes. -/
theorem ofText_text (p : ModulePath) : ofText p.text = p := by
  obtain ⟨text, h⟩ := p
  have : text.toList.map slashed = text.toList := by
    conv => rhs; rw [← List.map_id text.toList]
    refine List.map_congr_left fun c hc => ?_
    unfold slashed
    split
    · next e => exact absurd (e ▸ hc) h
    · rfl
  simp [ofText, this]

/-! ## Parts -/

/-- The path without its extension. -/
def stemPath (p : ModulePath) : String := Naming.stripExtension p.text

/-- The pieces of the path without its extension. -/
def stemPieces (p : ModulePath) : List String := Naming.pieces p.stemPath

/-- The names of the directories on the way, as they are written. -/
def directories (p : ModulePath) : List String := p.stemPieces.dropLast

/-- The name of the file without its extension. -/
def stem (p : ModulePath) : String := p.stemPieces.getLast?.getD ""

/-- The module stands for its directory. -/
def isIndex (p : ModulePath) : Bool := p.stem == Naming.indexStem

end ModulePath

/-! ## File names -/

/-- The file or directory is not meant to be found: its name begins with `.` or `_`. -/
def isPrivateName (name : List Char) : Bool :=
  name.head? == some '.' || name.head? == some '_'

/-- The extension of a file that declares what is defined elsewhere. -/
def declarationExtension : List Char := ['.', 'd', '.', 't', 's']

/-- The name is one of a file that holds a module: it has the extension of one, and the file is
neither private nor full of declarations. -/
def isModuleFileName (name : List Char) : Bool :=
  !isPrivateName name && !declarationExtension.isSuffixOf name &&
    (Path.extension? name).any Naming.extensions.contains

end CommandGrove
