import CommandGrove.FileTree
import CommandGrove.ModulePath

/-!
# Finding modules

The modules below a directory are found by going through it and all directories below it, links
included.  A file is visited by its name, whatever its bytes are, but what is asked of the name and
what is given as the path of the module is the text that is shown for it.

## What is here

* `Visit` — a directory on the way, and how it was reached.
* `enter` — what a name in a directory stands for once links are followed.
* `findModules` — the modules below a directory, in order of their paths.
-/

set_option autoImplicit false
namespace CommandGrove

/-! ## On the way -/

/-- A directory on the way: where it is and the path that led to it. -/
structure Visit where
  place : Location
  path : List Char

/-- The directories that are never entered. -/
def skippedDirectories : List (List Char) := ["node_modules".toList]

/-- A path as it is shown in messages. -/
def shownPath (path : List Char) : String := String.ofList (FileName.shown path)

/-- A failure to go on at a path. -/
def stuckAt (path : List Char) (fault : ScanFault) : Error := .scan (shownPath path) fault

/-- What a name in the first of the visited directories stands for: its location, and whether a
directory is there.  A link must lead somewhere, but not to a directory it is in. -/
def enter (files : FileTree) (visits : List Visit) (dir : Visit) (name : List Char) (item : Item) :
    Except Error (Location × Bool) :=
  match item with
  | .file _ => .ok (dir.place ++ [name], false)
  | .directory => .ok (dir.place ++ [name], true)
  | .link _ =>
    let path := Path.join dir.path name
    match files.resolve .follow path with
    | .error fault => .error (stuckAt path (.walk (shownPath path) fault))
    | .ok place =>
      if files.item? place = some .directory then
        match visits.find? fun v => v.place == place with
        | some v => .error (stuckAt path (.cycle (shownPath path) (shownPath v.path)))
        | none => .ok (place, true)
      else .ok (place, false)

/-! ## Modules -/

/-- No way down is longer: between two links on it every directory has a location of its own, and
not more links than the limit are followed on one path. -/
def depthLimit (files : FileTree) : Nat := (FileTree.linkLimit + 1) * (files.items.length + 1)

/-- The names on the way to the modules below the first of the visited directories; `skip` tells
which paths are left out. -/
def modulesBelow (files : FileTree) (skip : List Char → Bool) :
    Nat → List Visit → Visit → Except Error (List (List (List Char)))
  | 0, _, dir => .error (stuckAt dir.path (.walk (shownPath dir.path) .tooManyLinks))
  | depth + 1, above, dir => do
    let visits := dir :: above
    let found ← ((files.children dir.place).mergeSort FileTree.nameLE).mapM fun (name, item) => do
      let (place, isDirectory) ← enter files visits dir name item
      let path := Path.join dir.path name
      let text := FileName.shown name
      if isPrivateName text then return []
      if isDirectory then
        if skippedDirectories.contains text then return []
        let below ← modulesBelow files skip depth visits ⟨place, path⟩
        return below.map (name :: ·)
      if isModuleFileName text && !skip path then return [[name]]
      return []
    return found.flatten

/-- The order of modules is the one of their paths. -/
def ModulePath.le (a b : ModulePath) : Bool := decide (a.text ≤ b.text)

/-- The modules below a directory, in order of their paths, without the file that is excluded. -/
def findModules (files : FileTree) (base : String) (exclude : Option String) :
    Except Error (List ModulePath) :=
  let path := base.toList
  match files.resolve .follow path with
  | .error _ => .error (.scan base .noDirectory)
  | .ok place =>
    if files.item? place = some .directory then do
      let skip := fun p => exclude.any fun e => files.sameFile e.toList p
      let found ← modulesBelow files skip (depthLimit files) [] ⟨place, path⟩
      let paths := found.map fun names =>
        ModulePath.ofText (String.ofList (Path.unsplit (names.map FileName.shown)))
      return paths.mergeSort ModulePath.le
    else .error (.scan base .noDirectory)

end CommandGrove
