import CommandGrove.Shell.Run
import CommandGrove.Tool

/-!
# The program

The files on the disk are read into a file tree, the tool runs on it, and what it changed is
written back.  The bundlers that can be started are the utilities and the scripts of
`CommandGrove.Shell`.

## What is here

* `loadEntries`, `loadBelow` — the file tree for directories of the disk.
* `save` — writes back what changed.
* `watchFiles` — builds again and again.
* `main` — one run of the tool.
-/

set_option autoImplicit false
namespace CommandGrove

/-! ## The disk -/

/-- The number of directories that are entered one below the other. -/
def loadLimit : Nat := 128

/-- The time between two looks at the disk, in milliseconds. -/
def watchInterval : UInt32 := 300

/-- The location that an absolute path of the disk names. -/
def locationOf (path : String) : Location :=
  (Path.split path.toList).filter fun name => !name.isEmpty

/-- The content of a file of the disk. -/
def loadFile (path : String) : IO Content := do
  let bytes ← IO.FS.readBinFile path
  return match String.fromUTF8? bytes with
    | some text => .text text
    | none => .binary bytes.toList

/-- Adds an item that is not there yet. -/
def addItem (files : FileTree) (path : String) (item : Item) : FileTree :=
  ⟨(locationOf path, item) :: files.items⟩

/-- Adds entries of a directory and all that is below them. -/
def loadEntries : Nat → FileTree → Array IO.FS.DirEntry → IO FileTree
  | 0, files, _ => return files
  | depth + 1, files, entries =>
    entries.foldlM (fun files entry => do
      let path := entry.path.toString
      match (← entry.path.symlinkMetadata).type with
      | .dir => loadEntries depth (addItem files path .directory) (← entry.path.readDir)
      | .file => return addItem files path (.file (← loadFile path))
      | .symlink =>
        let target ← IO.FS.realPath entry.path
        return addItem files path (.link target.toString.toList)
      | .other => return files) files

/-- The file tree for the working directory. -/
def loadBelow (workingDir : String) (entries : Array IO.FS.DirEntry) : IO FileTree :=
  let start := (FileTree.empty.makeDirectories workingDir.toList).toOption.getD .empty
  loadEntries loadLimit start entries

/-- Writes an item to the disk. -/
def saveItem (place : Location) (item : Item) : IO Unit := do
  let path := String.ofList (FileTree.pathOf place)
  match item with
  | .directory => IO.FS.createDirAll path
  | .file content =>
    IO.FS.createDirAll (String.ofList (FileTree.pathOf place.dropLast))
    match content with
    | .text text => IO.FS.writeFile path text
    | .binary bytes => IO.FS.writeBinFile path ⟨bytes.toArray⟩
  | .link _ => pure ()

/-- Writes back what changed. -/
def save (before after : FileTree) : IO Unit := do
  for (place, item) in before.items do
    if after.item? place = none && item != .directory then
      IO.FS.removeFile (String.ofList (FileTree.pathOf place))
  for (place, item) in after.items.reverse do
    if before.item? place != some item then saveItem place item

/-! ## Runs -/

/-- What a run finds on the disk. -/
def surroundings : IO Surroundings := do
  let directory ← IO.currentDir
  let workingDir := directory.toString
  let files ← loadBelow workingDir (← directory.readDir)
  let scripts := files.items.filterMap fun (place, item) =>
    match item with
    | .file (.text text) =>
      if text.startsWith Shell.scriptMark then
        some (String.ofList (FileTree.pathOf place), text)
      else none
    | _ => none
  return { files := files, workingDir := workingDir, units := .numbered
           launch := Shell.launcher scripts, bundler := ← IO.getEnv "FLI_BUN" }

/-- Writes what a run leaves behind. -/
def conclude (before : FileTree) (run : Run) : IO Unit := do
  save before run.files
  IO.print run.stdout
  IO.eprint run.stderr

/-- The paths at which two file trees differ. -/
def changedPaths (before after : FileTree) : List (List Char) :=
  let differing := after.items.filter fun i => before.item? i.1 != some i.2
  let missing := before.items.filter fun i => (after.item? i.1).isNone
  (differing ++ missing).map fun i => FileTree.pathOf i.1

/-- Waits until a path changes that the matcher accepts. -/
partial def awaitChange (matcher : Matcher) (files : FileTree) : IO Surroundings := do
  IO.sleep watchInterval
  let now ← surroundings
  if (matcher.filter (changedPaths files now.files)).isEmpty then awaitChange matcher now.files
  else return now

/-- Builds now and after every change. -/
partial def watchFiles (s : Surroundings) (matcher : Matcher) (request : Request)
    (bundler : String) : IO Unit := do
  let run := Tool.build s request bundler
  conclude s.files run
  watchFiles (← awaitChange matcher run.files) matcher request bundler

end CommandGrove

/-- One run of the tool. -/
def main (arguments : List String) : IO UInt32 := do
  let s ← CommandGrove.surroundings
  let run := CommandGrove.Tool.run s arguments
  CommandGrove.conclude s.files run
  match run.report with
  | .watching matcher request bundler => CommandGrove.watchFiles s matcher request bundler
  | _ => pure ()
  return UInt32.ofNat run.code
