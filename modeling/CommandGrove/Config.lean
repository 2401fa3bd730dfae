import CommandGrove.Entry
import CommandGrove.FileTree
import CommandGrove.Text.Blank
import CommandGrove.Toml.Document

/-!
# Configuration

What is compiled is told either by an entry file or by options, never by both.

## What is here

* `Request` — what was asked for.
* `EntryValues.ofTable`, `EntryValues.ofFile` — what an entry file tells.
* `checkName` — the name can be the one of a program.
* `Config`, `Request.resolve` — what a request comes down to.
-/

set_option autoImplicit false
namespace CommandGrove

/-! ## Entry files -/

/-- The text that one of several keys of a table has; nothing else may be given for them, and not
more than one of them. -/
def textUnder (keys : List String) (t : Toml.Table) : Option (Option String) :=
  match t.entries.filter fun e => keys.contains e.1 with
  | [] => some none
  | [(_, .string text)] => some (some text)
  | _ => none

/-- What a document tells, if it is sound. -/
def EntryValues.ofTable (t : Toml.Table) : Option EntryValues :=
  match textUnder ["baseDir", "base_dir"] t, textUnder ["name"] t with
  | some baseDir, some name => some ⟨baseDir, name⟩
  | _, _ => none

/-- The extension of an entry file that is a document. -/
def documentExtension : String := "toml"

/-- The extensions of entry files that are modules. -/
def moduleExtensions : List String := ["ts", "js", "mts", "mjs"]

/-- What the text of an entry file at `path` tells. -/
def EntryValues.ofText (path text : String) : Except Error EntryValues :=
  let extension := String.ofList ((Path.extension? path.toList).getD [])
  if extension == documentExtension then
    match (Toml.Table.ofDocument text.toList).bind EntryValues.ofTable with
    | some values => .ok values
    | none => .error (.load path .badDocument)
  else if moduleExtensions.contains extension then EntryValues.ofSource path text
  else .error (.load path .unsupported)

/-- What the entry file at `path` tells; it has to tell where the commands are. -/
def EntryValues.ofFile (files : FileTree) (path : String) : Except Error EntryValues := do
  match files.readText path.toList with
  | .error fault => throw (.load path (.unreadable fault))
  | .ok text =>
    let values ← ofText path text
    if (values.baseDir.getD "").isEmpty then throw (.load path .noBase)
    return values

/-! ## Requests -/

/-- What was asked for. -/
structure Request where
  /-- The entry file. -/
  entry : Option String
  /-- The directory of the commands. -/
  baseDir : Option String
  /-- The name of the program. -/
  name : Option String
  deriving DecidableEq, Repr

/-- Where everything is that a request needs. -/
structure Config where
  baseDir : String
  name : String
  /-- The entry file, if there is one. -/
  entry : Option String
  /-- The directory in which the program is made. -/
  workingDir : String
  deriving DecidableEq, Repr

/-- The name of a program that has not been given one. -/
def defaultProgramName : String := "cli"

/-- The entry files that are looked for if nothing is given. -/
def defaultEntries : List String := ["fli.toml", "fli.entry.ts", "index.ts"]

/-- `path` as seen from `base`. -/
def joinPath (base path : String) : String := String.ofList (Path.join base.toList path.toList)

/-- The name can be the one of a program: it is not blank and has no separators in it. -/
def checkName (name : String) : Except NameFault Unit :=
  if name.toList.all Text.isBlank then .error .blank
  else if name.toList.any fun c => c == '/' || c == '\\' then .error (.separators name)
  else .ok ()

/-- The directory that an entry file is in. -/
def entryDir (workingDir entry : String) : String :=
  match Path.parent? entry.toList with
  | some parent => String.ofList parent
  | none => workingDir

namespace Request

/-- Nothing was asked for. -/
def empty : Request := ⟨none, none, none⟩

/-- What an entry file comes down to. -/
def resolveEntry (files : FileTree) (workingDir entry : String) : Except Error Config := do
  if !files.isFile entry.toList then throw (.load entry .missing)
  let values ← EntryValues.ofFile files entry
  let name := values.name.getD defaultProgramName
  match checkName name with
  | .error fault => throw (.load entry (.badName fault))
  | .ok _ =>
    return { baseDir := joinPath (entryDir workingDir entry) (values.baseDir.getD "")
             name := name, entry := some entry, workingDir := workingDir }

/-- What options come down to. -/
def resolveOptions (r : Request) (workingDir : String) : Except Error Config :=
  match r.baseDir with
  | none => .error (.usage .nameAlone)
  | some baseDir =>
    let name := r.name.getD defaultProgramName
    match checkName name with
    | .error fault => .error (.usage (.badName fault))
    | .ok _ =>
      .ok { baseDir := joinPath workingDir baseDir, name := name, entry := none,
            workingDir := workingDir }

/-- What a request comes down to in a directory. -/
def resolve (r : Request) (files : FileTree) (workingDir : String) : Except Error Config :=
  match r.entry, r.baseDir.isSome || r.name.isSome with
  | some _, true => .error (.usage .mixedModes)
  | some entry, false => resolveEntry files workingDir (joinPath workingDir entry)
  | none, true => r.resolveOptions workingDir
  | none, false =>
    match (defaultEntries.map (joinPath workingDir)).find? fun e => files.isFile e.toList with
    | some entry => resolveEntry files workingDir entry
    | none => .error (.usage .noConfiguration)

end Request
end CommandGrove
