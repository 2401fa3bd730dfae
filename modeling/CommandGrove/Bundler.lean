import CommandGrove.Config

/-!
# Making executables

The source of a program is written into a unit, a file of its own in the working directory.  A
bundler is started on the unit, and the unit is taken away again whatever the bundler did.  How a
unit is called, whether it can be made and how much can be written into it is up to the system.

## What is here

* `Launcher`, `Ended` — how programs are started, and what they leave behind.
* `Launch` — a start of a program, with the files it found.
* `Units`, `Units.write` — what the system does when a unit is made, and the making of one.
* `Units.numbered` — units that have numbers in their names.
* `Bundle`, `Bundle.run` — what is to be made, and the making of it.
-/

set_option autoImplicit false
namespace CommandGrove

/-! ## Programs -/

/-- What a program that was started leaves behind. -/
structure Ended where
  files : FileTree
  /-- Its exit code; a program that a signal ended has none. -/
  code : Option Nat
  /-- What it wrote to the standard output. -/
  output : String
  /-- What it wrote to the standard error stream. -/
  errors : String

/-- A start of a program. -/
structure Launch where
  program : String
  workingDir : String
  arguments : List String
  /-- The files that the program finds. -/
  files : FileTree

/-- How programs are started: what they leave behind, or why they could not be started. -/
abbrev Launcher : Type := Launch → Except SystemFault Ended

/-! ## Units -/

/-- The front of the names of units. -/
def unitMark : String := ".fli-entry-"

/-- The extension of units. -/
def unitExtension : String := ".ts"

/-- The name is one of a unit. -/
def IsUnitName (name : String) : Prop :=
  ∃ middle : String, '/' ∉ middle.toList ∧ name = unitMark ++ middle ++ unitExtension

/-- Something is at a path already. -/
def isTaken (files : FileTree) (path : String) : Bool := (files.resolve .keep path.toList).toBool

/-- The files without the one at a path; what is no file stays. -/
def discard (files : FileTree) (path : String) : FileTree :=
  match files.removeFile path.toList with
  | .ok without => without
  | .error _ => files

/-- The files with a text in the one at a path. -/
def fill (files : FileTree) (path text : String) : FileTree :=
  match files.write path.toList (.text text) with
  | .ok filled => filled
  | .error _ => files

/-- What the system does when a unit is made in a directory. -/
structure Units where
  /-- The name that the unit gets. -/
  name : FileTree → String → String
  /-- Why no file can be made in the directory, if none can. -/
  refusal : FileTree → String → Option SystemFault
  /-- If a text cannot be written to its end, how much of it is, and why not all. -/
  cut : FileTree → String → Option (String × SystemFault)

namespace Units

/-- The path that the unit gets. -/
def path (u : Units) (files : FileTree) (workingDir : String) : String :=
  joinPath workingDir (u.name files workingDir)

/-- The names are those of units, and nothing else has them. -/
structure IsSound (u : Units) : Prop where
  isUnitName : ∀ files workingDir, IsUnitName (u.name files workingDir)
  isFree : ∀ files workingDir, isTaken files (u.path files workingDir) = false

/-- Makes a unit with nothing in it. -/
def create (u : Units) (files : FileTree) (workingDir : String) : Except SystemFault FileTree :=
  match u.refusal files workingDir with
  | some fault => .error fault
  | none => files.createFile (u.path files workingDir).toList (.text "")

/-- Makes a unit with a text in it.  A unit that the text does not get into is taken away again; the
files that are left are given with the fault. -/
def write (u : Units) (files : FileTree) (workingDir text : String) :
    Except (SystemFault × FileTree) FileTree :=
  match u.create files workingDir with
  | .error fault => .error (fault, files)
  | .ok created =>
    let unit := u.path files workingDir
    match u.cut created text with
    | some (written, fault) => .error (fault, discard (fill created unit written) unit)
    | none => .ok (fill created unit text)

end Units

/-! ## Units with numbers -/

/-- The number of digits in the name of a unit, at least. -/
def unitDigits : Nat := 6

/-- The name of the unit with a number. -/
def unitName (n : Nat) : String :=
  let digits := Nat.toDigits 10 n
  unitMark ++ String.ofList (List.replicate (unitDigits - digits.length) '0' ++ digits) ++
    unitExtension

/-- The name with the first number that is free.  One more number than there are items is enough to
find it. -/
def freeUnitName (files : FileTree) (workingDir : String) : String :=
  let names := (List.range (files.items.length + 1)).map unitName
  (names.find? fun name => !isTaken files (joinPath workingDir name)).getD (unitName 0)

/-- Units get numbers, and can always be made and written. -/
def Units.numbered : Units := ⟨freeUnitName, fun _ _ => none, fun _ _ => none⟩

/-! ## Bundling -/

/-- What is to be made. -/
structure Bundle where
  source : String
  /-- The name of the executable. -/
  name : String
  workingDir : String
  /-- The program that makes it. -/
  bundler : String
  deriving DecidableEq, Repr

/-- What the making of an executable leaves behind. -/
structure Bundled where
  files : FileTree
  /-- The programs that were started. -/
  launches : List Launch
  output : String
  errors : String
  /-- The path of the executable. -/
  result : Except Error String

namespace Bundle

/-- The arguments for a bundler. -/
def arguments (b : Bundle) (unit : String) : List String :=
  ["build", unit, "--compile", "--outfile", b.name]

/-- What comes of the exit code of a bundler. -/
def outcome (b : Bundle) : Option Nat → Except Error String
  | some 0 => .ok (joinPath b.workingDir b.name)
  | code => .error (.build (code.map Int.ofNat))

/-- Makes an executable. -/
def run (b : Bundle) (units : Units) (launch : Launcher) (files : FileTree) : Bundled :=
  match units.write files b.workingDir b.source with
  | .error (fault, left) =>
    { files := left, launches := [], output := "", errors := ""
      result := .error (.write b.workingDir fault) }
  | .ok written =>
    let unit := units.path files b.workingDir
    let start : Launch :=
      { program := b.bundler, workingDir := b.workingDir, arguments := b.arguments unit
        files := written }
    match launch start with
    | .error fault =>
      { files := discard written unit, launches := [start], output := "", errors := ""
        result := .error (.spawn b.bundler fault) }
    | .ok ended =>
      { files := discard ended.files unit, launches := [start], output := ended.output
        errors := ended.errors, result := b.outcome ended.code }

end Bundle
end CommandGrove
