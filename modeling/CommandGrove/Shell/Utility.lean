import CommandGrove.Bundler
import CommandGrove.Text.Affix

/-!
# Utilities

The commands that shell scripts are made of, each as a change of a file tree.

## What is here

* `Place` — the files a command finds and the directory it runs in.
* `Utility` — a command: from a place and its arguments to what it leaves behind.
* `utility?` — the command with a name.
-/

set_option autoImplicit false
namespace CommandGrove
namespace Shell

/-! ## Places and effects -/

/-- Where a command runs. -/
structure Place where
  files : FileTree
  directory : List Char

/-- A command: what it leaves behind when it gets some arguments. -/
abbrev Utility : Type := Place → List String → Ended

/-- The path of an argument. -/
def Place.path (p : Place) (argument : String) : List Char :=
  Path.join p.directory argument.toList

/-- The command succeeds. -/
def success (files : FileTree) : Ended := ⟨files, some 0, "", ""⟩

/-- The command fails and says why. -/
def failure (files : FileTree) (code : Nat) (message : String) : Ended :=
  ⟨files, some code, "", if message.isEmpty then "" else message ++ "\n"⟩

/-- The command succeeds or fails, and that is all. -/
def verdict (files : FileTree) (holds : Bool) : Ended :=
  ⟨files, some (if holds then 0 else 1), "", ""⟩

/-- The command succeeds and writes something. -/
def printing (files : FileTree) (text : String) : Ended := ⟨files, some 0, text, ""⟩

/-- Does one thing for each argument; what fails does not keep the others from being done. -/
def forEach (act : Place → String → Ended) : Utility := fun p arguments =>
  arguments.foldl (fun done argument =>
    let next := act ⟨done.files, p.directory⟩ argument
    { files := next.files
      code := if next.code = some 0 then done.code else next.code
      output := done.output ++ next.output
      errors := done.errors ++ next.errors }) (success p.files)

/-- The words for a fault of the system. -/
def faultWords : SystemFault → String
  | .notFound => "No such file or directory"
  | .permissionDenied => "Permission denied"
  | .exists => "File exists"
  | .notDirectory => "Not a directory"
  | .isDirectory => "Is a directory"
  | .invalidArgument => "Invalid argument"
  | .noSpace => "No space left on device"
  | .tooManyLinks => "Too many levels of symbolic links"
  | .nameTooLong => "File name too long"
  | .badFormat => "Exec format error"
  | .notText => "Illegal byte sequence"

/-- A change of the files, or the failure of the command that wanted it. -/
def attempt (p : Place) (message : String) (change : Except SystemFault FileTree) : Ended :=
  match change with
  | .ok files => success files
  | .error fault => failure p.files 1 (message ++ ": " ++ faultWords fault)

/-! ## Writing -/

/-- Replaces `%s` by the arguments and the escapes by what they mean. -/
def format : List Char → List String → List Char
  | '%' :: 's' :: rest, arguments => (arguments.headD "").toList ++ format rest arguments.tail
  | '%' :: '%' :: rest, arguments => '%' :: format rest arguments
  | '\\' :: 'n' :: rest, arguments => '\n' :: format rest arguments
  | '\\' :: 't' :: rest, arguments => '\t' :: format rest arguments
  | '\\' :: '\\' :: rest, arguments => '\\' :: format rest arguments
  | c :: rest, arguments => c :: format rest arguments
  | [], _ => []

/-- The number of arguments that a format takes. -/
def slots : List Char → Nat
  | '%' :: 's' :: rest => slots rest + 1
  | '%' :: '%' :: rest => slots rest
  | _ :: rest => slots rest
  | [] => 0

/-- Uses a format once and then some more times, always for the arguments that are left. -/
def formatAgain (text : List Char) : Nat → List String → List Char
  | 0, arguments => format text arguments
  | again + 1, arguments => format text arguments ++
    formatAgain text again (arguments.drop (slots text))

/-- Writes its arguments in a format, which is used until no argument is left. -/
def printf : Utility := fun p arguments =>
  match arguments with
  | text :: rest =>
    let again := (rest.length - 1) / slots text.toList
    printing p.files (String.ofList (formatAgain text.toList again rest))
  | [] => failure p.files 2 "printf: usage: printf format [arguments]"

/-- The escapes of a text replaced by what they mean. -/
def plainText : List Char → List Char
  | '\\' :: 'n' :: rest => '\n' :: plainText rest
  | '\\' :: 't' :: rest => '\t' :: plainText rest
  | '\\' :: '\\' :: rest => '\\' :: plainText rest
  | c :: rest => c :: plainText rest
  | [] => []

/-- Writes its arguments; `-n` in front leaves the line open. -/
def echo : Utility := fun p arguments =>
  let written (texts : List String) : String :=
    String.ofList (plainText (" ".intercalate texts).toList)
  match arguments with
  | "-n" :: rest => printing p.files (written rest)
  | _ => printing p.files (written arguments ++ "\n")

/-- Writes the directory it runs in. -/
def pwd : Utility := fun p _ => printing p.files (String.ofList p.directory ++ "\n")

/-- Writes the text of files. -/
def cat : Utility := forEach fun p argument =>
  match p.files.readText (p.path argument) with
  | .ok text => printing p.files text
  | .error fault => failure p.files 1 ("cat: " ++ argument ++ ": " ++ faultWords fault)

/-- Writes the names in directories, without the hidden ones unless they are asked for. -/
def ls : Utility := fun p arguments =>
  let (flags, paths) := arguments.partition fun a => a.startsWith "-" && a != "-"
  let all := flags.any fun f => f.contains 'a'
  let hidden := all || flags.any fun f => f.contains 'A'
  let paths := if paths.isEmpty then ["."] else paths
  forEach (fun p argument =>
    match p.files.resolve .follow (p.path argument) with
    | .error fault =>
      failure p.files 2 ("ls: cannot access '" ++ argument ++ "': " ++ faultWords fault)
    | .ok place =>
      let names := ((p.files.children place).mergeSort FileTree.nameLE).map (·.1)
      let shown := names.filter fun n => hidden || n.head? != some '.'
      let dots := if all then [['.'], ['.', '.']] else []
      let lines := (dots ++ shown).map fun n => String.ofList n ++ "\n"
      printing p.files (String.join lines)) p paths

/-- Writes the path without its last name. -/
def dirname : Utility := forEach fun p argument =>
  let parent := match Path.parent? argument.toList with
    | some [] => ['.']
    | some parent => parent
    | none => if Path.isAbsolute argument.toList then ['/'] else ['.']
  printing p.files (String.ofList parent ++ "\n")

/-- Writes the last name of a path, without the ending if one is given. -/
def basename : Utility := fun p arguments =>
  match arguments with
  | argument :: endings =>
    let name := (Path.fileName? argument.toList).getD argument.toList
    let bare := (Text.stripSuffix? (endings.headD "").toList name).getD name
    printing p.files (String.ofList (if bare.isEmpty then name else bare) ++ "\n")
  | [] => failure p.files 1 "basename: missing operand"

/-! ## Files -/

/-- The arguments without the options in front of them or between them. -/
def operands (arguments : List String) : List String :=
  arguments.filter fun a => !(a.startsWith "-" && a != "-")

/-- One of the options has a letter. -/
def hasLetter (letter : Char) (arguments : List String) : Bool :=
  arguments.any fun a => a.startsWith "-" && !a.startsWith "--" && a.toList.contains letter

/-- Makes files that are not there. -/
def touch : Utility := fun p arguments =>
  forEach (fun p argument =>
    if (p.files.itemAt (p.path argument)).isSome then success p.files
    else attempt p ("touch: cannot touch '" ++ argument ++ "'")
      (p.files.write (p.path argument) (.text ""))) p (operands arguments)

/-- Takes files away; a directory needs `-r`, and with `-f` what is not there is no fault. -/
def rm : Utility := fun p arguments =>
  let force := hasLetter 'f' arguments
  let deep := hasLetter 'r' arguments || hasLetter 'R' arguments
  forEach (fun p argument =>
    match p.files.resolve .keep (p.path argument) with
    | .error fault =>
      if force then success p.files
      else failure p.files 1 ("rm: cannot remove '" ++ argument ++ "': " ++ faultWords fault)
    | .ok place =>
      if p.files.item? place = some .directory && !deep then
        failure p.files 1 ("rm: cannot remove '" ++ argument ++ "': Is a directory")
      else success (p.files.drop place)) p (operands arguments)

/-- Makes directories; with `-p` also those above them. -/
def mkdir : Utility := fun p arguments =>
  let deep := hasLetter 'p' arguments
  forEach (fun p argument =>
    let path := p.path argument
    let message := "mkdir: cannot create directory '" ++ argument ++ "'"
    if deep then attempt p message (p.files.makeDirectories path)
    else if (p.files.itemAt path).isSome then attempt p message (.error .exists)
    else attempt p message (p.files.makeDirectory (Path.split path))) p (operands arguments)

/-- The path that a copy or a move goes to: below a directory it keeps its name. -/
def destination (p : Place) (source target : String) : List Char :=
  let path := p.path target
  if p.files.isDirectory path then
    Path.join path ((Path.fileName? source.toList).getD source.toList)
  else path

/-- Copies one file. -/
def copy (p : Place) (source target : String) : Ended :=
  match p.files.read (p.path source) with
  | .error .isDirectory =>
    failure p.files 1 ("cp: -r not specified; omitting directory '" ++ source ++ "'")
  | .error fault => failure p.files 1 ("cp: cannot stat '" ++ source ++ "': " ++ faultWords fault)
  | .ok content =>
    attempt p ("cp: cannot create regular file '" ++ target ++ "'")
      (p.files.write (destination p source target) content)

/-- Moves one item. -/
def rename (p : Place) (source target : String) : Ended :=
  match p.files.resolve .keep (p.path source) with
  | .error fault => failure p.files 1 ("mv: cannot stat '" ++ source ++ "': " ++ faultWords fault)
  | .ok place =>
    match p.files.resolve .create (destination p source target) with
    | .error fault =>
      failure p.files 1
        ("mv: cannot move '" ++ source ++ "' to '" ++ target ++ "': " ++ faultWords fault)
    | .ok goal => if goal = place then success p.files else success (p.files.move place goal)

/-- Does one thing for each argument but the last one, which is the target. -/
def towardLast (act : Place → String → String → Ended) : Utility := fun p arguments =>
  let paths := operands arguments
  match paths.getLast? with
  | some target =>
    if paths.length < 2 then failure p.files 1 "missing destination file operand"
    else forEach (fun p source => act p source target) p paths.dropLast
  | none => failure p.files 1 "missing file operand"

/-! ## Tests -/

/-- A condition on its arguments. -/
def holds (p : Place) : List String → Bool
  | [] => false
  | ["-f", path] => p.files.isFile (p.path path)
  | ["-d", path] => p.files.isDirectory (p.path path)
  | ["-e", path] => (p.files.itemAt (p.path path)).isSome
  | ["-r", path] | ["-w", path] => (p.files.itemAt (p.path path)).isSome
  | ["-s", path] =>
    match p.files.read (p.path path) with
    | .ok content => content != .text "" && content != .binary []
    | .error fault => fault == .isDirectory
  | ["-n", text] => !text.isEmpty
  | ["-z", text] => text.isEmpty
  | ["!", text] => text.isEmpty
  | [text] => !text.isEmpty
  | [a, "=", b] => a == b
  | [a, "!=", b] => a != b
  | [a, "-eq", b] => a.toInt? == b.toInt?
  | [a, "-ne", b] => a.toInt? != b.toInt?
  | "!" :: rest => !holds p rest
  | _ => false

/-- Succeeds if a condition holds. -/
def test : Utility := fun p arguments => verdict p.files (holds p arguments)

/-- Succeeds if a condition in brackets holds. -/
def bracket : Utility := fun p arguments => verdict p.files (holds p arguments.dropLast)

/-! ## All of them -/

/-- The command with a name. -/
def utility? (name : String) : Option Utility :=
  match name with
  | "true" | ":" | "set" | "sleep" | "chmod" => some fun p _ => success p.files
  | "false" => some fun p _ => verdict p.files false
  | "echo" => some echo
  | "printf" => some printf
  | "pwd" => some pwd
  | "cat" => some cat
  | "ls" => some ls
  | "dirname" => some dirname
  | "basename" => some basename
  | "touch" => some touch
  | "rm" => some rm
  | "mkdir" => some mkdir
  | "cp" => some (towardLast copy)
  | "mv" => some (towardLast rename)
  | "test" => some test
  | "[" => some bracket
  | _ => none

end Shell
end CommandGrove
