import CommandGrove.Shell.Script
import CommandGrove.Shell.Utility

/-!
# Running shell scripts

A script runs on a file tree.  It has arguments and may end before its last command, by itself or
by a signal.

## What is here

* `State` — what a script has done so far.
* `State.expand` — the fields that a word stands for.
* `Script.run` — what a script does.
* `launcher` — starts the shell and utilities by their names, and scripts by their paths.
-/

set_option autoImplicit false
namespace CommandGrove
namespace Shell

/-! ## States -/

/-- What a script has done so far. -/
structure State where
  files : FileTree
  directory : List Char
  /-- The name of the script and its arguments. -/
  arguments : List String
  /-- The parameters that were given values. -/
  values : List (List Char × String)
  /-- The exit code of the last command. -/
  last : Nat
  output : String
  errors : String
  /-- The script is over: with an exit code, or without one by a signal. -/
  ending : Option (Option Nat)

/-- The number that a script knows itself by. -/
def processNumber : String := "4711"

namespace State

/-- The value of a parameter. -/
def value (s : State) (name : List Char) : String :=
  match name with
  | ['#'] => toString (s.arguments.length - 1)
  | ['?'] => toString s.last
  | ['$'] => processNumber
  | ['@'] | ['*'] => " ".intercalate s.arguments.tail
  | name =>
    match (String.ofList name).toNat? with
    | some n => s.arguments[n]?.getD ""
    | none => ((s.values.find? fun v => v.1 == name).map (·.2)).getD ""

/-! ## Words -/

/-- Characters, each with a mark if it is quoted. -/
abbrev Field : Type := List (Char × Bool)

/-- The characters, all quoted or none of them. -/
def mark (quoted : Bool) (text : List Char) : Field := text.map fun c => (c, quoted)

/-- Adds characters to the last field. -/
def extend (fields : List Field) (more : Field) : List Field :=
  match fields.getLast? with
  | some last => fields.dropLast ++ [last ++ more]
  | none => [more]

/-- Adds several texts: the first one to the last field, the others as new ones. -/
def extendAll (fields : List Field) (quoted : Bool) (texts : List (List Char)) : List Field :=
  match texts with
  | [] => fields
  | first :: others => extend fields (mark quoted first) ++ others.map (mark quoted)

/-- The pieces of a text between blanks. -/
def fieldsOf (text : String) : List (List Char) :=
  (Text.splitOn ' ' (text.toList.map fun c => if c == '\t' || c == '\n' then ' ' else c)).filter
    fun piece => !piece.isEmpty

/-- Adds what a part of a word stands for. -/
def addPart (s : State) (fields : List Field) : Part → List Field
  | .text quoted chars => extend fields (mark quoted chars)
  | .parameter true ['@'] => extendAll fields true (s.arguments.tail.map String.toList)
  | .parameter true name => extend fields (mark true (s.value name).toList)
  | .parameter false name => extendAll fields false (fieldsOf (s.value name))

/-- The fields that a word stands for, before patterns among them are replaced. -/
def fields (s : State) (word : Word) : List Field := word.foldl s.addPart []

end State

/-- The text matches a pattern: an open `*` stands for any characters, an open `?` for one. -/
def matchesField : State.Field → List Char → Bool
  | [], text => text.isEmpty
  | ('*', false) :: rest, [] => matchesField rest []
  | ('*', false) :: rest, c :: text =>
    matchesField rest (c :: text) || matchesField (('*', false) :: rest) text
  | ('?', false) :: rest, text =>
    match text with
    | _ :: text => matchesField rest text
    | [] => false
  | (p, _) :: rest, text =>
    match text with
    | c :: text => p == c && matchesField rest text
    | [] => false
termination_by pattern text => (pattern.length, text.length)

/-- The field is a pattern. -/
def isPattern (field : State.Field) : Bool :=
  field.contains ('*', false) || field.contains ('?', false)

namespace State

/-- The characters of a field. -/
def chars (field : Field) : List Char := field.map Prod.fst

/-- The names in the directory that a pattern stands for, or the pattern itself. -/
def expandField (s : State) (field : Field) : List String :=
  let found :=
    match s.files.resolve .follow s.directory with
    | .error _ => []
    | .ok place =>
      (((s.files.children place).mergeSort FileTree.nameLE).map Prod.fst).filter fun name =>
        matchesField field name && (name.head? != some '.' || (chars field).head? == some '.')
  if isPattern field && !found.isEmpty then found.map String.ofList
  else [String.ofList (chars field)]

/-- The texts that a word stands for. -/
def expand (s : State) (word : Word) : List String := (s.fields word).flatMap s.expandField

/-- The text that a word stands for where only one can be. -/
def text (s : State) (word : Word) : String :=
  " ".intercalate ((s.fields word).map fun f => String.ofList (chars f))

/-! ## Simple commands -/

/-- Where the output of a command goes. -/
inductive Sink where
  | output
  | errors
  | file (path : List Char)
  | nowhere
  deriving DecidableEq, Repr

/-- The file that swallows everything. -/
def nullDevice : String := "/dev/null"

/-- The place of a text that a redirection names. -/
def sinkOf (s : State) (target : Word) : Sink :=
  let name := s.text target
  if name == nullDevice then .nowhere else .file (Path.join s.directory name.toList)

/-- Makes sure that the file of a redirection is there, and empty unless it is appended to. -/
def openSink (s : State) (append : Bool) : Sink → Except SystemFault State
  | .file path =>
    if append && s.files.isFile path then .ok s
    else (s.files.write path (.text "")).map fun files => { s with files := files }
  | _ => .ok s

/-- Where the two outputs of a command go. -/
structure Sinks where
  output : Sink
  errors : Sink

/-- Does what a redirection says. -/
def redirect (state : State × Sinks) (r : Redirect) : Except SystemFault (State × Sinks) :=
  let (s, sinks) := state
  match r with
  | .output append target =>
    let sink := s.sinkOf target
    (s.openSink append sink).map fun s => (s, { sinks with output := sink })
  | .errors target =>
    let sink := s.sinkOf target
    (s.openSink false sink).map fun s => (s, { sinks with errors := sink })
  | .outputToErrors => .ok (s, { sinks with output := sinks.errors })
  | .errorsToOutput => .ok (s, { sinks with errors := sinks.output })

/-- Writes a text to where it goes. -/
def send (s : State) (sink : Sink) (text : String) : State :=
  if text.isEmpty then s
  else
    match sink with
    | .output => { s with output := s.output ++ text }
    | .errors => { s with errors := s.errors ++ text }
    | .nowhere => s
    | .file path =>
      match s.files.readText path with
      | .ok old =>
        match s.files.write path (.text (old ++ text)) with
        | .ok files => { s with files := files }
        | .error _ => s
      | .error _ => s

/-- The characters at the front of a word that are not quoted. -/
def openFront : Word → List Char
  | .text false chars :: rest => chars ++ openFront rest
  | _ => []

/-- The name and the value of a word that gives a parameter a value. -/
def assignment? (s : State) (word : Word) : Option (List Char × String) :=
  let front := openFront word
  let name := front.takeWhile isNameChar
  if name.isEmpty || name.head?.any Char.isDigit || (front.drop name.length).head? != some '=' then
    none
  else some (name, String.ofList ((s.text word).toList.drop (name.length + 1)))

/-- Ends the script. -/
def finish (s : State) (code : Option Nat) : State := { s with ending := some code }

/-- The exit code that an argument of `exit` means. -/
def exitCode (s : State) (arguments : List String) : Nat :=
  match arguments with
  | [] => s.last
  | argument :: _ => ((argument.toNat?).getD 2) % 256

/-- Changes the directory. -/
def enter (s : State) (argument : String) : State :=
  let path := Path.join s.directory argument.toList
  match s.files.resolve .follow path with
  | .ok place =>
    if s.files.item? place = some .directory then
      { s with directory := FileTree.pathOf place, last := 0 }
    else { s with last := 2 }
  | .error _ => { s with last := 2 }

/-- Runs a utility. -/
def call (s : State) (sinks : Sinks) (name : String) (arguments : List String) : State :=
  match utility? name with
  | some act =>
    let ended := act ⟨s.files, s.directory⟩ arguments
    let s := { s with files := ended.files, last := ended.code.getD 0 }
    (s.send sinks.output ended.output).send sinks.errors ended.errors
  | none =>
    { s with last := 127 }.send sinks.errors
      ((s.arguments.headD "") ++ ": 1: " ++ name ++ ": not found\n")

/-- Runs a command that does not take the place of the script. -/
def step (s : State) (sinks : Sinks) (name : String) (arguments : List String) : State :=
  match name with
  | "exit" => s.finish (some (s.exitCode arguments))
  | "cd" => s.enter (arguments.headD "")
  | "shift" =>
    let n := ((arguments.headD "1").toNat?).getD 1
    if n < s.arguments.length then
      { s with arguments := s.arguments.take 1 ++ s.arguments.drop (n + 1), last := 0 }
    else s.finish (some 2)
  | "kill" =>
    if arguments.contains processNumber && !arguments.contains "-0" then s.finish none
    else { s with last := 1 }
  | name => s.call sinks name arguments

/-- Runs a command; the script is over after one that takes its place. -/
def command (s : State) (sinks : Sinks) (name : String) (arguments : List String) : State :=
  match name, arguments with
  | "exec", [] => { s with last := 0 }
  | "exec", name :: arguments =>
    let s := s.step sinks name arguments
    { s with ending := s.ending.or (some (some s.last)) }
  | name, arguments => s.step sinks name arguments

/-- Runs a simple command. -/
def simple (s : State) (words : List Word) (redirects : List Redirect) : State :=
  match redirects.foldlM redirect (s, ⟨.output, .errors⟩) with
  | .error _ => { s with last := 2 }
  | .ok (opened, sinks) =>
    let assigned := words.map s.assignment?
    if assigned.all Option.isSome then
      { opened with values := assigned.reduceOption.reverse ++ s.values, last := 0 }
    else
      match (words.drop (assigned.takeWhile Option.isSome).length).flatMap s.expand with
      | [] => { opened with last := 0 }
      | name :: arguments => opened.command sinks name arguments

end State

/-! ## Scripts -/

/-- What a script does. -/
def Script.run : Script → State → State
  | .skip, s => s
  | .succeed, s => { s with last := 0 }
  | .simple words redirects, s => if s.ending.isSome then s else s.simple words redirects
  | .sequence first second, s => second.run (first.run s)
  | .both first second, s =>
    let s := first.run s
    if s.last = 0 then second.run s else s
  | .either first second, s =>
    let s := first.run s
    if s.last = 0 then s else second.run s
  | .negate script, s =>
    let s := script.run s
    { s with last := if s.last = 0 then 1 else 0 }
  | .branch condition yes no, s =>
    let s := condition.run s
    if s.last = 0 then yes.run s else no.run s
  | .arm subject patterns body others, s =>
    let text := (s.text subject).toList
    if patterns.any fun p => matchesField (s.fields p).flatten text then body.run s
    else others.run s

/-- What a script with a name leaves behind when it is started. -/
def Script.start (script : Script) (name : String) (launch : Launch) : Ended :=
  let s := script.run
    { files := launch.files, directory := launch.workingDir.toList
      arguments := name :: launch.arguments, values := [], last := 0, output := "", errors := ""
      ending := none }
  ⟨s.files, s.ending.getD (some s.last), s.output, s.errors⟩

/-! ## Starting programs -/

/-- The first line of a file that is a script. -/
def scriptMark : String := "#!/bin/sh\n"

/-- Starts the script that a text is; a text that is none ends at once. -/
def startText (text : String) (launch : Launch) : Ended :=
  match Script.ofText? text with
  | some script => script.start launch.program launch
  | none => ⟨launch.files, some 2, "", launch.program ++ ": 1: Syntax error\n"⟩

/-- The text of a script; bytes in it that are no text are kept as they are in names. -/
def scriptText : Content → String
  | .text text => text
  | .binary bytes => String.ofList (FileName.ofBytes bytes)

/-- The shell as a program: its first argument names a script. -/
def shell (launch : Launch) : Ended :=
  match launch.arguments with
  | [] => success launch.files
  | path :: arguments =>
    match launch.files.read (Path.join launch.workingDir.toList path.toList) with
    | .ok content => startText (scriptText content) { launch with program := path, arguments }
    | .error _ => failure launch.files 2 ("sh: 0: cannot open " ++ path ++ ": No such file")

/-- Starts programs: the shell and utilities by their names, and scripts by their paths.  What else
is at a path cannot be run. -/
def launcher (scripts : List (String × String)) : Launcher := fun launch =>
  match scripts.find? fun s => s.1 == launch.program with
  | some (_, text) => .ok (startText text launch)
  | none =>
    if launch.program.toList.contains '/' then
      let path := Path.join launch.workingDir.toList launch.program.toList
      match launch.files.resolve .follow path with
      | .ok _ => .error .permissionDenied
      | .error fault => .error fault
    else if launch.program == "sh" then .ok (shell launch)
    else
      match utility? launch.program with
      | some act => .ok (act ⟨launch.files, launch.workingDir.toList⟩ launch.arguments)
      | none => .error .notFound

end Shell
end CommandGrove
