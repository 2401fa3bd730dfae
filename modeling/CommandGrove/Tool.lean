import CommandGrove.Bundler
import CommandGrove.CommandLine.Reading
import CommandGrove.CommandLine.Usage
import CommandGrove.Compile
import CommandGrove.Watch.Matcher

/-!
# The tool

One run of the tool: it reads its arguments, finds out what they are about, compiles, and then
makes an executable or writes the source.

## What is here

* `Surroundings` — what a run finds.
* `Report`, `Run` — how a run ended, and what it leaves behind.
* `Tool.run` — the run itself.
-/

set_option autoImplicit false
namespace CommandGrove

/-! ## What a run finds and leaves behind -/

/-- What a run finds. -/
structure Surroundings where
  files : FileTree
  workingDir : String
  units : Units
  launch : Launcher
  /-- The bundler that the environment names. -/
  bundler : Option String

/-- How a run ended. -/
inductive Report where
  /-- The arguments ask for nothing that can be done. -/
  | refused (fault : CommandLine.Fault)
  | failed (error : Error)
  /-- An executable was made. -/
  | built (path : String)
  /-- A text was written to the standard output. -/
  | printed (text : String)
  /-- A text was written to a file. -/
  | wrote (path : String)
  /-- The files that the matcher accepts are to be watched, and the request is to be built again
  whenever one of them changes. -/
  | watching (matcher : Matcher) (request : Request) (bundler : String)

/-- What a run leaves behind. -/
structure Run where
  files : FileTree
  /-- The programs that were started. -/
  launches : List Launch
  /-- What these programs wrote to the standard output. -/
  output : String
  /-- What these programs wrote to the standard error stream. -/
  errors : String
  report : Report

namespace Run

/-- A run that changed nothing and started nothing. -/
def idle (files : FileTree) (report : Report) : Run :=
  { files := files, launches := [], output := "", errors := "", report := report }

/-- The exit code. -/
def code (r : Run) : Nat :=
  match r.report with
  | .refused fault => if fault.isAnswer then 0 else 1
  | .failed _ => 1
  | .built _ | .printed _ | .wrote _ | .watching _ _ _ => 0

/-- The text on the standard output. -/
def stdout (r : Run) : String :=
  r.output ++
    match r.report with
    | .refused fault => if fault.isAnswer then fault.text else ""
    | .printed text => text
    | .failed _ | .built _ | .wrote _ | .watching _ _ _ => ""

/-- The text on the standard error stream, lines of a log left out. -/
def stderr (r : Run) : String :=
  r.errors ++
    match r.report with
    | .refused fault => if fault.isAnswer then "" else fault.text
    | .failed error => "Error: " ++ error.message ++ "\n"
    | .built path => "✓ Built " ++ path ++ "\n"
    | .printed _ | .wrote _ | .watching _ _ _ => ""

end Run

/-! ## The run -/

namespace Tool

/-- Compiles what a request is about. -/
def prepare (s : Surroundings) (request : Request) : Except Error (Config × Compiled) := do
  let config ← request.resolve s.files s.workingDir
  let compiled ← compile s.files config
  return (config, compiled)

/-- Makes the executable that a request is about. -/
def build (s : Surroundings) (request : Request) (bundler : String) : Run :=
  match prepare s request with
  | .error error => .idle s.files (.failed error)
  | .ok (config, compiled) =>
    let bundle : Bundle :=
      { source := compiled.source, name := config.name, workingDir := config.workingDir
        bundler := bundler }
    let bundled := bundle.run s.units s.launch s.files
    { files := bundled.files, launches := bundled.launches, output := bundled.output
      errors := bundled.errors
      report :=
        match bundled.result with
        | .ok path => .built path
        | .error error => .failed error }

/-- The text for a compiled program: its source, or the document that describes it. -/
def textOf (compiled : Compiled) (json : Bool) : String :=
  if json then compiled.toJson.pretty ++ "\n" else compiled.source

/-- Writes the source that a request is about, or the document that describes it. -/
def generate (s : Surroundings) (request : Request) (out : Option String) (json : Bool) : Run :=
  match prepare s request with
  | .error error => .idle s.files (.failed error)
  | .ok (_, compiled) =>
    let text := textOf compiled json
    match out with
    | none => .idle s.files (.printed text)
    | some file =>
      let path := joinPath s.workingDir file
      match s.files.write path.toList (.text text) with
      | .error fault => .idle s.files (.failed (.write path fault))
      | .ok files => .idle files (.wrote path)

/-- The paths of the working directory: the one it is called by, and the one without links. -/
def watchRoots (s : Surroundings) : List (List Char) :=
  let called := s.workingDir.toList
  match s.files.resolve .follow called with
  | .ok place =>
    let actual := FileTree.pathOf place
    if Path.same actual called then [called] else [called, actual]
  | .error _ => [called]

/-- Begins to watch files; the request has to make sense already now. -/
def watch (s : Surroundings) (glob : String) (request : Request) (bundler : String) : Run :=
  let watched : Except Error Matcher := do
    let _ ← request.resolve s.files s.workingDir
    Matcher.ofPattern glob (watchRoots s)
  match watched with
  | .error error => .idle s.files (.failed error)
  | .ok matcher => .idle s.files (.watching matcher request bundler)

/-- Does what a command line asks for. -/
def perform (s : Surroundings) (line : CommandLine) : Run :=
  match line.task with
  | .build request => build s request line.bundler
  | .generate request out json => generate s request out json
  | .watch glob request => watch s glob request line.bundler

/-- A run of the tool. -/
def run (s : Surroundings) (arguments : List String) : Run :=
  match CommandLine.ofArguments s.bundler arguments with
  | .error fault => .idle s.files (.refused fault)
  | .ok line => perform s line

end Tool
end CommandGrove
