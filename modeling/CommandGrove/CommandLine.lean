import CommandGrove.Config

/-!
# Command lines

What the tool is asked to do.  A command line names a verb; options and positions give the rest.

## What is here

* `Verb`, `Field`, `Level` — the words of a command line: what can be asked for, what can be given
  with it, and which of that is read where.
* `Task`, `CommandLine` — what was asked for.
* `CommandLine.Fault` — why a list of arguments asks for nothing.
-/

set_option autoImplicit false
namespace CommandGrove

/-! ## Words -/

/-- What the tool can be asked to do. -/
inductive Verb where
  | build
  | watch
  | generate
  deriving DecidableEq, Repr

/-- The verbs. -/
def Verb.all : List Verb := [.build, .watch, .generate]

/-- The name of a verb. -/
def Verb.name : Verb → String
  | .build => "build"
  | .watch => "watch"
  | .generate => "generate"

/-- The verb that asks for an explanation of the others. -/
def helpName : String := "help"

/-- What can be given on a command line. -/
inductive Field where
  /-- The program that makes executables. -/
  | bundler
  | logLevel
  | entry
  | glob
  | baseDir
  | name
  /-- The file that the output goes to. -/
  | out
  /-- The output is to be a document. -/
  | json
  | help
  | version
  deriving DecidableEq, Repr

namespace Field

/-- The field is given with a value. -/
def takesValue : Field → Bool
  | .json | .help | .version => false
  | .bundler | .logLevel | .entry | .glob | .baseDir | .name | .out => true

/-- The value is a path, which cannot be empty. -/
def isPath : Field → Bool
  | .entry | .baseDir | .out => true
  | .bundler | .logLevel | .glob | .name | .json | .help | .version => false

/-- The long names of an option. -/
def longNames : Field → List String
  | .bundler => ["bun"]
  | .logLevel => ["log-level"]
  | .baseDir => ["baseDir", "base-dir"]
  | .name => ["name"]
  | .out => ["out"]
  | .json => ["json"]
  | .help => ["help"]
  | .version => ["version"]
  | .entry | .glob => []

/-- The letter of an option that has one. -/
def letter? : Field → Option Char
  | .out => some 'o'
  | .help => some 'h'
  | .version => some 'V'
  | .bundler | .logLevel | .entry | .glob | .baseDir | .name | .json => none

end Field

/-- Where arguments are read: in front of a verb, or behind one. -/
inductive Level where
  | front
  | behind (verb : Verb)
  deriving DecidableEq, Repr

namespace Level

/-- The options that are read. -/
def options : Level → List Field
  | .front => [.bundler, .logLevel, .help, .version]
  | .behind .build | .behind .watch => [.bundler, .logLevel, .help, .baseDir, .name]
  | .behind .generate => [.bundler, .logLevel, .help, .baseDir, .name, .out, .json]

/-- The fields that are told by their position, in order. -/
def positions : Level → List Field
  | .front => []
  | .behind .build | .behind .generate => [.entry]
  | .behind .watch => [.glob, .entry]

/-- The fields that have to be given. -/
def required : Level → List Field
  | .behind .watch => [.glob]
  | .front | .behind .build | .behind .generate => []

/-- The option with a long name. -/
def long? (l : Level) (name : String) : Option Field :=
  l.options.find? fun f => f.longNames.contains name

/-- The option with a letter. -/
def letter? (l : Level) (letter : Char) : Option Field :=
  l.options.find? fun f => f.letter? == some letter

/-- The verb that a text names where it is read; behind a verb no text names another one. -/
def verb? (l : Level) (text : String) : Option Verb :=
  if l = .front then Verb.all.find? fun v => v.name == text else none

/-- The text asks for an explanation. -/
def isHelp (l : Level) (text : String) : Bool := l == .front && text == helpName

end Level

/-! ## What was asked for -/

/-- What is to be done. -/
inductive Task where
  | build (request : Request)
  /-- Build, and build again whenever a file changes that the glob accepts. -/
  | watch (glob : String) (request : Request)
  /-- Only write the source, or the document that describes it. -/
  | generate (request : Request) (out : Option String) (json : Bool)
  deriving DecidableEq, Repr

/-- The verb of a task. -/
def Task.verb : Task → Verb
  | .build _ => .build
  | .watch _ _ => .watch
  | .generate _ _ _ => .generate

/-- What a task is about. -/
def Task.request : Task → Request
  | .build request | .watch _ request | .generate request _ _ => request

/-- A command line. -/
structure CommandLine where
  task : Task
  /-- The program that makes executables. -/
  bundler : String
  logLevel : String
  deriving DecidableEq, Repr

/-- The bundler if nobody names one. -/
def defaultBundler : String := "bun"

/-- The level of detail if nobody names one. -/
def defaultLogLevel : String := "info"

/-- Why arguments ask for nothing. -/
inductive CommandLine.Fault where
  | unknownArgument
  /-- A value is not there, or is empty where a path has to be. -/
  | invalidValue
  | missingArgument
  | unknownVerb
  /-- A field is given twice. -/
  | repeated
  /-- A value is given to an option that takes none. -/
  | tooManyValues
  /-- An explanation is asked for. -/
  | help
  /-- The version is asked for. -/
  | version
  | nothingGiven
  | missingVerb
  deriving DecidableEq, Repr

/-- The fault is none: what is asked for is a text that the tool can show. -/
def CommandLine.Fault.isAnswer : CommandLine.Fault → Bool
  | .help | .version => true
  | .unknownArgument | .invalidValue | .missingArgument | .unknownVerb | .repeated
  | .tooManyValues | .nothingGiven | .missingVerb => false

end CommandGrove
