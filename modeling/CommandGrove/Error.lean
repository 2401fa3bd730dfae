import CommandGrove.Script.Token

/-!
# What can go wrong

Every failure of the library is one value of `Error`, made of the cause and the path or the text it
concerns.  The wording stands here and nowhere else.

## What is here

* `SystemFault` — what the operating system answers instead of doing what it was asked.
* `NameFault`, `UsageFault`, `LoadFault`, `ScanFault`, `PatternFault` — the causes of each kind of
  failure.
* `Error`, `Error.headline` — a failure and the text for it, without the details that follow.
-/

set_option autoImplicit false
namespace CommandGrove

/-! ## The operating system -/

/-- What the operating system, or the reader of a text file, answers instead of a result. -/
inductive SystemFault where
  | notFound
  | permissionDenied
  | exists
  | notDirectory
  | isDirectory
  | invalidArgument
  | noSpace
  | tooManyLinks
  | nameTooLong
  | badFormat
  /-- The content of a file is no text. -/
  | notText
  deriving DecidableEq, Repr

/-- The answer in words, with the number the system gives to it. -/
def SystemFault.message : SystemFault → String
  | .notFound => "No such file or directory (os error 2)"
  | .badFormat => "Exec format error (os error 8)"
  | .permissionDenied => "Permission denied (os error 13)"
  | .exists => "File exists (os error 17)"
  | .notDirectory => "Not a directory (os error 20)"
  | .isDirectory => "Is a directory (os error 21)"
  | .invalidArgument => "Invalid argument (os error 22)"
  | .noSpace => "No space left on device (os error 28)"
  | .nameTooLong => "File name too long (os error 36)"
  | .tooManyLinks => "Too many levels of symbolic links (os error 40)"
  | .notText => "stream did not contain valid UTF-8"

/-! ## Causes -/

/-- Why a text cannot be the name of a program. -/
inductive NameFault where
  | blank
  | separators (name : String)
  deriving DecidableEq, Repr

/-- The wording of a fault of a name. -/
def NameFault.message : NameFault → String
  | .blank => "Program name must not be empty"
  | .separators name => "Program name `" ++ name ++ "` must not contain path separators"

/-- Why a request makes no sense. -/
inductive UsageFault where
  /-- An entry file was given together with options that take its place. -/
  | mixedModes
  /-- Nothing tells what to compile. -/
  | noConfiguration
  /-- The name of a program was given, but not where its commands are. -/
  | nameAlone
  | badName (fault : NameFault)
  deriving DecidableEq, Repr

/-- The hint for a request that tells too little. -/
def missingConfiguration : String :=
  "No configuration found: pass an entry file or --baseDir <path>."

/-- The wording of a fault of a request. -/
def UsageFault.message : UsageFault → String
  | .mixedModes =>
    "Cannot use flags (--baseDir, --name) when an entry file is provided.\n" ++
      "Please either configure via the entry file OR use flags directly."
  | .noConfiguration => missingConfiguration
  | .nameAlone => "--name requires --baseDir. " ++ missingConfiguration
  | .badName fault => fault.message

/-- Why an entry file gives no configuration. -/
inductive LoadFault where
  | missing
  | unreadable (fault : SystemFault)
  /-- The extension of the file is not one of an entry file. -/
  | unsupported
  /-- The file is no sound TOML document, or holds values of a wrong kind. -/
  | badDocument
  /-- The file is no sound module. -/
  | badModule
  /-- The file does not tell where the commands are. -/
  | noBase
  /-- The property is there, but its value is not written out. -/
  | notLiteral (key : String)
  | badName (fault : NameFault)
  deriving DecidableEq, Repr

/-- The wording of a fault of an entry file. -/
def LoadFault.message : LoadFault → String
  | .missing => "Entry file not found"
  | .unreadable fault => "Cannot read entry file: " ++ fault.message
  | .unsupported => "Unsupported entry file: expected .toml, .ts, .js, .mts or .mjs"
  | .badDocument => "Invalid TOML"
  | .badModule => "Entry file failed to parse"
  | .noBase => "Default export with baseDir is required in the entry file."
  | .notLiteral key => "`" ++ key ++ "` in the entry file must be a string literal."
  | .badName fault => fault.message

/-- Why a directory cannot be searched for modules, or a module not be read. -/
inductive ScanFault where
  /-- The directory to search is none. -/
  | noDirectory
  /-- A directory or a link on the way cannot be followed. -/
  | walk (path : String) (fault : SystemFault)
  /-- A link leads back to a directory it is in. -/
  | cycle (child ancestor : String)
  | unreadable (fault : SystemFault)
  deriving DecidableEq, Repr

/-- The wording of a fault of a search. -/
def ScanFault.message : ScanFault → String
  | .noDirectory => "not a directory"
  | .walk path fault => "IO error for operation on " ++ path ++ ": " ++ fault.message
  | .cycle child ancestor =>
    "File system loop found: " ++ child ++ " points to an ancestor " ++ ancestor
  | .unreadable fault => fault.message

/-- Why a text is no pattern for paths. -/
inductive PatternFault where
  | unclosedClass
  | invalidRange (first last : Char)
  | unopenedAlternates
  | unclosedAlternates
  | danglingEscape
  deriving DecidableEq, Repr

/-- The wording of a fault of a pattern. -/
def PatternFault.message : PatternFault → String
  | .unclosedClass => "unclosed character class; missing ']'"
  | .invalidRange first last =>
    "invalid range; '" ++ first.toString ++ "' > '" ++ last.toString ++ "'"
  | .unopenedAlternates =>
    "unopened alternate group; missing '\x7b' (maybe escape '\x7d' with '[\x7d]'?)"
  | .unclosedAlternates =>
    "unclosed alternate group; missing '\x7d' (maybe escape '\x7b' with '[\x7b]'?)"
  | .danglingEscape => "dangling '\\'"

/-! ## Failures -/

/-- A fault of a source and the number of the line it is in. -/
structure SourceFault where
  line : Nat
  fault : Script.Fault
  deriving DecidableEq, Repr

/-- A failure. -/
inductive Error where
  /-- The request makes no sense. -/
  | usage (fault : UsageFault)
  /-- The entry file gives no configuration. -/
  | load (path : String) (fault : LoadFault)
  /-- The directory of the commands cannot be read. -/
  | scan (path : String) (fault : ScanFault)
  /-- A module is not sound. -/
  | parse (path : String) (faults : List SourceFault)
  /-- The bundler ended without success: with an exit code, or by a signal. -/
  | build (code : Option Int)
  /-- The bundler could not be started. -/
  | spawn (program : String) (fault : SystemFault)
  | write (path : String) (fault : SystemFault)
  /-- The pattern of the files to watch is none. -/
  | pattern (text : String) (fault : PatternFault)
  deriving DecidableEq, Repr

namespace Error

/-- An exit code in words. -/
def exitLabel : Option Int → String
  | some code => toString code
  | none => "signal"

/-- The text for a failure; of a module that is not sound it names no fault. -/
def headline : Error → String
  | .usage fault => fault.message
  | .load path fault => fault.message ++ " (" ++ path ++ ")"
  | .scan path fault => "Cannot read base directory " ++ path ++ ": " ++ fault.message
  | .parse path _ => "Failed to parse " ++ path ++ ":"
  | .build code => "Build failed with code " ++ exitLabel code
  | .spawn program fault => "Failed to run `" ++ program ++ "`: " ++ fault.message
  | .write path fault => "Failed to write " ++ path ++ ": " ++ fault.message
  | .pattern text fault =>
    "Invalid watch pattern `" ++ text ++ "`: error parsing glob '" ++ text ++ "': " ++
      fault.message

/-- The line of the first fault of a module that is not sound. -/
def firstLine? : Error → Option Nat
  | .parse _ faults => faults.head?.map SourceFault.line
  | _ => none

/-- The whole text for a failure: the faults of a module follow in lines of their own. -/
def message (e : Error) : String :=
  match e with
  | .parse _ faults => "\n".intercalate (e.headline :: faults.map fun f => f.fault.message)
  | _ => e.headline

end Error
end CommandGrove
