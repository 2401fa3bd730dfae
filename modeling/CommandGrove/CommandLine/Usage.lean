import CommandGrove.CommandLine

/-!
# Explaining command lines

## What is here

* `usage` — the lines that explain what can be asked for.
* `CommandLine.Fault.text` — what is shown in the place of a result.
-/

set_option autoImplicit false
namespace CommandGrove

/-- The name of the tool. -/
def toolName : String := "fli"

/-- The version of the tool. -/
def toolVersion : String := "0.3.0"

/-- What can be asked for. -/
def usage : String :=
  "Usage: " ++ toolName ++ " [OPTIONS] <COMMAND>\n\n" ++
  "Commands:\n" ++
  "  build [ENTRY]         Build a standalone executable from a directory of command modules\n" ++
  "  watch <GLOB> [ENTRY]  Build once, then rebuild whenever files matching <GLOB> change\n" ++
  "  generate [ENTRY]      Print the generated entry unit without compiling it\n" ++
  "  help                  Print this message\n\n" ++
  "Options:\n" ++
  "      --bun <BUN>              Bundler executable\n" ++
  "      --log-level <LOG_LEVEL>  Log level\n" ++
  "      --baseDir <PATH>         Directory containing the command modules\n" ++
  "      --name <NAME>            Name of the generated executable\n" ++
  "  -o, --out <FILE>             Write to a file instead of stdout\n" ++
  "      --json                   Emit the program description and module metadata as JSON\n" ++
  "  -h, --help                   Print help\n" ++
  "  -V, --version                Print version\n"

namespace CommandLine.Fault

/-- The fault in words. -/
def message : Fault → String
  | .unknownArgument => "unexpected argument found"
  | .invalidValue => "a value is required but none was supplied"
  | .missingArgument => "a required argument was not provided"
  | .unknownVerb => "unrecognized subcommand"
  | .repeated => "an argument cannot be used multiple times"
  | .tooManyValues => "an unexpected value was supplied to a flag"
  | .help | .version => ""
  | .nothingGiven | .missingVerb => "a subcommand is required but was not provided"

/-- What is shown in the place of a result. -/
def text (fault : Fault) : String :=
  match fault with
  | .version => toolName ++ " " ++ toolVersion ++ "\n"
  | .help | .nothingGiven => usage
  | fault => "error: " ++ fault.message ++ "\n\n" ++ usage

end CommandLine.Fault
end CommandGrove
