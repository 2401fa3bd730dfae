import CommandGrove.Interface.OfProgram
import CommandGrove.Script.Source

/-!
# The interface of a module source

## What is here

* `ModuleInterface.ofSource` — the interface of the module whose source a file holds, or the
  failure to read it.
-/

set_option autoImplicit false
namespace CommandGrove

open Script

/-- The interface of the module in the file at `path`. -/
def ModuleInterface.ofSource (path source : String) : Except Error ModuleInterface :=
  match readProgram (.ofPath false path.toList) source.toList with
  | .error faults => .error (.parse path faults)
  | .ok program => .ok (ofProgram source.toList program)

end CommandGrove
