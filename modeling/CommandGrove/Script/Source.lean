import CommandGrove.Error
import CommandGrove.Path
import CommandGrove.Script.Grammar

/-!
# Sources in files

The name of a file tells which kind of source it holds.

## What is here

* `Dialect.ofPath` — the kind of the source in a file, by the extension of its name.
* `readProgram` — reads a source; if it is not sound, its faults are given with their lines.
-/

set_option autoImplicit false
namespace CommandGrove
namespace Script

/-- The extensions of files that hold no modules. -/
def functionExtensions : List String := ["cjs", "cts"]

/-- The extensions of files in which markup elements may stand. -/
def markupExtensions : List String := ["js", "mjs", "cjs", "jsx", "tsx"]

/-- The kind of the source in a file; markup elements are left out of it unless `markup` admits
them. -/
def Dialect.ofPath (markup : Bool) (path : List Char) : Dialect :=
  let extension := String.ofList ((Path.extension? path).getD [])
  { markup := markup && markupExtensions.contains extension
    module := !functionExtensions.contains extension }

/-- A diagnostic with the number of its line. -/
def Diagnostic.locate (source : List Char) (d : Diagnostic) : SourceFault :=
  ⟨lineOf source d.offset, d.fault⟩

/-- Reads a source, or gives the faults in it. -/
def readProgram (d : Dialect) (source : List Char) : Except (List SourceFault) Program :=
  (Program.parse d source).mapError (·.map (Diagnostic.locate source))

end Script
end CommandGrove
