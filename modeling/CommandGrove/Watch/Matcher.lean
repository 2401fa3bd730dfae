import CommandGrove.Path
import CommandGrove.Watch.Glob

/-!
# Which changes count

A change counts if the part of its path below the watched directory matches a glob and nothing on
the way is hidden.

## What is here

* `Matcher`, `Matcher.ofPattern` — a glob with the roots it is relative to.
* `Matcher.relative` — the part of a path that is looked at.
* `Matcher.accepts` — the change of a path counts.
* `Matcher.filter` — the changes of a batch that count, each path once.
-/

set_option autoImplicit false
namespace CommandGrove

/-- A glob with the roots it is relative to. -/
structure Matcher where
  glob : Glob
  roots : List (List Char)

namespace Matcher

/-- The matcher for a pattern. -/
def ofPattern (pattern : String) (roots : List (List Char)) : Except Error Matcher :=
  match Glob.parse pattern.toList with
  | .ok glob => .ok ⟨glob, roots⟩
  | .error fault => .error (.pattern pattern fault)

/-- The part of a path below the first root that it is below, or all of it. -/
def relative (m : Matcher) (path : List Char) : List Char :=
  (m.roots.findSome? fun root => Path.below? root path).getD path

/-- A component that begins with a dot. -/
def isHidden : Component → Bool
  | .root => false
  | .here | .up => true
  | .name text => text.head? == some '.'

/-- The change of a path counts. -/
def accepts (m : Matcher) (path : List Char) : Bool :=
  let relative := m.relative path
  !(Path.components relative).any isHidden && Glob.isMatch m.glob relative

/-- Adds a path to those that count, unless it does not or is there already. -/
def keep (m : Matcher) (seen : List (List Char)) (path : List Char) : List (List Char) :=
  if m.accepts path && !seen.any (Path.same · path) then seen ++ [path] else seen

/-- The paths that count, each one once, in the order in which they come first. -/
def filter (m : Matcher) (paths : List (List Char)) : List (List Char) := paths.foldl m.keep []

end Matcher
end CommandGrove
