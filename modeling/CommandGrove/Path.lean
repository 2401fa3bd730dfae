import CommandGrove.Text.Pieces

/-!
# Paths

A path is a text; what it names is told by its components.  Repeated slashes and inner `.` mean
nothing, while a `.` at the front of a relative path and `..` are components.

## What is here

* `Path.split`, `Path.components` — the pieces between slashes, and the components they write.
* `Path.join`, `Path.isAbsolute` — a path below another one.
* `Path.fileName?`, `Path.extension?`, `Path.parent?` — the last component, what follows its last
  dot, and the path without it.
* `Path.below?` — the part of a path below a root.
* `Path.same` — equality of the components.
-/

set_option autoImplicit false
namespace CommandGrove

/-- A component of a path. -/
inductive Component where
  /-- The root of an absolute path. -/
  | root
  /-- `.` at the front of a relative path. -/
  | here
  /-- `..`. -/
  | up
  | name (text : List Char)
  deriving DecidableEq, Repr

namespace Path

/-! ## Components -/

/-- The pieces of a text between slashes; there is always one. -/
def split (path : List Char) : List (List Char) := Text.splitOn '/' path

/-- The path begins at the root. -/
def isAbsolute (path : List Char) : Bool := path.head? == some '/'

/-- The component that a piece writes behind the front of a path, if it writes one. -/
def component? (piece : List Char) : Option Component :=
  if piece.isEmpty || piece == ['.'] then none
  else if piece == ['.', '.'] then some .up
  else some (.name piece)

/-- The component at the front of a path: the root, or a `.`. -/
def frontComponent (path : List Char) : List Component :=
  if isAbsolute path then [.root]
  else if (split path).head? == some ['.'] then [.here]
  else []

/-- The components of a path. -/
def components (path : List Char) : List Component :=
  frontComponent path ++ (split path).filterMap component?

/-- The paths have the same components. -/
def same (a b : List Char) : Bool := components a == components b

/-! ## Joining -/

/-- `path` as seen from `base`. -/
def join (base path : List Char) : List Char :=
  if isAbsolute path then path
  else if base.isEmpty || base.getLast? == some '/' then base ++ path
  else base ++ '/' :: path

/-! ## The last component -/

/-- The last component, if it is a name. -/
def fileName? (path : List Char) : Option (List Char) :=
  match (components path).getLast? with
  | some (.name text) => some text
  | _ => none

/-- The name up to its last dot and what follows the dot; a dot at the front does not count. -/
def splitExtension (name : List Char) : List Char × Option (List Char) :=
  let extension := (name.reverse.takeWhile (· != '.')).reverse
  let stem := name.take (name.length - extension.length - 1)
  if extension.length == name.length || stem.isEmpty then (name, none) else (stem, some extension)

/-- What follows the last dot of the last component. -/
def extension? (path : List Char) : Option (List Char) :=
  (fileName? path).bind fun name => (splitExtension name).2

/-! ## Parts of a path as texts -/

/-- The pieces with slashes between them. -/
def unsplit (pieces : List (List Char)) : List Char := Text.joinWith ['/'] pieces

/-- The piece writes no component. -/
def isVoid (piece : List Char) : Bool := (component? piece).isNone

/-- The pieces without the ones at the end that write no component. -/
def trimPieces (pieces : List (List Char)) : List (List Char) :=
  (pieces.reverse.dropWhile isVoid).reverse

/-- A path without its pieces at the end that write no component. -/
def trimmed (path : List Char) : List Char :=
  if isAbsolute path then
    let pieces := trimPieces (split path).tail
    '/' :: unsplit pieces
  else
    match split path with
    | ['.'] :: rest => unsplit (['.'] :: trimPieces rest)
    | pieces => unsplit (trimPieces pieces)

/-- The path without its last component; there is none above the root and above nothing. -/
def parent? (path : List Char) : Option (List Char) :=
  let behind (pieces : List (List Char)) : List (List Char) :=
    trimPieces (trimPieces pieces).dropLast
  if isAbsolute path then
    let pieces := (split path).tail
    if (trimPieces pieces).isEmpty then none else some ('/' :: unsplit (behind pieces))
  else
    match split path with
    | ['.'] :: rest =>
      if (trimPieces rest).isEmpty then some [] else some (unsplit (['.'] :: behind rest))
    | pieces => if (trimPieces pieces).isEmpty then none else some (unsplit (behind pieces))

/-! ## Below a root -/

/-- Drops the pieces that write these components from the front; what is left begins with a piece
that writes one. -/
def dropComponents : List Component → List (List Char) → Option (List (List Char))
  | wanted, [] => if wanted.isEmpty then some [] else none
  | wanted, piece :: rest =>
    match component? piece, wanted with
    | none, _ => dropComponents wanted rest
    | some _, [] => some (piece :: rest)
    | some c, w :: ws => if c = w then dropComponents ws rest else none

/-- The part of `path` below `root`, if the components of `root` are the first ones of `path`. -/
def below? (root path : List Char) : Option (List Char) :=
  match components root with
  | [] => some (trimmed path)
  | first :: others =>
    let joined (pieces : List (List Char)) : List Char := unsplit (trimPieces pieces)
    match first, frontComponent path with
    | .root, [.root] => (dropComponents others (split path).tail).map joined
    | .here, [.here] => (dropComponents others (split path).tail).map joined
    | .root, _ | .here, _ | _, .root :: _ | _, .here :: _ => none
    | _, _ => (dropComponents (first :: others) (split path)).map joined

end Path
end CommandGrove
