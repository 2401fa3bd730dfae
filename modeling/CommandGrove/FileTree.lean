import CommandGrove.Error
import CommandGrove.FileName
import CommandGrove.Path

/-!
# File trees

The files, directories and links that a run can see, as a value.  Following a path from the root
leads to a location, the names of the directories on the way without any link in it.  Names can be
any bytes, so names and paths are kept as `CommandGrove.FileName` says.

## What is here

* `Content`, `Item`, `Location`, `FileTree` — what is stored where.
* `FileTree.walk`, `FileTree.resolve` — the location that a path leads to.
* `FileTree.isFile`, `FileTree.isDirectory`, `FileTree.read`, `FileTree.readText` — questions about
  paths.
* `FileTree.write`, `FileTree.createFile`, `FileTree.remove`, `FileTree.removeFile`,
  `FileTree.move`, `FileTree.makeDirectories`, `FileTree.makeLink` — changes.
* `FileTree.listing` — all paths below a location.
-/

set_option autoImplicit false
namespace CommandGrove

/-! ## What is stored -/

/-- What a file holds. -/
inductive Content where
  | text (text : String)
  /-- Bytes that are no text. -/
  | binary (bytes : List UInt8)
  deriving DecidableEq, Repr

/-- What a name in a directory stands for. -/
inductive Item where
  | file (content : Content)
  | directory
  /-- A link to a path, seen from the directory it is in. -/
  | link (target : List Char)
  deriving DecidableEq, Repr

/-- The names on the way from the root to an item.  Each is kept as `FileName.ofBytes` gives it: a
name that is a text as this text, and any other name so that its bytes can be told again. -/
abbrev Location : Type := List (List Char)

/-- The items below the root. -/
structure FileTree where
  items : List (Location × Item)
  deriving DecidableEq, Repr

namespace FileTree

/-- Nothing but the root. -/
def empty : FileTree := ⟨[]⟩

/-- The item at a location; at the root there is a directory. -/
def item? (t : FileTree) (place : Location) : Option Item :=
  if place = [] then some .directory else (t.items.find? fun i => i.1 == place).map (·.2)

/-- Puts an item at a location, in the place of what was there. -/
def put (t : FileTree) (place : Location) (item : Item) : FileTree :=
  ⟨(place, item) :: t.items.filter fun i => i.1 != place⟩

/-- Takes away what is at a location or below it. -/
def drop (t : FileTree) (place : Location) : FileTree :=
  ⟨t.items.filter fun i => !place.isPrefixOf i.1⟩

/-- The names in a directory and what they stand for. -/
def children (t : FileTree) (place : Location) : List (List Char × Item) :=
  t.items.filterMap fun (l, item) =>
    match l.getLast? with
    | some name => if l.dropLast = place then some (name, item) else none
    | none => none

/-! ## Following paths -/

/-- What is done with the last name of a path. -/
inductive Ending where
  /-- It is there, and if it is a link the link is followed. -/
  | follow
  /-- It is there, and if it is a link the link itself is meant. -/
  | keep
  /-- It need not be there. -/
  | create
  deriving DecidableEq, Repr

/-- The name has more bytes than a name can have. -/
def isTooLong (name : List Char) : Bool := 255 < (FileName.bytes name).length

/-- The number of links that can be followed on one way. -/
def linkLimit : Nat := 40

/-- Follows the pieces of a path from a location on; `links` more links can be followed. -/
def walk (t : FileTree) (ending : Ending) (links : Nat) (place : Location)
    (pieces : List (List Char)) : Except SystemFault Location :=
  match pieces with
  | [] => .ok place
  | piece :: rest =>
    if t.item? place ≠ some .directory then .error .notDirectory
    else if piece = [] ∨ piece = ['.'] then t.walk ending links place rest
    else if piece = ['.', '.'] then t.walk ending links place.dropLast rest
    else if isTooLong piece then .error .nameTooLong
    else
      match t.item? (place ++ [piece]) with
      | none =>
        if ending = .create ∧ rest = [] then .ok (place ++ [piece]) else .error .notFound
      | some (.link target) =>
        if ending = .keep ∧ rest = [] then .ok (place ++ [piece])
        else
          match links with
          | 0 => .error .tooManyLinks
          | links + 1 =>
            t.walk ending links (if Path.isAbsolute target then [] else place)
              (Path.split target ++ rest)
      | some _ => t.walk ending links (place ++ [piece]) rest
termination_by (links, pieces.length)

/-- The location that a path leads to from the root. -/
def resolve (t : FileTree) (ending : Ending) (path : List Char) : Except SystemFault Location :=
  if path.isEmpty then .error .notFound else t.walk ending linkLimit [] (Path.split path)

/-- The path of a location. -/
def pathOf (place : Location) : List Char := '/' :: Path.unsplit place

/-! ## Questions -/

/-- What is at the end of a path. -/
def itemAt (t : FileTree) (path : List Char) : Option Item :=
  ((t.resolve .follow path).toOption).bind t.item?

/-- The path leads to a file. -/
def isFile (t : FileTree) (path : List Char) : Bool :=
  match t.itemAt path with
  | some (.file _) => true
  | _ => false

/-- The path leads to a directory. -/
def isDirectory (t : FileTree) (path : List Char) : Bool := t.itemAt path == some .directory

/-- The content of the file that a path leads to. -/
def read (t : FileTree) (path : List Char) : Except SystemFault Content :=
  match t.resolve .follow path with
  | .error fault => .error fault
  | .ok place =>
    match t.item? place with
    | some (.file content) => .ok content
    | some .directory => .error .isDirectory
    | some (.link _) | none => .error .notFound

/-- The text of the file that a path leads to. -/
def readText (t : FileTree) (path : List Char) : Except SystemFault String :=
  match t.read path with
  | .error fault => .error fault
  | .ok (.text text) => .ok text
  | .ok (.binary _) => .error .notText

/-- The paths lead to the same location, or are equal if one of them leads nowhere. -/
def sameFile (t : FileTree) (a b : List Char) : Bool :=
  match t.resolve .follow a, t.resolve .follow b with
  | .ok a, .ok b => a == b
  | _, _ => Path.same a b

/-! ## Changes -/

/-- The pieces of a path without the empty ones at its end. -/
def withoutSlashes (pieces : List (List Char)) : List (List Char) :=
  (pieces.reverse.dropWhile List.isEmpty).reverse

/-- Writes a file: it is made if it is not there.  A path that ends in a slash means a directory,
which cannot be written. -/
def write (t : FileTree) (path : List Char) (content : Content) : Except SystemFault FileTree :=
  match t.resolve .create (Path.unsplit (withoutSlashes (Path.split path))) with
  | .error fault => .error fault
  | .ok place =>
    if path.getLast? = some '/' ∨ t.item? place = some .directory then .error .isDirectory
    else .ok (t.put place (.file content))

/-- Takes away what a path leads to, with all that is below it; a link is taken away itself. -/
def remove (t : FileTree) (path : List Char) : Except SystemFault FileTree :=
  match t.resolve .keep path with
  | .ok place => .ok (t.drop place)
  | .error fault => .error fault

/-- Takes a file or a link away that a path leads to; a link is taken away itself. -/
def removeFile (t : FileTree) (path : List Char) : Except SystemFault FileTree :=
  match t.resolve .keep path with
  | .error fault => .error fault
  | .ok place => if t.item? place = some .directory then .error .isDirectory else .ok (t.drop place)

/-- Writes a new file: nothing may be at its path. -/
def createFile (t : FileTree) (path : List Char) (content : Content) :
    Except SystemFault FileTree :=
  match t.resolve .keep path with
  | .ok _ => .error .exists
  | .error .notFound => t.write path content
  | .error fault => .error fault

/-- Gives another place to an item and to all that is below it. -/
def move (t : FileTree) (source target : Location) : FileTree :=
  let moved := t.items.filterMap fun i =>
    if source.isPrefixOf i.1 then some (target ++ i.1.drop source.length, i.2) else none
  ⟨moved ++ ((t.drop source).drop target).items⟩

/-- Makes one directory, unless it is there. -/
def makeDirectory (t : FileTree) (pieces : List (List Char)) : Except SystemFault FileTree :=
  match t.walk .create linkLimit [] pieces with
  | .error fault => .error fault
  | .ok place =>
    match t.item? place with
    | none => .ok (t.put place .directory)
    | some .directory => .ok t
    | some _ => .error .exists

/-- Makes a directory and all the directories above it. -/
def makeDirectories (t : FileTree) (path : List Char) : Except SystemFault FileTree :=
  let pieces := Path.split path
  (List.range (pieces.length + 1)).foldlM (fun t n => t.makeDirectory (pieces.take n)) t

/-- Makes a link, where nothing is yet. -/
def makeLink (t : FileTree) (path target : List Char) : Except SystemFault FileTree :=
  match t.resolve .keep path with
  | .ok _ => .error .exists
  | .error .notFound =>
    match t.resolve .create path with
    | .ok place => .ok (t.put place (.link target))
    | .error fault => .error fault
  | .error fault => .error fault

/-! ## Listing -/

/-- Names come in the order of their characters. -/
def nameLE (a b : List Char × Item) : Bool := decide (String.ofList a.1 ≤ String.ofList b.1)

/-- The paths below a location, each directory before what it holds and with a slash at its end;
links are not followed. -/
def listingTo (t : FileTree) : Nat → Location → List Char → List (List Char)
  | 0, _, _ => []
  | depth + 1, place, path =>
    ((t.children place).mergeSort nameLE).flatMap fun (name, item) =>
      match item with
      | .directory =>
        (path ++ name ++ ['/']) :: t.listingTo depth (place ++ [name]) (path ++ name ++ ['/'])
      | _ => [path ++ name]

/-- The paths below a location. -/
def listing (t : FileTree) (place : Location) : List (List Char) :=
  t.listingTo (t.items.length + 1) place []

end FileTree
end CommandGrove
