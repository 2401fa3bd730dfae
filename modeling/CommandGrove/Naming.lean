import CommandGrove.Text.Affix
import CommandGrove.Text.Blank
import CommandGrove.Text.Case
import CommandGrove.Text.Pieces

/-!
# Names

The names of files, directories, functions and flags are written in the styles of programs; on a
command line they become tokens in lower case with hyphens.

## What is here

* `Naming.token` — the token for a name: a hyphen goes between a small letter or a digit and the
  capital behind it, and then all is in lower case.
* `Naming.stripExtension`, `Naming.pathTokens` — a module path without its extension, and the
  tokens for its parts.
* `Naming.isCommand` — the token can be a command.
* `Naming.isNegated`, `Naming.optionKey` — how a command line reader sees a flag: whether it
  switches something off, and the key that its value is kept under.
* `Naming.bindingSuffix` — an identifier for a module path.
-/

set_option autoImplicit false
namespace CommandGrove
namespace Naming

open Text

/-! ## Tokens -/

/-- A small letter or a digit of ASCII. -/
def isLowerOrDigit (c : Char) : Bool := c.isLower || c.isDigit

/-- The name with hyphens between words, found from left to right. -/
def hyphenate : List Char → List Char
  | a :: b :: rest =>
    if isLowerOrDigit a && b.isUpper then a :: '-' :: b :: hyphenate rest
    else a :: hyphenate (b :: rest)
  | s => s

/-- The token for a name. -/
def token (name : String) : String := String.ofList (toLower (hyphenate name.toList))

/-- The token can name a command: it has characters, none of them blank, and does not look like
an option. -/
def isCommand (token : String) : Bool :=
  !token.isEmpty && token.toList.head? != some '-' && !token.toList.any isBlank

/-! ## Module paths -/

/-- The extensions of modules. -/
def extensions : List (List Char) := [['t', 's'], ['j', 's']]

/-- The stem of a module that stands for its directory. -/
def indexStem : String := "index"

/-- The stem before an extension; a path has one if it does not end in a slash or with nothing. -/
def stemBefore? (extension path : List Char) : Option (List Char) :=
  ((stripSuffix? extension path).bind (stripSuffix? ['.'])).filter fun stem =>
    !stem.isEmpty && stem.getLast? != some '/'

/-- The path without the extension of a module, if it has one. -/
def stripExtension (path : String) : String :=
  match extensions.findSome? fun e => stemBefore? e path.toList with
  | some stem => String.ofList stem
  | none => path

/-- The pieces of a path between slashes. -/
def pieces (path : String) : List String := (splitOn '/' path.toList).map String.ofList

/-- The last element of a list is left out if it is this one. -/
def dropFinal (last : String) (parts : List String) : List String :=
  if parts.getLast? == some last then parts.dropLast else parts

/-- The tokens for a module path: one for each directory and one for the stem, unless the module
stands for its directory. -/
def pathTokens (path : String) : List String :=
  (dropFinal indexStem ((pieces (stripExtension path)).filter fun s => !s.isEmpty)).map token

/-! ## Flags -/

/-- What a flag of this token switches off, if it switches something off. -/
def negated? (flag : String) : Option (List Char) :=
  (stripPrefix? ['n', 'o', '-'] flag.toList).filter fun rest => !rest.isEmpty

/-- The flag switches something off. -/
def isNegated (flag : String) : Bool := (negated? flag).isSome

/-- A part of a name with its first character in upper case. -/
def capitalize : List Char → List Char
  | [] => []
  | c :: rest => upperChar c ++ rest

/-- The key that the value of a flag is kept under: its token without hyphens, with capitals in
their place. -/
def optionKey (flag : String) : String :=
  match splitOn '-' ((negated? flag).getD flag.toList) with
  | [] => ""
  | first :: others => String.ofList (first ++ (others.map capitalize).flatten)

/-! ## Identifiers -/

/-- The character is a letter or a digit of ASCII. -/
def isPlain (c : Char) : Bool := c.isAlphanum

/-- What the characters of a word were so far. -/
inductive WordMode where
  | boundary | lower | upper
  deriving DecidableEq, Repr

/-- What the characters of a word were, one more of them read. -/
def WordMode.after (mode : WordMode) (c : Char) : WordMode :=
  if c.isLower then .lower else if c.isUpper then .upper else mode

/-- Divides a piece into words where a capital follows a small letter and before the last of
several capitals that a small letter follows; `word` holds the word begun, in reverse. -/
def splitWords (mode : WordMode) (word : List Char) : List Char → List (List Char)
  | [] => []
  | [c] => [(c :: word).reverse]
  | c :: next :: rest =>
    if mode.after c == .lower && next.isUpper then
      (c :: word).reverse :: splitWords .boundary [] (next :: rest)
    else if mode == .upper && c.isUpper && next.isLower then
      word.reverse :: splitWords .boundary [c] (next :: rest)
    else splitWords (mode.after c) (c :: word) (next :: rest)

/-- A word with a capital at its front and small letters behind. -/
def titled : List Char → List Char
  | [] => []
  | c :: rest => c.toUpper :: rest.map Char.toLower

/-- An identifier for a module path: its words one after the other, each with a capital. -/
def bindingSuffix (path : String) : String :=
  let cleaned := (stripExtension path).toList.map fun c => if isPlain c then c else '_'
  let words := (splitOn '_' cleaned).flatMap (splitWords .boundary [])
  let camel := (words.map titled).flatten
  if camel.isEmpty then "Module" else String.ofList camel

end Naming
end CommandGrove
