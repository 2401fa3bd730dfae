import CommandGrove.Toml.Quoted
import CommandGrove.Toml.Scalar
import CommandGrove.Toml.Table

/-!
# TOML documents

## What is here

* `readKey`, `readValue` — the parts of a line.
* `Reader` — the table that was read so far and the header that is open.
* `readLine`, `readLines` — read a document line by line.
* `Table.ofDocument` — the table that a document writes, if it is sound.
-/

set_option autoImplicit false
namespace CommandGrove
namespace Toml

/-! ## Blanks, comments and the ends of lines -/

/-- Without the blanks at its front. -/
def dropBlanks (s : List Char) : List Char := s.dropWhile fun c => c == ' ' || c == '\t'

/-- Without a line break at its front, if there is one. -/
def readBreak : List Char → Option (List Char)
  | '\n' :: rest => some rest
  | '\r' :: '\n' :: rest => some rest
  | _ => none

/-- Without the comment at its front, if there is one. -/
def dropComment (s : List Char) : List Char :=
  if s.head? == some '#' then s.dropWhile isText else s

/-- Reads up to the end of a line on which nothing but a comment may stand. -/
def readLineEnd (s : List Char) : Option (List Char) :=
  match dropComment (dropBlanks s) with
  | [] => some []
  | s => readBreak s

/-- Passes over blanks, line breaks and comments, at most `fuel` lines of them. -/
def dropGaps : Nat → List Char → List Char
  | 0, s => s
  | fuel + 1, s =>
    let s := dropComment (dropBlanks s)
    match readBreak s with
    | some rest => dropGaps fuel rest
    | none => s

/-- Passes over blanks, line breaks and comments. -/
def dropGap (s : List Char) : List Char := dropGaps s.length s

/-! ## Keys -/

/-- The character may stand in a key without quotes. -/
def isKeyChar (c : Char) : Bool := c.isAlphanum || c == '_' || c == '-'

/-- Reads a part of a key. -/
def readKeyPart (s : List Char) : Option (String × List Char) :=
  match s with
  | '"' :: rest => (readBasic rest).map fun (text, more) => (String.ofList text, more)
  | '\'' :: rest => (readLiteral rest).map fun (text, more) => (String.ofList text, more)
  | _ =>
    let text := s.takeWhile isKeyChar
    if text.isEmpty then none else some (String.ofList text, s.drop text.length)

/-- Reads a key of at most `fuel` parts, up to what is behind the blanks that follow it. -/
def readKeyParts : Nat → List Char → Option (List String × List Char)
  | 0, _ => none
  | fuel + 1, s =>
    match readKeyPart (dropBlanks s) with
    | none => none
    | some (part, rest) =>
      match dropBlanks rest with
      | '.' :: more => (readKeyParts fuel more).map fun (parts, more) => (part :: parts, more)
      | more => some ([part], more)

/-- Reads a key. -/
def readKey (s : List Char) : Option (List String × List Char) := readKeyParts (s.length + 1) s

/-! ## Values -/

/-- The character ends a value without quotes or brackets. -/
def endsScalar (c : Char) : Bool :=
  c == ' ' || c == '\t' || c == ',' || c == ']' || c == Char.ofNat 125 || c == '#' || c == '\n' ||
    c == '\r'

/-- Reads a value without quotes or brackets.  A blank may stand between a day and a time. -/
def readScalar (s : List Char) : Option (Value × List Char) :=
  let text := s.takeWhile fun c => !endsScalar c
  let rest := s.drop text.length
  let (text, rest) :=
    match isDate text, rest with
    | true, ' ' :: d :: more =>
      if d.isDigit then
        let time := (d :: more).takeWhile fun c => !endsScalar c
        (text ++ ' ' :: time, (d :: more).drop time.length)
      else (text, rest)
    | _, _ => (text, rest)
  if isScalar text then some (.scalar, rest) else none

/-- The number of brackets and braces that may stand in each other. -/
def depthLimit : Nat := 80

mutual

/-- Reads a value; `depth` more brackets may be opened in it. -/
def readValue : Nat → Nat → List Char → Option (Value × List Char)
  | 0, _, _ => none
  | fuel + 1, depth, s =>
    match s with
    | '"' :: '"' :: '"' :: rest =>
      (readLongBasic rest).map fun (text, more) => (.string (String.ofList text), more)
    | '\'' :: '\'' :: '\'' :: rest =>
      (readLongLiteral rest).map fun (text, more) => (.string (String.ofList text), more)
    | '"' :: rest => (readBasic rest).map fun (text, more) => (.string (String.ofList text), more)
    | '\'' :: rest =>
      (readLiteral rest).map fun (text, more) => (.string (String.ofList text), more)
    | c :: rest =>
      if c == '[' then
        if depth == 0 then none
        else
          match readElements fuel (depth - 1) (dropGap rest) with
          | some (elements, more) => some (.array elements, more)
          | none => none
      else if c == Char.ofNat 123 then
        if depth == 0 then none
        else
          match readMembers fuel (depth - 1) (.new .header) (dropGap rest) with
          | some (t, more) => some (.table .braces t.entries, more)
          | none => none
      else readScalar s
    | [] => none

/-- Reads the elements of an array up to its closing bracket. -/
def readElements : Nat → Nat → List Char → Option (List Value × List Char)
  | 0, _, _ => none
  | fuel + 1, depth, s =>
    if s.head? == some ']' then some ([], s.tail)
    else
      match readValue fuel depth s with
      | none => none
      | some (v, rest) =>
        match dropGap rest with
        | ']' :: more => some ([v], more)
        | ',' :: more =>
          match readElements fuel depth (dropGap more) with
          | some (others, more) => some (v :: others, more)
          | none => none
        | _ => none

/-- Reads the pairs in braces up to the closing one. -/
def readMembers : Nat → Nat → Table → List Char → Option (Table × List Char)
  | 0, _, _, _ => none
  | fuel + 1, depth, t, s =>
    if s.head? == some (Char.ofNat 125) then some (t, s.tail)
    else
      match readPair fuel depth t s with
      | none => none
      | some (t, rest) =>
        match dropGap rest with
        | [] => none
        | c :: more =>
          if c == Char.ofNat 125 then some (t, more)
          else if c == ',' then readMembers fuel depth t (dropGap more)
          else none

/-- Reads a key and its value and puts them into a table. -/
def readPair : Nat → Nat → Table → List Char → Option (Table × List Char)
  | 0, _, _, _ => none
  | fuel + 1, depth, t, s =>
    match readKey s with
    | some (path, '=' :: rest) =>
      match readValue fuel depth (dropBlanks rest) with
      | some (v, more) => (t.assign path v).map fun t => (t, more)
      | none => none
    | _ => none

end

/-! ## Lines -/

/-- What was read of a document: its table, and the path of the header that is open. -/
structure Reader where
  table : Table
  path : List String

/-- Nothing was read. -/
def Reader.start : Reader := ⟨.new .header, []⟩

/-- Puts a pair into the table of the open header. -/
def Reader.assign (r : Reader) (path : List String) (v : Value) : Option Reader :=
  (r.table.descend false (fun t => t.assign path v) r.path).map fun t => { r with table := t }

/-- Reads the header of a table from behind its bracket on. -/
def readHeader (r : Reader) (s : List Char) : Option (Reader × List Char) := do
  let (path, rest) ← readKey s
  let ']' :: rest := rest | none
  let rest ← readLineEnd rest
  let t ← r.table.openHeader path
  return (⟨t, path⟩, rest)

/-- Reads the header of a table in an array from behind its brackets on. -/
def readElementHeader (r : Reader) (s : List Char) : Option (Reader × List Char) := do
  let (path, rest) ← readKey s
  let ']' :: ']' :: rest := rest | none
  let rest ← readLineEnd rest
  let t ← r.table.openElement path
  return (⟨t, path⟩, rest)

/-- Reads a line with a key and a value. -/
def readAssignment (r : Reader) (s : List Char) : Option (Reader × List Char) := do
  let (path, rest) ← readKey s
  let '=' :: rest := rest | none
  let (v, rest) ← readValue (3 * s.length + 3) depthLimit (dropBlanks rest)
  let rest ← readLineEnd rest
  let r ← r.assign path v
  return (r, rest)

/-- Reads a line, or several of them if a value goes on. -/
def readLine (r : Reader) (s : List Char) : Option (Reader × List Char) :=
  match dropBlanks s with
  | '[' :: '[' :: rest => readElementHeader r rest
  | '[' :: rest => readHeader r rest
  | s =>
    match readLineEnd s with
    | some rest => some (r, rest)
    | none => readAssignment r s

/-- Reads at most `fuel` lines. -/
def readLines : Nat → Reader → List Char → Option Reader
  | _, r, [] => some r
  | 0, _, _ => none
  | fuel + 1, r, s => (readLine r s).bind fun (r, rest) => readLines fuel r rest

/-- The mark that a document may begin with. -/
def byteOrderMark : Char := Char.ofNat 0xFEFF

/-- The table that a document writes, if it is sound. -/
def Table.ofDocument (text : List Char) : Option Table :=
  let text := if text.head? == some byteOrderMark then text.tail else text
  (readLines (text.length + 1) .start text).map Reader.table

end Toml
end CommandGrove
