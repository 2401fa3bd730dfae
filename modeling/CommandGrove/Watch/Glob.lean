import CommandGrove.Error

/-!
# Globs

A glob is a pattern for paths.  It is matched against the bytes of a path, so a character beyond
ASCII counts as several.

## What is here

* `Glob.Token` — the parts of a glob.
* `Glob.rests` — what a glob can leave of an input it has matched the front of; a path matches if
  nothing is left (`Glob.isMatch`).
* `Glob.Reading`, `Glob.readFrom` — reads a pattern from left to right, with the groups that are
  open.
* `Glob.parse` — the glob that a pattern writes, or what is wrong with it.
-/

set_option autoImplicit false
namespace CommandGrove
namespace Glob

/-! ## Globs -/

/-- A part of a glob. -/
inductive Token where
  | literal (c : Char)
  /-- One byte other than a slash. -/
  | any
  /-- Any bytes other than slashes. -/
  | star
  /-- Any directories, or none, at the front. -/
  | leading
  /-- A slash and anything behind it. -/
  | trailing
  /-- A slash, or directories between two slashes. -/
  | between
  /-- One byte that is in one of the ranges, or in none of them. -/
  | choice (negated : Bool) (ranges : List (Char × Char))
  | alternatives (branches : List (List Token))
  deriving Repr

end Glob

/-- A pattern for paths. -/
abbrev Glob : Type := List Glob.Token

namespace Glob

/-! ## Matching -/

/-- The bytes of a character. -/
def bytesOf (c : Char) : List UInt8 := String.utf8EncodeChar c

/-- The byte that stands between the components of a path. -/
def slash : UInt8 := 47

/-- The ranges of bytes that a range of characters means.  Each end is written as its bytes, and
the range goes from the last byte of the first end to the first byte of the last one. -/
def byteRanges (r : Char × Char) : List (UInt8 × UInt8) :=
  let single (b : UInt8) : UInt8 × UInt8 := (b, b)
  if r.1 = r.2 then (bytesOf r.1).map single
  else
    let first := bytesOf r.1
    let last := bytesOf r.2
    first.dropLast.map single ++ [(first.getLast?.getD 0, last.head?.getD 0)] ++
      last.tail.map single

/-- The byte is chosen by these ranges. -/
def chooses (negated : Bool) (ranges : List (Char × Char)) (b : UInt8) : Bool :=
  ((ranges.flatMap byteRanges).any fun r => r.1 ≤ b && b ≤ r.2) != negated

/-- The input without a front, if it begins with it. -/
def after (front input : List UInt8) : List (List UInt8) :=
  if front.isPrefixOf input then [input.drop front.length] else []

/-- What may be left behind a byte of a kind. -/
def afterOne (test : UInt8 → Bool) : List UInt8 → List (List UInt8)
  | [] => []
  | b :: rest => if test b then [rest] else []

/-- What may be left behind any number of bytes of a kind. -/
def afterMany (test : UInt8 → Bool) : List UInt8 → List (List UInt8)
  | [] => [[]]
  | b :: rest => (b :: rest) :: if test b then afterMany test rest else []

/-- What may be left behind some slash of the input. -/
def afterSlash : List UInt8 → List (List UInt8)
  | [] => []
  | b :: rest => (if b == slash then [rest] else []) ++ afterSlash rest

/-- What may be left behind a slash at the front and perhaps directories. -/
def afterBetween : List UInt8 → List (List UInt8)
  | [] => []
  | b :: rest => if b == slash then rest :: afterSlash rest else []

mutual

/-- The part matches nothing but the empty input, whatever it is. -/
def Token.isVoid : Token → Bool
  | .alternatives branches => allVoid branches
  | _ => false

/-- All parts match nothing but the empty input. -/
def isVoid : List Token → Bool
  | [] => true
  | t :: rest => t.isVoid && isVoid rest

/-- All branches match nothing but the empty input. -/
def allVoid : List (List Token) → Bool
  | [] => true
  | branch :: others => isVoid branch && allVoid others

end

mutual

/-- What a part may leave of an input. -/
def Token.rests : Token → List UInt8 → List (List UInt8)
  | .literal c, input => after (bytesOf c) input
  | .any, input => afterOne (· != slash) input
  | .star, input => afterMany (· != slash) input
  | .leading, input => input :: afterSlash input
  | .trailing, input => (afterOne (· == slash) input).flatMap (afterMany fun _ => true)
  | .between, input => afterBetween input
  | .choice negated ranges, input => afterOne (chooses negated ranges) input
  | .alternatives branches, input =>
    if allVoid branches then [input] else branchRests branches input

/-- What a glob may leave of an input. -/
def rests : List Token → List UInt8 → List (List UInt8)
  | [], input => [input]
  | t :: rest, input => ((t.rests input).flatMap (rests rest)).eraseDups

/-- What one of several branches may leave of an input; branches that say nothing do not count. -/
def branchRests : List (List Token) → List UInt8 → List (List UInt8)
  | [], _ => []
  | branch :: others, input =>
    (if isVoid branch then [] else rests branch input) ++ branchRests others input

end

/-- The glob is made of directories alone, so everything matches it. -/
def isTotal : Glob → Bool
  | [.leading] => true
  | _ => false

/-- The path matches the glob. -/
def isMatch (glob : Glob) (path : List Char) : Bool :=
  isTotal glob || (rests glob (path.flatMap bytesOf)).contains []

/-! ## Reading patterns -/

/-- A group of alternatives that is open. -/
structure Group where
  /-- What stands before the group, the last part first. -/
  outside : List Token
  /-- The alternatives that are complete, the last one first. -/
  branches : List (List Token)

/-- What was read of a pattern. -/
structure Reading where
  /-- The groups that are open, the innermost one first. -/
  groups : List Group
  /-- The parts at the end, the last one first. -/
  tokens : List Token
  /-- The last character. -/
  previous : Option Char

namespace Reading

/-- Nothing was read yet. -/
def start : Reading := ⟨[], [], none⟩

/-- Adds a part that ends with a character. -/
def push (r : Reading) (t : Token) (c : Char) : Reading :=
  { r with tokens := t :: r.tokens, previous := some c }

/-- Opens a group. -/
def openGroup (r : Reading) : Reading :=
  { groups := ⟨r.tokens, []⟩ :: r.groups, tokens := [], previous := some (Char.ofNat 123) }

/-- Closes the innermost group, if one is open. -/
def closeGroup (r : Reading) : Except PatternFault Reading :=
  match r.groups with
  | [] => .error .unopenedAlternates
  | g :: rest =>
    let branches := (r.tokens.reverse :: g.branches).reverse
    .ok { groups := rest, tokens := .alternatives branches :: g.outside,
          previous := some (Char.ofNat 125) }

/-- Begins another alternative; outside of groups a comma means itself. -/
def comma (r : Reading) : Reading :=
  match r.groups with
  | [] => r.push (.literal ',') ','
  | g :: rest =>
    { groups := { g with branches := r.tokens.reverse :: g.branches } :: rest, tokens := [],
      previous := some ',' }

/-- Two stars that mean no more than one. -/
def twoStars (r : Reading) : Reading := (r.push .star '*').push .star '*'

/-- The two stars read now begin the component they are in. -/
def atComponent (r : Reading) : Bool :=
  r.previous == some '/' || (!r.groups.isEmpty &&
    (r.previous == some ',' || r.previous == some (Char.ofNat 123)))

/-- The two stars before `next` end an alternative. -/
def endsBranch (r : Reading) (next : Char) : Bool :=
  !r.groups.isEmpty && (next == ',' || next == Char.ofNat 125)

/-- Lets a part for directories take the place of the last part; directories that are there
already stay. -/
def mergeDirectories (r : Reading) (t : Token) (c : Char) : Reading :=
  match r.tokens with
  | .leading :: rest => { r with tokens := .leading :: rest, previous := some c }
  | .trailing :: rest => { r with tokens := .trailing :: rest, previous := some c }
  | _ :: rest => { r with tokens := t :: rest, previous := some c }
  | [] => r.push t c

/-- Adds two stars that are followed by `input`, and tells how many characters of it, a slash or
none, they take with them. -/
def doubleStar (r : Reading) (input : List Char) : Reading × Nat :=
  if r.tokens.isEmpty then
    match input with
    | [] => (r.push .leading '*', 0)
    | '/' :: _ => (r.push .leading '/', 1)
    | _ => (r.twoStars, 0)
  else if r.atComponent then
    match input with
    | [] => (r.mergeDirectories .trailing '*', 0)
    | '/' :: _ => (r.mergeDirectories .between '/', 1)
    | next :: _ =>
      if r.endsBranch next then (r.mergeDirectories .trailing '*', 0)
      else (r.twoStars, 0)
  else (r.twoStars, 0)

end Reading

/-- The ranges of a class as it is read. -/
structure ClassReading where
  /-- The ranges, the last one first. -/
  ranges : List (Char × Char)
  /-- The last character was the hyphen of a range. -/
  inRange : Bool

/-- Adds a character to a class.  A hyphen at the front means itself. -/
def ClassReading.add (r : ClassReading) (first : Bool) (c : Char) :
    Except PatternFault ClassReading :=
  if c == '-' && !first && !r.inRange then .ok { r with inRange := true }
  else
    match r.inRange, r.ranges with
    | true, (low, _) :: rest =>
      if c < low then .error (.invalidRange low c) else .ok ⟨(low, c) :: rest, false⟩
    | _, ranges => .ok ⟨(c, c) :: ranges, false⟩

/-- Reads a class up to its closing bracket: its ranges and the number of characters read.  A
bracket at the front means itself. -/
def readRanges (r : ClassReading) (first : Bool) (used : Nat) :
    List Char → Except PatternFault (List (Char × Char) × Nat)
  | [] => .error .unclosedClass
  | c :: rest =>
    if c == ']' && !first then
      let ranges := if r.inRange then ('-', '-') :: r.ranges else r.ranges
      .ok (ranges.reverse, used + 1)
    else
      match r.add first c with
      | .ok r => readRanges r false (used + 1) rest
      | .error fault => .error fault

/-- Reads a class from behind its opening bracket on. -/
def readClass (input : List Char) : Except PatternFault (Token × Nat) :=
  let negated := input.head? == some '!' || input.head? == some '^'
  let skipped := if negated then 1 else 0
  match readRanges ⟨[], false⟩ true skipped (input.drop skipped) with
  | .ok (ranges, used) => .ok (.choice negated ranges, used)
  | .error fault => .error fault

/-- Reads the rest of a pattern. -/
def readFrom (r : Reading) (input : List Char) : Except PatternFault Reading :=
  match input with
  | [] => .ok r
  | c :: rest =>
    if c == '?' then readFrom (r.push .any c) rest
    else if c == '*' then
      if rest.head? == some '*' then
        let (r, used) := r.doubleStar (rest.drop 1)
        readFrom r (rest.drop (1 + used))
      else readFrom (r.push .star c) rest
    else if c == '[' then
      match readClass rest with
      | .ok (t, used) => readFrom (r.push t ']') (rest.drop used)
      | .error fault => .error fault
    else if c == Char.ofNat 123 then readFrom r.openGroup rest
    else if c == Char.ofNat 125 then
      match r.closeGroup with
      | .ok r => readFrom r rest
      | .error fault => .error fault
    else if c == ',' then readFrom r.comma rest
    else if c == '\\' then
      match rest with
      | [] => .error .danglingEscape
      | escaped :: after => readFrom (r.push (.literal escaped) escaped) after
    else readFrom (r.push (.literal c) c) rest
termination_by input.length
decreasing_by all_goals (simp only [List.length_cons, List.length_drop]; omega)

/-- The glob that a pattern writes. -/
def parse (pattern : List Char) : Except PatternFault Glob :=
  match readFrom .start pattern with
  | .ok r => if r.groups.isEmpty then .ok r.tokens.reverse else .error .unclosedAlternates
  | .error fault => .error fault

end Glob
end CommandGrove
