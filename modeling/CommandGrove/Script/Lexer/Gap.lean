import CommandGrove.Script.Token

/-!
# The gap before a token

White space, line breaks and comments between two tokens.

## What is here

* `isLineBreak`, `isSpace` — the characters that end a line and the ones that only separate.
* `Gap` — what lies between two tokens: the comments, whether a line ends, and where the next
  token begins.
* `skipGap` — reads the gap at the front of an input, one character at a time.
-/

set_option autoImplicit false
namespace CommandGrove
namespace Script

/-- The character ends a line. -/
def isLineBreak (c : Char) : Bool :=
  c == '\n' || c == '\r' || c.toNat == 0x2028 || c.toNat == 0x2029

/-- The character separates tokens within a line. -/
def isSpace (c : Char) : Bool :=
  let n := c.toNat
  n == 0x20 || n == 9 || n == 11 || n == 12 || n == 0x85 || n == 0xA0 || n == 0x1680 ||
    n == 0x180E || (0x2000 ≤ n && n ≤ 0x200B) || n == 0x202F || n == 0x205F || n == 0x3000 ||
    n == 0xFEFF

/-- What lies between two tokens. -/
structure Gap where
  /-- The source from the next token on. -/
  input : List Char
  /-- The offset of the next token. -/
  offset : Nat
  /-- A line ends in the gap. -/
  fresh : Bool
  /-- The comments of the gap, the last one first. -/
  comments : List Comment
  /-- Where a block comment begins that never ends. -/
  unterminated : Option Nat

/-- Where a reader of a gap stands. -/
inductive GapPlace where
  /-- Between comments. -/
  | open
  /-- In a comment that ends with its line and began at `start`. -/
  | inLine (start : Nat)
  /-- In a comment that ends with `*/` and began at `start`. -/
  | inBlock (start : Nat)

/-- Reads a gap from `place` on; `fresh` and `comments` hold what was met before. -/
def skipGapFrom (place : GapPlace) (offset : Nat) (fresh : Bool) (comments : List Comment)
    (input : List Char) : Gap :=
  match place, input with
  | .open, '/' :: '/' :: rest => skipGapFrom (.inLine offset) (offset + 2) fresh comments rest
  | .open, '/' :: '*' :: rest => skipGapFrom (.inBlock offset) (offset + 2) fresh comments rest
  | .open, c :: rest =>
    if isLineBreak c then skipGapFrom .open (offset + 1) true comments rest
    else if isSpace c then skipGapFrom .open (offset + 1) fresh comments rest
    else ⟨c :: rest, offset, fresh, comments, none⟩
  | .open, [] => ⟨[], offset, fresh, comments, none⟩
  | .inLine start, c :: rest =>
    if isLineBreak c then
      skipGapFrom .open (offset + 1) true (⟨start, offset, .line⟩ :: comments) rest
    else skipGapFrom (.inLine start) (offset + 1) fresh comments rest
  | .inLine start, [] => ⟨[], offset, fresh, ⟨start, offset, .line⟩ :: comments, none⟩
  | .inBlock start, '*' :: '/' :: rest =>
    skipGapFrom .open (offset + 2) fresh (⟨start, offset + 2, .block⟩ :: comments) rest
  | .inBlock start, c :: rest =>
    skipGapFrom (.inBlock start) (offset + 1) (fresh || isLineBreak c) comments rest
  | .inBlock start, [] => ⟨[], offset, fresh, comments, some start⟩

/-- The gap at the front of an input that begins at `offset`. -/
def skipGap (offset : Nat) (input : List Char) : Gap := skipGapFrom .open offset false [] input

end Script
end CommandGrove
