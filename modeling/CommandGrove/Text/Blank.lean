/-!
# White space and lines

The Unicode property `White_Space`, trimming by it, and the division of a text into lines.

## What is here

* `isBlank c` — the character has the property `White_Space`.
* `trimStart`, `trimEnd`, `trim` — a text without its blank ends.
* `lines s` — the lines of a text: each line feed ends one, together with a carriage return that
  stands right before it, and an empty rest after the last line feed is no line.
-/

set_option autoImplicit false
namespace CommandGrove
namespace Text

/-! ## Blank characters -/

/-- The character has the Unicode property `White_Space`. -/
def isBlank (c : Char) : Bool :=
  let n := c.toNat
  (9 ≤ n && n ≤ 13) || n == 0x20 || n == 0x85 || n == 0xA0 || n == 0x1680 ||
    (0x2000 ≤ n && n ≤ 0x200A) || n == 0x2028 || n == 0x2029 || n == 0x202F || n == 0x205F ||
    n == 0x3000

/-! ## Trimming -/

/-- The text without the blanks it begins with. -/
def trimStart (s : List Char) : List Char := s.dropWhile isBlank

/-- The text without the blanks it ends with. -/
def trimEnd (s : List Char) : List Char := (s.reverse.dropWhile isBlank).reverse

/-- The text without the blanks at its ends. -/
def trim (s : List Char) : List Char := trimEnd (trimStart s)

/-! ## Lines -/

/-- A line without the carriage return it ends with, if it ends with one. -/
def dropReturn (line : List Char) : List Char :=
  match line.reverse with
  | '\r' :: rest => rest.reverse
  | _ => line

/-- The pieces of a text between line feeds; `line` holds, reversed, the piece begun before. -/
def splitFeeds : List Char → List Char → List (List Char) × List Char
  | line, [] => ([], line.reverse)
  | line, '\n' :: rest =>
    let (pieces, last) := splitFeeds [] rest
    (line.reverse :: pieces, last)
  | line, c :: rest => splitFeeds (c :: line) rest

/-- The lines of a text, without their ends. -/
def lines (s : List Char) : List (List Char) :=
  let (pieces, last) := splitFeeds [] s
  let ended := pieces.map dropReturn
  if last.isEmpty then ended else ended ++ [last]

end Text
end CommandGrove
