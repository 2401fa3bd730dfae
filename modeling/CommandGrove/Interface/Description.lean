import CommandGrove.Text.Affix
import CommandGrove.Text.Blank
import CommandGrove.Text.Pieces

/-!
# Descriptions from comments

## What is here

* `functionDescription` — the text of a documentation block, without its tag lines.
* `flagDescription` — the text of any comment, tag lines included.

Both are one line: the lines of the comment, cleaned and joined by single spaces.
-/

set_option autoImplicit false
namespace CommandGrove

open Text

/-! ## Lines -/

/-- The lines that are not empty, with single spaces between them. -/
def joinLines (found : List (List Char)) : List Char :=
  joinWith [' '] (found.filter fun line => !line.isEmpty)

/-! ## Functions -/

/-- A line of a documentation block without its asterisks. -/
def cleanDocLine (line : List Char) : List Char := trim ((trim line).dropWhile (· == '*'))

/-- The description of a function from its documentation: delimiters, asterisks at the front of
lines and lines that begin with a tag are taken away. -/
def functionDescription (comment : List Char) : Option (List Char) :=
  let inner := dropAllEndMarks ['*', '/'] (dropAllMarks ['/', '*', '*'] (trim comment))
  let text := joinLines (((lines inner).map cleanDocLine).filter fun line => line.head? != some '@')
  if text.isEmpty then none else some text

/-! ## Flags -/

/-- A line of a comment without `//` at its front and without asterisks. -/
def cleanFlagLine (line : List Char) : List Char :=
  let line := trim line
  trim (((stripPrefix? ['/', '/'] line).getD line).filter (· != '*'))

/-- The description of a flag from the comment before it. -/
def flagDescription (comment : List Char) : List Char :=
  let text := trim comment
  let inner :=
    match stripPrefix? ['/', '*'] text with
    | some block => (stripSuffix? ['*', '/'] block).getD block
    | none => text
  joinLines ((lines inner).map cleanFlagLine)

end CommandGrove
