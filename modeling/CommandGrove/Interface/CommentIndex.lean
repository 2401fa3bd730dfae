import CommandGrove.Script.Token
import CommandGrove.Text.Blank

/-!
# Comments before a place

Descriptions are read from the comment that stands right before a declaration.

## What is here

* `slice?` — the part of a text between two offsets.
* `fullRange` — the place of a comment, delimiters included, from its place with or without them.
* `CommentIndex` — the comments of a source in order.
* `CommentIndex.leading` — the comment, or the run of `//` lines, that ends right before a place;
  `CommentIndex.leadingDoc` — the same if it is a `/** … */` block.
-/

set_option autoImplicit false
namespace CommandGrove

open Script Text

/-- The part of a text from `start` up to `stop`, if both are places in the text and in order. -/
def slice? (source : List Char) (start stop : Nat) : Option (List Char) :=
  if start ≤ stop ∧ stop ≤ source.length then some ((source.drop start).take (stop - start))
  else none

/-- The place of a comment, delimiters included, when `start` and `stop` are the place of the
comment or of the content between its delimiters. -/
def fullRange (source : List Char) (start stop : Nat) : Option Comment :=
  match slice? source start stop with
  | none => none
  | some text =>
    if ['/', '/'].isPrefixOf text then some ⟨start, stop, .line⟩
    else if ['/', '*'].isPrefixOf text then some ⟨start, stop, .block⟩
    else if start < 2 then none
    else
      match slice? source (start - 2) start with
      | some ['/', '/'] => some ⟨start - 2, stop, .line⟩
      | some ['/', '*'] =>
        if slice? source stop (stop + 2) == some ['*', '/'] then
          some ⟨start - 2, stop + 2, .block⟩
        else none
      | _ => none

/-- The comments of a source. -/
structure CommentIndex where
  source : List Char
  /-- In source order. -/
  comments : List Comment

namespace CommentIndex

/-- The index of the comments at the given places. -/
def ofPlaces (source : List Char) (places : List Comment) : CommentIndex where
  source := source
  comments := (places.filterMap fun c => fullRange source c.start c.stop).mergeSort
    fun a b => a.start ≤ b.start

/-- Nothing but blanks stands between two places. -/
def onlyBlanks (index : CommentIndex) (start stop : Nat) : Bool :=
  match slice? index.source start stop with
  | some gap => gap.all isBlank
  | none => false

/-- Where the run of `//` comments begins that goes on at `start`; `before` are the comments before
`start`, the nearest one first. -/
def runStart (index : CommentIndex) (start : Nat) (before : List Comment) : Nat :=
  match before with
  | [] => start
  | c :: rest =>
    if c.style == .line && index.onlyBlanks c.stop start then index.runStart c.start rest else start

/-- The comment that ends right before a place, with only blanks in between; a `//` comment brings
the run of `//` comments that it ends. -/
def leading (index : CommentIndex) (place : Nat) : Option (List Char) :=
  match index.comments.reverse.dropWhile fun c => place < c.stop with
  | [] => none
  | nearest :: before =>
    if index.onlyBlanks nearest.stop place then
      let start := match nearest.style with
        | .line => index.runStart nearest.start before
        | .block => nearest.start
      slice? index.source start nearest.stop
    else none

/-- The comment is a block that opens with two asterisks and holds something. -/
def isDoc (comment : List Char) : Bool :=
  ['/', '*', '*'].isPrefixOf comment && 4 < comment.length

/-- The documentation that ends right before a place. -/
def leadingDoc (index : CommentIndex) (place : Nat) : Option (List Char) :=
  (index.leading place).filter isDoc

end CommentIndex
end CommandGrove
