/-!
# File names

A name on a disk is a string of bytes.  Nearly always it is a text, and then it is kept as that
text.  In any other name the stretches of bytes that are no text are kept between marks, with a
character for each byte.  The mark is a character that no name on a disk has in it, so a name that
is kept in this way is no text, and its bytes can be told again.

## What is here

* `strayLength` — how many bytes make up one stretch that is no text.
* `ofBytes`, `bytes` — the name that some bytes are, and the bytes of a name.
* `isText`, `shown` — whether a name is a text, and the text that is shown for any name.
-/

set_option autoImplicit false
namespace CommandGrove
namespace FileName

/-! ## Bytes that are no text -/

/-- The byte goes on with a character that began before it. -/
def isContinuation (b : UInt8) : Bool := 0x80 ≤ b && b ≤ 0xBF

/-- The bytes begin a character of three or four bytes. -/
def beginsLong (first second : UInt8) : Bool :=
  match first with
  | 0xE0 => 0xA0 ≤ second && second ≤ 0xBF
  | 0xED => 0x80 ≤ second && second ≤ 0x9F
  | 0xF0 => 0x90 ≤ second && second ≤ 0xBF
  | 0xF4 => 0x80 ≤ second && second ≤ 0x8F
  | _ => 0xE1 ≤ first && first ≤ 0xF3 && isContinuation second

/-- Where no character stands, the number of bytes that are taken together: the beginning of a
character that is cut off, or a single byte. -/
def strayLength : List UInt8 → Nat
  | first :: second :: rest =>
    if !beginsLong first second then 1
    else if 0xF0 ≤ first && rest.head?.any isContinuation then 3
    else 2
  | _ => 1

theorem strayLength_pos (bytes : List UInt8) : 0 < strayLength bytes := by
  unfold strayLength
  split
  · split
    · decide
    · split <;> decide
  · decide

/-- The character at the front of some bytes. -/
def charAt? (bytes : List UInt8) : Option Char := bytes.toByteArray.utf8DecodeChar? 0

/-! ## Names -/

/-- The character before and behind bytes that are no text. -/
def mark : Char := Char.ofNat 0

/-- Bytes that are no text, as they are kept in a name. -/
def stray (bytes : List UInt8) : List Char :=
  mark :: bytes.map (fun b => Char.ofNat b.toNat) ++ [mark]

/-- The name that some bytes are. -/
def ofBytes (bytes : List UInt8) : List Char :=
  match bytes with
  | [] => []
  | first :: rest =>
    match charAt? (first :: rest) with
    | some c => c :: ofBytes ((first :: rest).drop c.utf8Size)
    | none =>
      let n := strayLength (first :: rest)
      stray ((first :: rest).take n) ++ ofBytes ((first :: rest).drop n)
termination_by bytes.length
decreasing_by
  · have hpos := c.utf8Size_pos
    simp only [List.length_drop, List.length_cons]
    omega
  · have hpos := strayLength_pos (first :: rest)
    simp only [List.length_drop, List.length_cons]
    omega

/-- The bytes that characters stand for, between marks or not. -/
def bytesFrom (marked : Bool) : List Char → List UInt8
  | [] => []
  | c :: rest =>
    if c = mark then bytesFrom (!marked) rest
    else
      (if marked then [UInt8.ofNat c.toNat] else String.utf8EncodeChar c) ++ bytesFrom marked rest

/-- The bytes of a name. -/
def bytes (name : List Char) : List UInt8 := bytesFrom false name

/-- The name is a text. -/
def isText (name : List Char) : Bool := !name.contains mark

/-- The character that is shown for bytes that are no text. -/
def replacement : Char := Char.ofNat 0xFFFD

/-- What is shown for characters, between marks or not. -/
def shownFrom (marked : Bool) : List Char → List Char
  | [] => []
  | c :: rest =>
    if c = mark then (if marked then [] else [replacement]) ++ shownFrom (!marked) rest
    else (if marked then [] else [c]) ++ shownFrom marked rest

/-- The text that is shown for a name, or for a path: all of it that is text, and one character for
each stretch of bytes that is not. -/
def shown (name : List Char) : List Char := shownFrom false name

end FileName
end CommandGrove
