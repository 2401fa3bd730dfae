import CommandGrove.Script.Lexer.Word

/-!
# Numbers

Only the extent of a number matters to the readers of a source, not its value.

## What is here

* `scanDigits` — reads digits with single underscores between them.
* `scanNumber` — reads the number at the front of an input.
-/

set_option autoImplicit false
namespace CommandGrove
namespace Script

open Text

/-- What a reader of a number has met: how many characters it took, what follows, and whether all
is well so far. -/
structure NumberScan where
  used : Nat
  rest : List Char
  sound : Bool

/-- Reads digits; an underscore has to stand between two of them.  `after` tells that a digit
stands right before. -/
def scanDigits (isDigit : Char → Bool) (after : Bool) (used : Nat) (input : List Char) :
    NumberScan :=
  match input with
  | [] => ⟨used, [], after⟩
  | c :: rest =>
    if c == '_' then
      if after then scanDigits isDigit false (used + 1) rest else ⟨used, c :: rest, false⟩
    else if isDigit c then scanDigits isDigit true (used + 1) rest
    else ⟨used, c :: rest, after⟩

/-- Continues a number with an exponent, if the input begins with one. -/
def scanExponent (n : NumberScan) : NumberScan :=
  match n.rest with
  | e :: sign :: rest =>
    if e == 'e' || e == 'E' then
      if sign == '+' || sign == '-' then scanDigits Char.isDigit false (n.used + 2) rest
      else scanDigits Char.isDigit false (n.used + 1) (sign :: rest)
    else n
  | e :: rest => if e == 'e' || e == 'E' then ⟨n.used + 1, rest, false⟩ else n
  | [] => n

/-- Continues a number behind its point. -/
def scanFraction (used : Nat) (rest : List Char) : NumberScan :=
  match rest with
  | c :: _ =>
    if c.isDigit then
      let digits := scanDigits Char.isDigit false used rest
      if digits.sound then scanExponent digits else digits
    else scanExponent ⟨used, rest, true⟩
  | [] => ⟨used, rest, true⟩

/-- Continues a whole decimal number with a fraction, an exponent or the mark of a big integer;
answers also whether it is one. -/
def scanDecimalTail (n : NumberScan) : NumberScan × Bool :=
  if !n.sound then (n, false) else
  match n.rest with
  | '.' :: rest => (scanFraction (n.used + 1) rest, false)
  | 'n' :: rest => (⟨n.used + 1, rest, true⟩, true)
  | _ => (scanExponent n, false)

/-- Continues a number in another base with the mark of a big integer. -/
def scanBasedTail (n : NumberScan) : NumberScan × Bool :=
  match n.rest with
  | 'n' :: rest => (⟨n.used + 1, rest, n.sound⟩, n.sound)
  | _ => (n, false)

/-- The digits of the base that a letter after a leading zero announces. -/
def baseDigits (letter : Char) : Option (Char → Bool) :=
  if letter == 'x' || letter == 'X' then some fun c => (hexDigit c).isSome
  else if letter == 'o' || letter == 'O' then some fun c => '0' ≤ c && c ≤ '7'
  else if letter == 'b' || letter == 'B' then some fun c => c == '0' || c == '1'
  else none

/-- The number at the front of an input, and whether it is a big integer, before the look at what
follows it. -/
def scanNumberBody (input : List Char) : NumberScan × Bool :=
  match input with
  | '0' :: letter :: rest =>
    match baseDigits letter with
    | some digits => scanBasedTail (scanDigits digits false 2 rest)
    | none =>
      if letter.isDigit then
        -- a leading zero: the digits stand without underscores and without the big integer mark
        let digits := (letter :: rest).takeWhile Char.isDigit
        let after := (letter :: rest).dropWhile Char.isDigit
        let whole : NumberScan := ⟨1 + digits.length, after, true⟩
        if digits.any (fun c => c == '8' || c == '9') then
          match after with
          | '.' :: more => (scanFraction (whole.used + 1) more, false)
          | _ => (scanExponent whole, false)
        else (whole, false)
      else scanDecimalTail ⟨1, letter :: rest, true⟩
  | '.' :: rest => (scanFraction 1 rest, false)
  | _ => scanDecimalTail (scanDigits Char.isDigit false 0 input)

/-- Reads the number at the front of an input, and whether it is a big integer.  Neither a digit
nor a letter may follow it. -/
def scanNumber (input : List Char) : NumberScan × Bool :=
  let (n, big) := scanNumberBody input
  match n.rest with
  | c :: _ => (⟨n.used, n.rest, n.sound && !(c.isDigit || beginsIdentifier c)⟩, big)
  | [] => (n, big)

end Script
end CommandGrove
