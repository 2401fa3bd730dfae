/-!
# Quoted texts

The text of a string literal in double quotes, and the reading of one.

## What is here

* `quote s` — the literal for a text: quotes, backslashes and control characters are escaped.
* `unquote? input` — the text of the literal at the front of an input and what follows it.
-/

set_option autoImplicit false
namespace CommandGrove
namespace Text

/-! ## Writing -/

/-- The control characters with an escape of one letter, and the letters. -/
def shortEscapes : List (Char × Char) :=
  [(Char.ofNat 8, 'b'), (Char.ofNat 12, 'f'), ('\n', 'n'), ('\r', 'r'), ('\t', 't')]

/-- A number below sixteen as a digit. -/
def hexDigit (n : Nat) : Char := if n < 10 then Char.ofNat (48 + n) else Char.ofNat (87 + n)

/-- A character as it stands in a literal. -/
def escape (c : Char) : List Char :=
  if c = '"' ∨ c = '\\' then ['\\', c]
  else
    match shortEscapes.find? (·.1 == c) with
    | some e => ['\\', e.2]
    | none =>
      if c.toNat < 32 then ['\\', 'u', '0', '0', hexDigit (c.toNat / 16), hexDigit (c.toNat % 16)]
      else [c]

/-- The literal for a text. -/
def quote (s : List Char) : List Char := '"' :: s.flatMap escape ++ ['"']

/-! ## Reading -/

/-- The value of a digit. -/
def hexValue? (c : Char) : Option Nat :=
  if c.isDigit then some (c.toNat - 48)
  else if 'a' ≤ c ∧ c ≤ 'f' then some (c.toNat - 87)
  else if 'A' ≤ c ∧ c ≤ 'F' then some (c.toNat - 55)
  else none

/-- The number that four digits write. -/
def codeUnit? (a b c d : Char) : Option Nat :=
  match hexValue? a, hexValue? b, hexValue? c, hexValue? d with
  | some a, some b, some c, some d => some (((a * 16 + b) * 16 + c) * 16 + d)
  | _, _, _, _ => none

/-- The number is the first half of a character that is written by two numbers. -/
def isHighHalf (n : Nat) : Bool := 0xD800 ≤ n && n < 0xDC00

/-- The number is the second half of such a character. -/
def isLowHalf (n : Nat) : Bool := 0xDC00 ≤ n && n < 0xE000

/-- The character that two halves write. -/
def joinHalves (high low : Nat) : Char :=
  Char.ofNat (0x10000 + (high - 0xD800) * 0x400 + (low - 0xDC00))

/-- The character that a letter behind a backslash stands for. -/
def unescape? (letter : Char) : Option Char :=
  if letter = '"' ∨ letter = '\\' ∨ letter = '/' then some letter
  else (shortEscapes.find? (·.2 == letter)).map (·.1)

/-- Reads the characters of a literal up to its closing quote.  A half of a character stands only
together with the other one. -/
def unquoteBody? : List Char → Option (List Char × List Char)
  | [] => none
  | '"' :: rest => some ([], rest)
  | '\\' :: 'u' :: a :: b :: c :: d :: rest =>
    match codeUnit? a b c d with
    | some n =>
      if isHighHalf n then
        match rest with
        | '\\' :: 'u' :: e :: f :: g :: h :: rest =>
          match (codeUnit? e f g h).filter isLowHalf with
          | some low => (unquoteBody? rest).map fun (s, after) => (joinHalves n low :: s, after)
          | none => none
        | _ => none
      else if isLowHalf n then none
      else (unquoteBody? rest).map fun (s, after) => (Char.ofNat n :: s, after)
    | none => none
  | '\\' :: letter :: rest =>
    match unescape? letter with
    | some x => (unquoteBody? rest).map fun (s, after) => (x :: s, after)
    | none => none
  | c :: rest =>
    if c.toNat < 32 ∨ c = '\\' then none
    else (unquoteBody? rest).map fun (s, after) => (c :: s, after)

/-- Reads the literal at the front of an input: its text and what follows. -/
def unquote? : List Char → Option (List Char × List Char)
  | '"' :: rest => unquoteBody? rest
  | _ => none

end Text
end CommandGrove
