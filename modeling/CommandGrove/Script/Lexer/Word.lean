import CommandGrove.Script.Token

/-!
# Names and keywords

A word is written with identifier characters, or with escapes that stand for them.

## What is here

* `hexDigit` — the value of a hexadecimal digit, and `hexValue` of a run of them.
* `scalar?` — the character with a given code point, if there is one.
* `scanWord` — reads the longest word at the front of an input.
-/

set_option autoImplicit false
namespace CommandGrove
namespace Script

open Text

/-! ## Hexadecimal digits -/

/-- The value of a hexadecimal digit. -/
def hexDigit (c : Char) : Option Nat :=
  if c.isDigit then some (c.toNat - 48)
  else if 'a' ≤ c ∧ c ≤ 'f' then some (c.toNat - 87)
  else if 'A' ≤ c ∧ c ≤ 'F' then some (c.toNat - 55)
  else none

/-- The number that hexadecimal digits write, if all of them are such digits. -/
def hexValue (digits : List Char) : Option Nat :=
  digits.foldlM (fun v c => (hexDigit c).map (16 * v + ·)) 0

/-- The character with this code point; surrogates and numbers past the last code point have
none. -/
def scalar? (n : Nat) : Option Char :=
  if n.isValidChar then some (Char.ofNat n) else none

/-! ## Words -/

/-- A word that was read: its characters, last one first, whether it holds an escape, how many
characters of the input it took and what follows.  `sound` fails if an escape stands for no
character of a word. -/
structure WordScan where
  name : List Char
  escaped : Bool
  used : Nat
  rest : List Char
  sound : Bool

/-- Reads a word; inside `\u{` the value read so far is in `brace`. -/
def scanWordFrom (brace : Option Nat) (name : List Char) (escaped : Bool) (used : Nat)
    (input : List Char) : WordScan :=
  let fits (c : Char) := if name.isEmpty then beginsIdentifier c else continuesIdentifier c
  match brace, input with
  | none, '\\' :: 'u' :: '{' :: rest => scanWordFrom (some 0) name true (used + 3) rest
  | none, '\\' :: 'u' :: a :: b :: c :: d :: rest =>
    match (hexValue [a, b, c, d]).bind scalar? with
    | some x =>
      if fits x then scanWordFrom none (x :: name) true (used + 6) rest
      else ⟨name, true, used, rest, false⟩
    | none => ⟨name, true, used, rest, false⟩
  | none, '\\' :: rest => ⟨name, true, used, rest, false⟩
  | none, c :: rest =>
    if fits c then scanWordFrom none (c :: name) escaped (used + 1) rest
    else ⟨name, escaped, used, c :: rest, true⟩
  | none, [] => ⟨name, escaped, used, [], true⟩
  | some v, '}' :: rest =>
    match scalar? v with
    | some x =>
      if fits x then scanWordFrom none (x :: name) true (used + 1) rest
      else ⟨name, true, used, rest, false⟩
    | none => ⟨name, true, used, rest, false⟩
  | some v, c :: rest =>
    match hexDigit c with
    | some d => scanWordFrom (some (16 * v + d)) name true (used + 1) rest
    | none => ⟨name, true, used, rest, false⟩
  | some _, [] => ⟨name, true, used, [], false⟩

/-- Reads the longest word at the front of an input. -/
def scanWord (input : List Char) : WordScan := scanWordFrom none [] false 0 input

end Script
end CommandGrove
