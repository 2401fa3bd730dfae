/-!
# Numbers, truth values and dates

## What is here

* `isInteger`, `isFloat` — the spellings of numbers.
* `isDate`, `isTime`, `isMoment` — the spellings of days, times and both, within the calendar.
* `isScalar` — the spelling of any value without quotes or brackets.
-/

set_option autoImplicit false
namespace CommandGrove
namespace Toml

/-! ## Digits -/

/-- Digits of a kind, between which single underscores may stand. -/
def isGrouped (test : Char → Bool) : List Char → Bool
  | [] => false
  | [c] => test c
  | c :: '_' :: rest => test c && isGrouped test rest
  | c :: rest => test c && isGrouped test rest

/-- Without a sign at its front. -/
def unsigned : List Char → List Char
  | '+' :: rest | '-' :: rest => rest
  | s => s

/-- Digits that do not begin with a zero, unless there is no other one. -/
def isWhole (s : List Char) : Bool :=
  isGrouped Char.isDigit s && (s.length == 1 || s.head? != some '0')

/-- The digits of a number in hexadecimal notation. -/
def isHexDigit (c : Char) : Bool := c.isDigit || ('a' ≤ c && c ≤ 'f') || ('A' ≤ c && c ≤ 'F')

/-- The number that digits stand for. -/
def valueOf (base : Nat) (s : List Char) : Nat :=
  s.foldl (fun n c =>
    if c == '_' then n
    else n * base + (if c.isDigit then c.toNat - 48 else (c.toNat ||| 32) - 87)) 0

/-! ## Numbers -/

/-- The number fits into 128 bits. -/
def fits (negative : Bool) (n : Nat) : Bool :=
  if negative then n ≤ Nat.pow 2 127 else n < Nat.pow 2 128

/-- The spelling of an integer. -/
def isInteger : List Char → Bool
  | '0' :: 'x' :: rest => isGrouped isHexDigit rest && fits false (valueOf 16 rest)
  | '0' :: 'o' :: rest =>
    isGrouped (fun c => '0' ≤ c && c ≤ '7') rest && fits false (valueOf 8 rest)
  | '0' :: 'b' :: rest => isGrouped (fun c => c == '0' || c == '1') rest &&
    fits false (valueOf 2 rest)
  | s => isWhole (unsigned s) && fits (s.head? == some '-') (valueOf 10 (unsigned s))

/-- The exponent of a number, from behind its letter on. -/
def isExponent (s : List Char) : Bool := isGrouped Char.isDigit (unsigned s)

/-- The letter of an exponent. -/
def isExponentMark (c : Char) : Bool := c == 'e' || c == 'E'

/-- The spelling of a number with a fraction or an exponent, or of one that is no number. -/
def isFloat (s : List Char) : Bool :=
  let s := unsigned s
  if s == "inf".toList || s == "nan".toList then true
  else
    let mantissa := s.takeWhile fun c => !isExponentMark c
    let exponent := s.drop mantissa.length
    let whole := mantissa.takeWhile (· != '.')
    let fraction := mantissa.drop whole.length
    isWhole whole && (!fraction.isEmpty || !exponent.isEmpty) &&
      (fraction.isEmpty || isGrouped Char.isDigit fraction.tail) &&
      (exponent.isEmpty || isExponent exponent.tail)

/-! ## Dates -/

/-- The number that two digits stand for. -/
def twoDigits? : List Char → Option (Nat × List Char)
  | a :: b :: rest =>
    if a.isDigit && b.isDigit then some ((a.toNat - 48) * 10 + (b.toNat - 48), rest) else none
  | _ => none

/-- The days of a month. -/
def daysIn (year month : Nat) : Nat :=
  if month == 2 then
    if year % 4 == 0 && (year % 100 != 0 || year % 400 == 0) then 29 else 28
  else if month == 4 || month == 6 || month == 9 || month == 11 then 30 else 31

/-- Reads a day. -/
def readDate? (s : List Char) : Option (List Char) := do
  let (century, s) ← twoDigits? s
  let (year, s) ← twoDigits? s
  let ('-', s) := (s.head?.getD ' ', s.tail) | none
  let (month, s) ← twoDigits? s
  let ('-', s) := (s.head?.getD ' ', s.tail) | none
  let (day, s) ← twoDigits? s
  if 1 ≤ month && month ≤ 12 && 1 ≤ day && day ≤ daysIn (century * 100 + year) month then some s
  else none

/-- Reads the fraction of a second, if there is one. -/
def readFraction? : List Char → Option (List Char)
  | '.' :: d :: rest => if d.isDigit then some (rest.dropWhile Char.isDigit) else none
  | '.' :: [] => none
  | s => some s

/-- Reads a time; the seconds may be left out. -/
def readTime? (s : List Char) : Option (List Char) := do
  let (hour, s) ← twoDigits? s
  let (':', s) := (s.head?.getD ' ', s.tail) | none
  let (minute, s) ← twoDigits? s
  if 23 < hour || 59 < minute then none
  else
    match s with
    | ':' :: s => do
      let (second, s) ← twoDigits? s
      if 60 < second then none else readFraction? s
    | s => some s

/-- The distance of a clock from the universal time. -/
def isOffset (s : List Char) : Bool :=
  match s with
  | ['Z'] | ['z'] => true
  | sign :: rest =>
    (sign == '+' || sign == '-') && rest.length == 5 &&
      match twoDigits? rest with
      | some (hour, ':' :: rest) =>
        hour ≤ 23 && (twoDigits? rest).any fun (minute, _) => minute ≤ 59
      | _ => false
  | [] => false

/-- The spelling of a day. -/
def isDate (s : List Char) : Bool := readDate? s == some []

/-- The spelling of a time. -/
def isTime (s : List Char) : Bool := readTime? s == some []

/-- The spelling of a day and a time, with or without the distance of the clock. -/
def isMoment (s : List Char) : Bool :=
  match readDate? s with
  | some (mark :: rest) =>
    (mark == 'T' || mark == 't' || mark == ' ') &&
      (readTime? rest).any fun s => s.isEmpty || isOffset s
  | _ => false

/-! ## All of them -/

/-- The spelling of a value without quotes or brackets. -/
def isScalar (s : List Char) : Bool :=
  s == "true".toList || s == "false".toList || isInteger s || isFloat s || isDate s || isTime s ||
    isMoment s

end Toml
end CommandGrove
