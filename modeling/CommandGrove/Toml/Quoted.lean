/-!
# Strings of a TOML document

## What is here

* `readBasic`, `readLiteral` — strings on one line, with and without escapes.
* `readLongBasic`, `readLongLiteral` — strings in triple quotes.

Each reader starts behind the opening quotes and gives the text and what follows the closing ones.
-/

set_option autoImplicit false
namespace CommandGrove
namespace Toml

/-! ## Characters -/

/-- The character may stand in a string, a literal or a comment. -/
def isText (c : Char) : Bool := c == '\t' || (32 ≤ c.toNat && c.toNat != 127)

/-- The value of hexadecimal digits. -/
def hexValue (digits : List Char) : Option Nat :=
  digits.foldlM (fun n c =>
    if c.isDigit then some (n * 16 + (c.toNat - 48))
    else if 'a' ≤ c && c ≤ 'f' then some (n * 16 + (c.toNat - 87))
    else if 'A' ≤ c && c ≤ 'F' then some (n * 16 + (c.toNat - 55))
    else none) 0

/-- The character that a number of digits stands for, and what follows them. -/
def readCode (digits : Nat) (s : List Char) : Option (Char × List Char) :=
  if s.length < digits then none
  else
    match hexValue (s.take digits) with
    | some n => if n.isValidChar then some (Char.ofNat n, s.drop digits) else none
    | none => none

/-- The character that an escape stands for, from behind its backslash on. -/
def readEscape : List Char → Option (Char × List Char)
  | 'b' :: rest => some (Char.ofNat 8, rest)
  | 't' :: rest => some ('\t', rest)
  | 'n' :: rest => some ('\n', rest)
  | 'f' :: rest => some (Char.ofNat 12, rest)
  | 'r' :: rest => some ('\r', rest)
  | 'e' :: rest => some (Char.ofNat 27, rest)
  | '"' :: rest => some ('"', rest)
  | '\\' :: rest => some ('\\', rest)
  | 'x' :: rest => readCode 2 rest
  | 'u' :: rest => readCode 4 rest
  | 'U' :: rest => readCode 8 rest
  | _ => none

theorem readCode_length {n : Nat} {s rest : List Char} {c : Char}
    (h : readCode n s = some (c, rest)) : rest.length ≤ s.length := by
  unfold readCode at h
  split at h
  · simp at h
  · split at h
    · split at h
      · simp only [Option.some.injEq, Prod.mk.injEq] at h
        rw [← h.2, List.length_drop]
        omega
      · simp at h
    · simp at h

/-- An escape is at least one character long. -/
theorem readEscape_length {s rest : List Char} {c : Char} (h : readEscape s = some (c, rest)) :
    rest.length < s.length := by
  unfold readEscape at h
  split at h
  all_goals first
    | (have h := readCode_length h; simp only [List.length_cons]; omega)
    | (simp only [Option.some.injEq, Prod.mk.injEq] at h; simp [← h.2])
    | simp at h

/-! ## On one line -/

/-- Reads a string with escapes. -/
def readBasic (s : List Char) : Option (List Char × List Char) :=
  match s with
  | [] => none
  | '"' :: rest => some ([], rest)
  | '\\' :: rest =>
    match _h : readEscape rest with
    | some (c, after) => (readBasic after).map fun (text, more) => (c :: text, more)
    | none => none
  | c :: rest =>
    if isText c then (readBasic rest).map fun (text, more) => (c :: text, more) else none
termination_by s.length
decreasing_by
  · have := readEscape_length _h
    simp only [List.length_cons]
    omega
  · simp

/-- Reads a string without escapes. -/
def readLiteral : List Char → Option (List Char × List Char)
  | [] => none
  | '\'' :: rest => some ([], rest)
  | c :: rest =>
    if isText c then (readLiteral rest).map fun (text, more) => (c :: text, more) else none

/-! ## In triple quotes -/

/-- Without the line break at its front. -/
def dropBreak : List Char → List Char
  | '\n' :: rest => rest
  | '\r' :: '\n' :: rest => rest
  | s => s

/-- The quotes at the end of a string in triple quotes: up to two of its own may stand before the
closing ones. -/
def readClosing (quote : Char) (s : List Char) : Option (List Char × List Char) :=
  let quotes := (s.takeWhile (· == quote)).length
  if quotes < 3 then none
  else
    let own := min (quotes - 3) 2
    some (List.replicate own quote, s.drop (own + 3))

/-- What follows a backslash at the end of a line: the line break and all blanks behind it are
passed over. -/
def dropContinuation (s : List Char) : Option (List Char) :=
  match s.dropWhile fun c => c == ' ' || c == '\t' with
  | '\n' :: rest => some (rest.dropWhile fun c => c == ' ' || c == '\t' || c == '\n' || c == '\r')
  | '\r' :: '\n' :: rest =>
    some (rest.dropWhile fun c => c == ' ' || c == '\t' || c == '\n' || c == '\r')
  | _ => none

/-- Reads the body of a string in triple quotes, at most `fuel` characters of it. -/
def readLong (quote : Char) (escapes : Bool) : Nat → List Char → Option (List Char × List Char)
  | 0, _ => none
  | fuel + 1, s =>
    let add (c : Char) (rest : List Char) : Option (List Char × List Char) :=
      (readLong quote escapes fuel rest).map fun (text, more) => (c :: text, more)
    match s with
    | [] => none
    | c :: rest =>
      if c == quote then
        match readClosing quote s with
        | some closing => some closing
        | none => add c rest
      else if c == '\\' && escapes then
        match dropContinuation rest with
        | some after => readLong quote escapes fuel after
        | none =>
          match readEscape rest with
          | some (c, after) => add c after
          | none => none
      else if c == '\r' then if rest.head? == some '\n' then add c rest else none
      else if c == '\n' || isText c then add c rest
      else none

/-- Reads a string with escapes in triple quotes. -/
def readLongBasic (s : List Char) : Option (List Char × List Char) :=
  readLong '"' true (s.length + 1) (dropBreak s)

/-- Reads a string without escapes in triple quotes. -/
def readLongLiteral (s : List Char) : Option (List Char × List Char) :=
  readLong '\'' false (s.length + 1) (dropBreak s)

end Toml
end CommandGrove
