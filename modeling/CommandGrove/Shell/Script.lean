import CommandGrove.Text.Pieces

/-!
# Shell scripts

The part of the shell language that small bundler scripts are written in: simple commands with
words, quotes, parameters and redirections, lists of them, `&&`, `||`, `!`, `if` and `case`.

## What is here

* `Part`, `Word`, `Redirect`, `Script` — scripts as trees.
* `Token`, `tokens` — the words and marks of a text.
* `Script.ofText?` — the script that a text is.
-/

set_option autoImplicit false
namespace CommandGrove
namespace Shell

/-! ## Trees -/

/-- A part of a word. -/
inductive Part where
  /-- Characters that mean themselves; in quotes they are no patterns either. -/
  | text (quoted : Bool) (chars : List Char)
  /-- The value of a parameter; outside of quotes it is divided into fields. -/
  | parameter (quoted : Bool) (name : List Char)
  deriving DecidableEq, Repr

/-- A word: its parts stand side by side. -/
abbrev Word : Type := List Part

/-- Where output goes. -/
inductive Redirect where
  /-- Standard output goes to a file, which is emptied before unless it is appended to. -/
  | output (append : Bool) (target : Word)
  /-- The standard error stream goes to a file. -/
  | errors (target : Word)
  /-- Standard output goes where the standard error stream goes. -/
  | outputToErrors
  /-- The standard error stream goes where standard output goes. -/
  | errorsToOutput
  deriving DecidableEq, Repr

/-- A script. -/
inductive Script where
  /-- Nothing: what was done last stays what was done last. -/
  | skip
  /-- Nothing, successfully. -/
  | succeed
  | simple (words : List Word) (redirects : List Redirect)
  | sequence (first second : Script)
  /-- The second one is run if the first one succeeds. -/
  | both (first second : Script)
  /-- The second one is run if the first one fails. -/
  | either (first second : Script)
  | negate (script : Script)
  | branch (condition yes no : Script)
  /-- The body is run if the subject matches one of the patterns; if not, the others are tried. -/
  | arm (subject : Word) (patterns : List Word) (body others : Script)
  deriving Repr

/-- The script, or success if it is nothing. -/
def Script.orSucceed : Script → Script
  | .skip => .succeed
  | script => script

/-! ## Words and marks -/

/-- A word, or a mark between words. -/
inductive Token where
  | word (parts : Word)
  | mark (text : String)
  deriving DecidableEq, Repr

/-- What the characters read now stand in. -/
inductive Quotes where
  | none
  | single
  | double
  deriving DecidableEq, Repr

/-- The character can stand in the name of a parameter. -/
def isNameChar (c : Char) : Bool := c.isAlphanum || c == '_'

/-- The characters that are parameters of their own. -/
def specialParameters : List Char := ['@', '*', '#', '?', '$', '!', '0']

/-- The marks, the longer ones before those that they begin with. -/
def marks : List String :=
  ["2>&1", "1>&2", ">&2", "2>", ">>", ">", "&&", "||", ";;", "&", "|", ";", "\n", "(", ")"]

/-- The mark at the front of a text. -/
def markAt? (input : List Char) : Option String :=
  marks.find? fun m => m.toList.isPrefixOf input

/-- The marks that begin with a digit mean something only where a word could begin. -/
def breaksWord (mark : String) : Bool := !mark.startsWith "1" && !mark.startsWith "2"

/-- The token of a word that has been read, if one has; the last part comes first. -/
def flush (word : Option Word) : List Token := (word.map fun w => Token.word w.reverse).toList

/-- A word with one more part. -/
def addPart (word : Option Word) (part : Part) : Option Word := some (part :: word.getD [])

/-- A word with some more characters. -/
def addChars (word : Option Word) (quoted : Bool) (chars : List Char) : Option Word :=
  addPart word (.text quoted chars)

/-- The brace that opens the name of a parameter. -/
def openBrace : Char := Char.ofNat 123

/-- The brace that closes the name of a parameter. -/
def closeBrace : Char := Char.ofNat 125

/-- The parameter that stands behind a dollar sign, and the number of characters it takes. -/
def parameterAt? (input : List Char) : Option (List Char × Nat) :=
  match input with
  | [] => none
  | c :: rest =>
    if c == openBrace then
      let name := rest.takeWhile (· != closeBrace)
      some (name, name.length + 2)
    else if specialParameters.contains c || c.isDigit then some ([c], 1)
    else
      let name := input.takeWhile isNameChar
      if name.isEmpty then none else some (name, name.length)

/-- The tokens of a text; quotes that are open at its end give nothing. -/
def tokens (quotes : Quotes) (word : Option Word) (input : List Char) : Option (List Token) :=
  match input with
  | [] => if quotes = .none then some (flush word) else none
  | c :: rest =>
    match quotes with
    | .single =>
      if c == '\'' then tokens .none word rest
      else tokens .single (addChars word true [c]) rest
    | .double =>
      if c == '"' then tokens .none word rest
      else if c == '\\' then
        match rest with
        | d :: after =>
          let chars := if ['$', '"', '\\'].contains d then [d] else ['\\', d]
          tokens .double (addChars word true chars) after
        | [] => none
      else if c == '$' then
        match parameterAt? rest with
        | some (name, n) => tokens .double (addPart word (.parameter true name)) (rest.drop n)
        | none => tokens .double (addChars word true [c]) rest
      else tokens .double (addChars word true [c]) rest
    | .none =>
      if c == '\'' then tokens .single (addChars word true []) rest
      else if c == '"' then tokens .double (addChars word true []) rest
      else if c == '\\' then
        match rest with
        | '\n' :: after => tokens .none word after
        | d :: after => tokens .none (addChars word true [d]) after
        | [] => some (flush (addChars word true [c]))
      else if c == '$' then
        match parameterAt? rest with
        | some (name, n) => tokens .none (addPart word (.parameter false name)) (rest.drop n)
        | none => tokens .none (addChars word false [c]) rest
      else if c == ' ' || c == '\t' then (tokens .none none rest).map (flush word ++ ·)
      else if c == '#' && word.isNone then
        tokens .none none (rest.drop (rest.takeWhile (· != '\n')).length)
      else
        match (markAt? input).filter fun m => word.isNone || breaksWord m with
        | some mark =>
          (tokens .none none (rest.drop (mark.length - 1))).map
            (flush word ++ Token.mark mark :: ·)
        | none => tokens .none (addChars word false [c]) rest
termination_by input.length
decreasing_by all_goals (simp_all only [List.length_cons, List.length_drop]; omega)

/-! ## Reading -/

/-- The characters of a word in which nothing is quoted and no parameter stands. -/
def plainChars? : Word → Option (List Char)
  | [] => some []
  | .text false chars :: rest => (plainChars? rest).map (chars ++ ·)
  | _ => none

/-- The token is a word with a meaning of its own. -/
def Token.isKeyword (t : Token) (keyword : String) : Bool :=
  match t with
  | .word parts => plainChars? parts == some keyword.toList
  | .mark _ => false

/-- The words that end a list. -/
def closers : List String :=
  ["then", "elif", "else", "fi", "esac", closeBrace.toString]

/-- The token ends a list. -/
def Token.closes (t : Token) : Bool :=
  closers.any t.isKeyword || t == .mark ";;" || t == .mark ")"

/-- The tokens without the separators in front. -/
def skipSeparators (input : List Token) : List Token :=
  input.dropWhile fun t => t == .mark ";" || t == .mark "\n" || t == .mark "&"

/-- The tokens behind a keyword in front. -/
def expectKeyword (keyword : String) : List Token → Option (List Token)
  | t :: rest => if t.isKeyword keyword then some rest else none
  | [] => none

/-- The words and redirections of a simple command. -/
def readSimple : List Token → Option (List Word × List Redirect × List Token)
  | .word w :: rest => (readSimple rest).map fun (words, redirects, rest) =>
    (w :: words, redirects, rest)
  | .mark "2>&1" :: rest => (readSimple rest).map fun (words, redirects, rest) =>
    (words, .errorsToOutput :: redirects, rest)
  | .mark "1>&2" :: rest | .mark ">&2" :: rest =>
    (readSimple rest).map fun (words, redirects, rest) =>
      (words, .outputToErrors :: redirects, rest)
  | .mark ">" :: .word w :: rest => (readSimple rest).map fun (words, redirects, rest) =>
    (words, .output false w :: redirects, rest)
  | .mark ">>" :: .word w :: rest => (readSimple rest).map fun (words, redirects, rest) =>
    (words, .output true w :: redirects, rest)
  | .mark "2>" :: .word w :: rest => (readSimple rest).map fun (words, redirects, rest) =>
    (words, .errors w :: redirects, rest)
  | rest => some ([], [], rest)

/-- The patterns of an arm, up to the bracket behind them. -/
def readPatterns : List Token → Option (List Word × List Token)
  | .word w :: .mark ")" :: rest => some ([w], rest)
  | .word w :: .mark "|" :: rest => (readPatterns rest).map fun (ws, rest) => (w :: ws, rest)
  | _ => none

mutual

/-- Reads a list of commands. -/
def readList : Nat → List Token → Option (Script × List Token)
  | 0, _ => none
  | fuel + 1, input =>
    match skipSeparators input with
    | [] => some (.skip, [])
    | t :: rest =>
      if t.closes then some (.skip, t :: rest)
      else do
        let (first, rest) ← readChain fuel (t :: rest)
        let (second, rest) ← readList fuel rest
        return (.sequence first second, rest)

/-- Reads commands that are tied by `&&` and `||`. -/
def readChain : Nat → List Token → Option (Script × List Token)
  | 0, _ => none
  | fuel + 1, input => do
    let (first, rest) ← readCommand fuel input
    readLinks fuel first rest

/-- Reads what is tied to a command by `&&` and `||`. -/
def readLinks : Nat → Script → List Token → Option (Script × List Token)
  | 0, _, _ => none
  | fuel + 1, first, input =>
    match input with
    | .mark "&&" :: rest => do
      let (second, rest) ← readCommand fuel (skipSeparators rest)
      readLinks fuel (.both first second) rest
    | .mark "||" :: rest => do
      let (second, rest) ← readCommand fuel (skipSeparators rest)
      readLinks fuel (.either first second) rest
    | rest => some (first, rest)

/-- Reads one command. -/
def readCommand : Nat → List Token → Option (Script × List Token)
  | 0, _ => none
  | fuel + 1, input =>
    match input with
    | [] => none
    | t :: rest =>
      if t.isKeyword "!" then (readCommand fuel rest).map fun (s, rest) => (.negate s, rest)
      else if t.isKeyword "if" then readBranch fuel rest
      else if t.isKeyword "case" then
        match rest with
        | .word subject :: rest => do
          let rest ← expectKeyword "in" rest
          readArms fuel subject (skipSeparators rest)
        | _ => none
      else if t.isKeyword openBrace.toString then do
        let (s, rest) ← readList fuel rest
        let rest ← expectKeyword closeBrace.toString rest
        return (s, rest)
      else do
        let (words, redirects, rest) ← readSimple input
        if words.isEmpty && redirects.isEmpty then none
        return (.simple words redirects, rest)

/-- Reads what stands behind `if`. -/
def readBranch : Nat → List Token → Option (Script × List Token)
  | 0, _ => none
  | fuel + 1, input => do
    let (condition, rest) ← readList fuel input
    let rest ← expectKeyword "then" rest
    let (yes, rest) ← readList fuel rest
    match rest with
    | [] => none
    | t :: rest =>
      if t.isKeyword "elif" then
        (readBranch fuel rest).map fun (no, rest) => (.branch condition yes no, rest)
      else if t.isKeyword "else" then do
        let (no, rest) ← readList fuel rest
        let rest ← expectKeyword "fi" rest
        return (.branch condition yes no, rest)
      else if t.isKeyword "fi" then some (.branch condition yes .succeed, rest)
      else none

/-- Reads the arms of a `case`. -/
def readArms : Nat → Word → List Token → Option (Script × List Token)
  | 0, _, _ => none
  | fuel + 1, subject, input =>
    match input with
    | [] => none
    | t :: rest =>
      if t.isKeyword "esac" then some (.succeed, rest)
      else do
        let (patterns, rest) ← readPatterns (if t == .mark "(" then rest else input)
        let (body, rest) ← readList fuel rest
        let rest := match rest with
          | .mark ";;" :: rest => rest
          | rest => rest
        let (others, rest) ← readArms fuel subject (skipSeparators rest)
        return (.arm subject patterns body.orSucceed others, rest)

end

/-- The script that a text is. -/
def Script.ofText? (text : String) : Option Script := do
  let all ← tokens .none none text.toList
  match ← readList (4 * all.length + 4) all with
  | (script, []) => some script
  | _ => none

end Shell
end CommandGrove
