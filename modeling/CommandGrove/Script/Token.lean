import CommandGrove.Text.Letters

/-!
# Tokens of a module source

A source is read as a list of characters; places in it are character offsets.  A token keeps the
input it begins, so that a reader who needs a different division of the same characters (a regular
expression instead of a slash, `>` `>` instead of `>>`) can start again from there.

## What is here

* `Comment` — a comment with its place, delimiters included.
* `Fault`, `Diagnostic` — what is wrong with a source and where; `lineOf` turns a place into the
  number of a line.
* `Token` — a token with its place; `Token.is` compares it with a keyword or an operator.
* `isReserved`, `isKeyword` — the words with a meaning of their own.
-/

set_option autoImplicit false
namespace CommandGrove
namespace Script

/-! ## Comments -/

/-- The two forms of a comment. -/
inductive CommentStyle where
  /-- From `//` to the end of the line. -/
  | line
  /-- From `/*` to the first `*/`. -/
  | block
  deriving DecidableEq, Repr

/-- A comment: the offsets of its first character and of the character after its last one. -/
structure Comment where
  start : Nat
  stop : Nat
  style : CommentStyle
  deriving DecidableEq, Repr

/-! ## Faults -/

/-- What is wrong with a source. -/
inductive Fault where
  | unexpected
  | expected (wanted found : String)
  | missingSeparator
  | unterminated (what : String)
  | invalidCharacter
  | invalidEscape
  | invalidNumber
  | invalidFlag
  | escapedKeyword
  | reservedWord (word : String)
  | invalidTarget
  | missingInitializer
  | notAllowed (what : String)
  | modifier (name : String)
  | tooDeep
  deriving DecidableEq, Repr

/-- The wording of a fault. -/
def Fault.message : Fault → String
  | .unexpected => "Unexpected token"
  | .expected wanted found => "Expected `" ++ wanted ++ "` but found `" ++ found ++ "`"
  | .missingSeparator =>
    "Expected a semicolon or an implicit semicolon after a statement, but found none"
  | .unterminated what => "Unterminated " ++ what
  | .invalidCharacter => "Invalid Character"
  | .invalidEscape => "Invalid escape sequence"
  | .invalidNumber => "Invalid characters after number"
  | .invalidFlag => "Unexpected flag in regular expression literal"
  | .escapedKeyword => "Keywords cannot contain escape characters"
  | .reservedWord word =>
    "Identifier expected. '" ++ word ++ "' is a reserved word that cannot be used here."
  | .invalidTarget => "Cannot assign to this expression"
  | .missingInitializer => "Missing initializer in declaration"
  | .notAllowed what => what
  | .modifier name => "'" ++ name ++ "' modifier cannot be used here."
  | .tooDeep => "Source is nested too deeply"

/-- A fault and the offset of the character it begins at. -/
structure Diagnostic where
  offset : Nat
  fault : Fault
  deriving DecidableEq, Repr

/-- The number, from 1, of the line that the character at `offset` stands in. -/
def lineOf (source : List Char) (offset : Nat) : Nat :=
  (source.take offset).count '\n' + 1

/-! ## Tokens -/

/-- The content of a token. -/
inductive Lexeme where
  /-- A name or a keyword, with its escapes resolved. -/
  | word (name : String) (escaped : Bool)
  /-- A name that begins with `#`. -/
  | privateName (name : String)
  | number
  | bigInteger
  /-- A string in quotes, with its escapes resolved. -/
  | string (value : String)
  /-- A template up to its end (`closed`) or up to its first `${`; there is no text if it holds
  an escape that means nothing. -/
  | template (text : Option String) (closed : Bool)
  | regularExpression
  | operator (text : String)
  /-- The end of the source. -/
  | finish
  /-- Characters that begin no token; a fault has been reported. -/
  | malformed
  deriving DecidableEq, Repr

/-- A token: its content, its place, whether a line break stands between it and the token before,
and the source from its first character on. -/
structure Token where
  lexeme : Lexeme
  start : Nat
  stop : Nat
  fresh : Bool
  input : List Char

/-- The token is this keyword or operator. -/
def Token.is (t : Token) (text : String) : Bool :=
  match t.lexeme with
  | .word name _ => name == text
  | .operator op => op == text
  | _ => false

/-- The token is one of these keywords and operators. -/
def Token.isAny (t : Token) (texts : List String) : Bool := texts.any t.is

/-- The token in a message. -/
def Token.describe (t : Token) : String :=
  match t.lexeme with
  | .word name _ => name
  | .privateName name => "#" ++ name
  | .number | .bigInteger => "number"
  | .string _ => "string"
  | .template _ _ => "template"
  | .regularExpression => "regexp"
  | .operator text => text
  | .finish => "EOF"
  | .malformed => "unknown"

/-! ## Words with a meaning -/

/-- The words that never name anything. -/
def reservedWords : List String :=
  ["break", "case", "catch", "class", "const", "continue", "debugger", "default", "delete", "do",
   "else", "enum", "export", "extends", "false", "finally", "for", "function", "if", "import",
   "in", "instanceof", "new", "null", "return", "super", "switch", "this", "throw", "true", "try",
   "typeof", "var", "void", "while", "with"]

/-- The words that name things in some places and mean something in others. -/
def contextualWords : List String :=
  ["abstract", "accessor", "any", "as", "assert", "asserts", "async", "await", "bigint", "boolean",
   "constructor", "declare", "defer", "from", "get", "global", "implements", "infer", "interface",
   "intrinsic", "is", "keyof", "let", "meta", "module", "namespace", "never", "number", "object",
   "of", "out", "override", "package", "private", "protected", "public", "readonly", "require",
   "satisfies", "set", "source", "static", "string", "symbol", "target", "type", "undefined",
   "unique", "unknown", "using", "yield"]

/-- The words that strict code sets aside. -/
def strictWords : List String :=
  ["implements", "interface", "let", "package", "private", "protected", "public", "static", "yield"]

/-- The word never names anything. -/
def isReserved (word : String) : Bool := reservedWords.contains word

/-- The word has a meaning somewhere. -/
def isKeyword (word : String) : Bool := isReserved word || contextualWords.contains word

/-- The token is a name or a keyword. -/
def Token.isWord (t : Token) : Bool :=
  match t.lexeme with
  | .word _ _ => true
  | _ => false

/-- The token can name something: it is a word and not a reserved one. -/
def Token.isName (t : Token) : Bool :=
  match t.lexeme with
  | .word name _ => !isReserved name
  | _ => false

/-- The token is a keyword written with an escape. -/
def Token.isEscapedKeyword (t : Token) : Bool :=
  match t.lexeme with
  | .word name escaped => escaped && isKeyword name
  | _ => false

/-- The token is a string. -/
def Token.isString (t : Token) : Bool :=
  match t.lexeme with
  | .string _ => true
  | _ => false

/-- The token is a number of either kind. -/
def Token.isNumeric (t : Token) : Bool :=
  match t.lexeme with
  | .number | .bigInteger => true
  | _ => false

/-- The token begins a template. -/
def Token.isTemplate (t : Token) : Bool :=
  match t.lexeme with
  | .template _ _ => true
  | _ => false

/-- The token is a name that begins with `#`. -/
def Token.isPrivateName (t : Token) : Bool :=
  match t.lexeme with
  | .privateName _ => true
  | _ => false

/-- No token follows, or none that can be read. -/
def Token.isDead (t : Token) : Bool :=
  match t.lexeme with
  | .finish | .malformed => true
  | _ => false

end Script
end CommandGrove
