import CommandGrove.CommandLine

/-!
# Reading command lines

Arguments are read one after the other.  A value that was read is looked at only when the next one
comes or the arguments end: until then it is pending.

## What is here

* `Word` — what an argument looks like.
* `Reading` — what has been given so far.
* `Reading.settle` — takes the pending value into account.
* `Level.read` — reads the arguments in front of a verb, or behind one.
* `CommandLine.ofArguments` — what a list of arguments asks for.
-/

set_option autoImplicit false
namespace CommandGrove

/-! ## Words -/

/-- What an argument looks like. -/
inductive Word where
  /-- `--`: only positions follow. -/
  | escape
  /-- `--name`, or `--name=value`. -/
  | long (name : String) (value : Option String)
  /-- `-abc`. -/
  | letters (letters : List Char)
  | plain
  deriving DecidableEq, Repr

/-- The text up to the first equals sign, and the one behind it if there is one. -/
def cutAtEquals (text : List Char) : String × Option String :=
  let name := text.takeWhile (· != '=')
  match text.dropWhile (· != '=') with
  | [] => (String.ofList name, none)
  | _ :: value => (String.ofList name, some (String.ofList value))

/-- What an argument looks like. -/
def Word.of (argument : String) : Word :=
  match argument.toList with
  | ['-', '-'] => .escape
  | '-' :: '-' :: text =>
    let (name, value) := cutAtEquals text
    .long name value
  | ['-'] => .plain
  | '-' :: text => .letters text
  | _ => .plain

/-! ## What has been given -/

/-- A field that has been read, and its value if it has come. -/
structure Pending where
  field : Field
  value : Option String
  deriving DecidableEq, Repr

/-- What has been given so far. -/
structure Reading where
  /-- The fields that are settled, with their values. -/
  given : List (Field × String)
  /-- The one that is not. -/
  pending : Option Pending
  /-- The number of positions that have been read. -/
  positions : Nat
  deriving DecidableEq, Repr

namespace Reading

/-- Nothing has been read. -/
def start : Reading := ⟨[], none, 0⟩

/-- The value of a field that is settled. -/
def value? (r : Reading) (field : Field) : Option String :=
  (r.given.find? fun g => g.1 == field).map (·.2)

/-- Settles a field with a value: it must be new, and a path must not be empty. -/
def accept (r : Reading) (field : Field) (value : String) : Except CommandLine.Fault Reading :=
  if (r.value? field).isSome then .error .repeated
  else if field.isPath && value.isEmpty then .error .invalidValue
  else .ok { r with given := r.given ++ [(field, value)], pending := none }

/-- Settles what is pending. -/
def settle (r : Reading) : Except CommandLine.Fault Reading :=
  match r.pending with
  | none => .ok r
  | some ⟨_, none⟩ => .error .invalidValue
  | some ⟨field, some value⟩ => r.accept field value

/-- The field whose value has to come next. -/
def awaited? (r : Reading) : Option Field :=
  match r.pending with
  | some ⟨field, none⟩ => some field
  | _ => none

/-- Reads an option that takes no value. -/
def readFlag (r : Reading) (field : Field) : Except CommandLine.Fault Reading := do
  let r ← r.settle
  match field with
  | .help => throw .help
  | .version => throw .version
  | _ => r.accept field ""

/-- Reads an option that takes a value, which stands in the same argument or comes next. -/
def readOption (r : Reading) (field : Field) (value : Option String) :
    Except CommandLine.Fault Reading := do
  let r ← r.settle
  match value with
  | some value => r.accept field value
  | none => return { r with pending := some ⟨field, none⟩ }

/-- Reads a text at the next position. -/
def readPosition (l : Level) (r : Reading) (text : String) : Except CommandLine.Fault Reading :=
  match l.positions[r.positions]? with
  | some field => do
    let r ← r.settle
    return { r with pending := some ⟨field, some text⟩, positions := r.positions + 1 }
  | none => .error (if l = .front then .unknownVerb else .unknownArgument)

/-- Reads the letters of an argument; what follows the letter of an option that takes a value is
its value, with or without an equals sign in front. -/
def readLetters (l : Level) (r : Reading) : List Char → Except CommandLine.Fault Reading
  | [] => .ok r
  | letter :: rest =>
    match l.letter? letter with
    | none => .error .unknownArgument
    | some field =>
      if field.takesValue then
        r.readOption field <|
          match rest with
          | [] => none
          | '=' :: value => some (String.ofList value)
          | value => some (String.ofList value)
      else do
        let r ← r.readFlag field
        readLetters l r rest

/-- Reads an option by its long name. -/
def readLong (l : Level) (r : Reading) (name : String) (value : Option String) :
    Except CommandLine.Fault Reading :=
  match l.long? name with
  | none => .error .unknownArgument
  | some field =>
    if field.takesValue then r.readOption field value
    else if value.isSome then .error .tooManyValues
    else r.readFlag field

/-- Reads an argument that is neither a verb nor `--`. -/
def readArgument (l : Level) (r : Reading) (argument : String) :
    Except CommandLine.Fault Reading :=
  match Word.of argument with
  | .long name value => r.readLong l name value
  | .letters letters => r.readLetters l letters
  | .escape | .plain =>
    match r.awaited? with
    | some field => .ok { r with pending := some ⟨field, some argument⟩ }
    | none => r.readPosition l argument

end Reading

/-! ## Arguments -/

/-- Reads an argument behind `--`: verbs have no meaning there. -/
def Level.readRest (l : Level) (r : Reading) (argument : String) :
    Except CommandLine.Fault Reading :=
  if (l.verb? argument).isSome || l.isHelp argument then .error .unknownArgument
  else r.readPosition l argument

/-- The answer to the words behind the verb for explanations: they name one verb, or nothing. -/
def helpAnswer (words : List String) : CommandLine.Fault :=
  match words with
  | [] => .help
  | [word] => if word == helpName || Verb.all.any (·.name == word) then .help else .unknownVerb
  | _ => .unknownVerb

/-- Reads arguments up to a verb: what was given, and the verb with what follows it. -/
def Level.read (l : Level) (r : Reading) :
    List String → Except CommandLine.Fault (Reading × Option (Verb × List String))
  | [] => .ok (r, none)
  | argument :: rest =>
    match (if r.awaited?.isSome then none else l.verb? argument) with
    | some verb => .ok (r, some (verb, rest))
    | none =>
      if r.awaited?.isNone && l.isHelp argument then .error (helpAnswer rest)
      else if Word.of argument = .escape then (rest.foldlM l.readRest r).map (·, none)
      else do
        let r ← r.readArgument l argument
        l.read r rest

/-- Reads all that stands behind a verb. -/
def Verb.read (verb : Verb) (arguments : List String) : Except CommandLine.Fault Reading := do
  let level := Level.behind verb
  let (r, _) ← level.read .start arguments
  let r ← r.settle
  if level.required.all fun field => (r.value? field).isSome then return r
  else throw .missingArgument

namespace CommandLine

/-- The task that was given behind a verb. -/
def taskOf (verb : Verb) (r : Reading) : Task :=
  let request : Request :=
    ⟨r.value? .entry, r.value? .baseDir, r.value? .name⟩
  match verb with
  | .build => .build request
  | .watch => .watch ((r.value? .glob).getD "") request
  | .generate => .generate request (r.value? .out) (r.value? .json).isSome

/-- What a list of arguments asks for.  The bundler can also be named by the environment; what is
given behind the verb counts more than what is given in front of it, and both count more than the
environment. -/
def ofArguments (environment : Option String) (arguments : List String) :
    Except Fault CommandLine := do
  let (front, verb?) ← Level.front.read .start arguments
  match verb? with
  | none =>
    let front ← front.settle
    throw (if front.given.isEmpty && environment.isNone then .nothingGiven else .missingVerb)
  | some (verb, rest) =>
    let behind ← verb.read rest
    let front ← front.settle
    let named (field : Field) : Option String := (behind.value? field).or (front.value? field)
    return { task := taskOf verb behind
             bundler := ((named .bundler).or environment).getD defaultBundler
             logLevel := (named .logLevel).getD defaultLogLevel }

end CommandLine
end CommandGrove
