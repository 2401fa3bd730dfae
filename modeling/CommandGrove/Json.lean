import CommandGrove.Text.Quoted

/-!
# JSON documents

## What is here

* `Json` — a document; the members of an object keep their order.
* `Json.pretty` — its text, with a line for every element and two spaces for every level.
-/

set_option autoImplicit false
namespace CommandGrove

/-- A JSON document. -/
inductive Json where
  | null
  | bool (value : Bool)
  | number (value : Nat)
  | string (value : String)
  | array (elements : List Json)
  | object (members : List (String × Json))

namespace Json

/-- A document that may be left out. -/
def ofOption {α : Type} (encode : α → Json) : Option α → Json
  | some value => encode value
  | none => null

/-- The elements of a list. -/
def ofList {α : Type} (encode : α → Json) (values : List α) : Json := array (values.map encode)

/-- The characters at the front of a line at some level. -/
def indent (level : Nat) : List Char := List.replicate (2 * level) ' '

/-- Lines in brackets; without any line the brackets stand side by side. -/
def bracketed (opening closing : Char) (level : Nat) (lines : List (List Char)) : List Char :=
  match lines with
  | [] => [opening, closing]
  | first :: others =>
    let inner := indent (level + 1)
    [opening, '\n'] ++ inner ++ first ++
      others.flatMap (fun line => [',', '\n'] ++ inner ++ line) ++
      '\n' :: indent level ++ [closing]

mutual

/-- The characters of a document whose first line is at some level. -/
def chars (level : Nat) : Json → List Char
  | null => "null".toList
  | bool value => (if value then "true" else "false").toList
  | number value => (toString value).toList
  | string value => Text.quote value.toList
  | array elements => bracketed '[' ']' level (elementLines (level + 1) elements)
  | object members =>
    bracketed (Char.ofNat 123) (Char.ofNat 125) level (memberLines (level + 1) members)

/-- The characters of each element of an array. -/
def elementLines (level : Nat) : List Json → List (List Char)
  | [] => []
  | e :: rest => chars level e :: elementLines level rest

/-- The characters of each member of an object. -/
def memberLines (level : Nat) : List (String × Json) → List (List Char)
  | [] => []
  | m :: rest => (Text.quote m.1.toList ++ [':', ' '] ++ chars level m.2) :: memberLines level rest

end

/-- The text of a document. -/
def pretty (j : Json) : String := String.ofList (chars 0 j)

end Json
end CommandGrove
