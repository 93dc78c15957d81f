import StructForge.Json.Printer
import StructForge.Yaml.Scalar

/-!
# Printing YAML

Values are printed in block style: members of objects and elements of arrays each start a line, arrays in objects
are not indented further, and empty ones are written in brackets.
-/

namespace StructForge.Yaml

open Text

/-- Spaces. -/
def spaces (n : Nat) : Text := List.replicate n ' '

/-- The text of a value that holds no others, or none at all, from a column on. -/
def scalarText (indent column : Nat) : Json → Text
  | .null => "null"
  | .bool value => if value then "true" else "false"
  | .int value => ofInt value
  | .float value => value.text
  | .string value => render indent column value
  | .array _ => "[]"
  | .object _ => "\x7b\x7d"

mutual

/-- What is written behind the colon of a member that starts at an indentation; the colon stands before `column`. -/
def memberValue (indent column : Nat) : Json → Text
  | .array (element :: rest) => "\n" ++ elements indent (element :: rest)
  | .object (member :: rest) => "\n" ++ members (indent + 2) true (member :: rest)
  | value => " " ++ scalarText (indent + 2) (column + 1) value ++ "\n"

/-- The members of an object at an indentation, which the first of them needs only if asked for. -/
def members (indent : Nat) (indentFirst : Bool) : List (Text × Json) → Text
  | [] => []
  | (key, value) :: rest =>
    (if indentFirst then spaces indent else []) ++ key ++ ":" ++
      memberValue indent (indent + key.length + 1) value ++ members indent true rest

/-- What is written behind the dash of an element that starts at an indentation. -/
def elementValue (indent : Nat) : Json → Text
  | .array (element :: rest) => "\n" ++ elements (indent + 2) (element :: rest)
  | .object (member :: rest) => " " ++ members (indent + 2) false (member :: rest)
  | value => " " ++ scalarText (indent + 2) (indent + 2) value ++ "\n"

/-- The elements of an array at an indentation. -/
def elements (indent : Nat) : List Json → Text
  | [] => []
  | element :: rest => spaces indent ++ "-" ++ elementValue indent element ++ elements indent rest

end

/-- The text of a value as a document. -/
def document : Json → Text
  | .array (element :: rest) => elements 0 (element :: rest)
  | .object (member :: rest) => members 0 true (member :: rest)
  | value => scalarText 2 0 value ++ "\n"

end StructForge.Yaml
