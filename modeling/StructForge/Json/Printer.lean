import StructForge.Json.Value
import StructForge.Number.Shortest

/-!
# Printing JSON

Values are printed over several lines with two spaces of indentation per level. Characters beyond ASCII stand as
they are; only quotes, backslashes and controls are escaped.
-/

namespace StructForge.Json

open Text

/-- A character as it stands in a string. -/
def escapeChar (c : Char) : Text :=
  match c with
  | '"' => "\\\""
  | '\\' => "\\\\"
  | '\n' => "\\n"
  | '\r' => "\\r"
  | '\t' => "\\t"
  | '\x08' => "\\b"
  | '\x0c' => "\\f"
  | c => if c.toNat < 0x20 then "\\u" ++ hex 4 c.toNat else [c]

/-- A string in quotes. -/
def quoted (t : Text) : Text := "\"" ++ t.flatMap escapeChar ++ "\""

/-- The line break in front of what stands at a level. -/
def newline (level : Nat) : Text := '\n' :: List.replicate (2 * level) ' '

mutual

/-- The text of a value at a level. -/
def print (level : Nat) : Json → Text
  | .null => "null"
  | .bool value => if value then "true" else "false"
  | .int value => ofInt value
  | .float value => value.text
  | .string value => quoted value
  | .array [] => "[]"
  | .array (element :: rest) =>
    "[" ++ newline (level + 1) ++ print (level + 1) element ++ printElements (level + 1) rest ++ newline level ++ "]"
  | .object [] => "\x7b\x7d"
  | .object ((key, value) :: rest) =>
    "\x7b" ++ newline (level + 1) ++ quoted key ++ ": " ++ print (level + 1) value ++
      printMembers (level + 1) rest ++ newline level ++ "\x7d"

/-- The text of the elements behind the first. -/
def printElements (level : Nat) : List Json → Text
  | [] => []
  | element :: rest => "," ++ newline level ++ print level element ++ printElements level rest

/-- The text of the members behind the first. -/
def printMembers (level : Nat) : List (Text × Json) → Text
  | [] => []
  | (key, value) :: rest =>
    "," ++ newline level ++ quoted key ++ ": " ++ print level value ++ printMembers level rest

end

end StructForge.Json
