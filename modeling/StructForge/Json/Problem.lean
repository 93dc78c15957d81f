import StructForge.Text.Figures

/-!
# What can be wrong with a JSON text

A *syntax error* is a problem at a place, which its message gives as line, column and offset. Two values that JSON
has no text for, numbers that are too long and documents that are too deep are refused without a place.
-/

namespace StructForge.Json

/-- What is wrong at a place of a text. -/
inductive Problem where
  | expectedValue
  | expectedName
  | expectedColon
  | expectedComma
  | unterminatedString
  | controlCharacter
  | unknownEscape
  | badUnicodeEscape
  | extraData
  | byteOrderMark
  deriving DecidableEq

/-- The description of a problem. -/
def Problem.message : Problem → Text
  | .expectedValue => "Expecting value"
  | .expectedName => "Expecting property name enclosed in double quotes"
  | .expectedColon => "Expecting ':' delimiter"
  | .expectedComma => "Expecting ',' delimiter"
  | .unterminatedString => "Unterminated string starting at"
  | .controlCharacter => "Invalid control character at"
  | .unknownEscape => "Invalid \\escape"
  | .badUnicodeEscape => "Invalid \\uXXXX escape"
  | .extraData => "Extra data"
  | .byteOrderMark => "Unexpected UTF-8 BOM (decode using utf-8-sig)"

/-- A place in a text: characters in front of it, and its line and column, which count from 1. -/
structure Place where
  offset : Nat
  line : Nat
  column : Nat
  deriving DecidableEq

/-- The place behind some characters of a text. -/
def Place.at (t : Text) (offset : Nat) : Place :=
  let front := t.take offset
  ⟨offset, front.count '\n' + 1, (front.reverse.takeWhile (· ≠ '\n')).length + 1⟩

/-- Why a text is refused. -/
inductive ReadError where
  | syntaxError (problem : Problem) (place : Place)
  | constant (name : Text)
  | tooLong (error : Text.TooLong)
  | tooDeep
  deriving DecidableEq

/-- The complaint about a text. -/
def ReadError.message : ReadError → Text
  | .syntaxError problem place =>
    problem.message ++ ": line " ++ Text.ofNat place.line ++ " column " ++ Text.ofNat place.column ++ " (char " ++
      Text.ofNat place.offset ++ ")"
  | .constant name => "Non-standard JSON constant: " ++ name
  | .tooLong error => error.message
  | .tooDeep => "JSON nesting too deep"

end StructForge.Json
