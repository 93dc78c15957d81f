import StructForge.Json.Problem
import StructForge.Json.Value

/-!
# Reading JSON

A strict reader: white space is space, tab, line feed and carriage return, and there are no comments, trailing
commas or unquoted keys. `NaN` and the infinities are recognised and refused. A *cursor* is a place in the text
with what follows it; each reader takes a cursor and gives the value it found with the cursor behind it.

The reader has two limits. `read` refuses documents nested more than `maxDepth` deep as soon as it gets that deep, as
other work on nested things has its limits (`Go.maxInlineDepth`, `Sql.maxArrayDepth`). And a `Text` has no half of a
character alone, but a replacement in its place (`joinHalves`): keys of an object that differ in nothing but such halves
are two keys of the document, and one key of what is read.
-/

namespace StructForge.Json

open Text

/-- How deep a document may be nested. -/
def maxDepth : Nat := 990

/-- What follows a place of a text, and the number of characters in front of it. -/
structure Cursor where
  offset : Nat
  rest : Text

/-- A refusal while reading, which knows its place only as an offset. -/
inductive Refusal where
  | at (problem : Problem) (offset : Nat)
  | constant (name : Text)
  | tooLong (error : TooLong)
  | tooDeep
  deriving DecidableEq

namespace Cursor

/-- The cursor some characters further on. -/
def advance (c : Cursor) (n : Nat) : Cursor := ⟨c.offset + n, c.rest.drop n⟩

/-- White space between the parts of a document. -/
def isSpace (c : Char) : Bool := c = ' ' || c = '\t' || c = '\n' || c = '\r'

/-- The cursor behind white space. -/
def skipSpace (c : Cursor) : Cursor := c.advance (c.rest.takeWhile isSpace).length

/-- Whether the character comes next. -/
def sees (c : Cursor) (char : Char) : Bool := c.rest.head? == some char

end Cursor

/-! ## Strings -/

/-- The character that a letter behind a backslash stands for. -/
def escaped? : Char → Option Char
  | '"' => some '"'
  | '\\' => some '\\'
  | '/' => some '/'
  | 'b' => some '\x08'
  | 'f' => some '\x0c'
  | 'n' => some '\n'
  | 'r' => some '\r'
  | 't' => some '\t'
  | _ => none

/-- Reads up to the closing quote of a string that opened at `start`, as code points; escapes may give halves of
characters. A numeric escape needs one more character behind its digits. -/
def readCodePoints (start : Nat) : (offset : Nat) → Text → Except Refusal (List Nat × Cursor)
  | _, [] => .error (.at .unterminatedString start)
  | offset, '"' :: t => .ok ([], ⟨offset + 1, t⟩)
  | _, ['\\'] => .error (.at .unterminatedString start)
  | offset, '\\' :: 'u' :: a :: b :: c :: d :: e :: t => do
    let some n := hexValue? [a, b, c, d] | .error (.at .badUnicodeEscape (offset + 1))
    let (rest, behind) ← readCodePoints start (offset + 6) (e :: t)
    return (n :: rest, behind)
  | offset, '\\' :: 'u' :: _ => .error (.at .badUnicodeEscape (offset + 1))
  | offset, '\\' :: c :: t => do
    let some char := escaped? c | .error (.at .unknownEscape offset)
    let (rest, behind) ← readCodePoints start (offset + 2) t
    return (char.toNat :: rest, behind)
  | offset, c :: t =>
    if c.toNat < 0x20 then .error (.at .controlCharacter offset)
    else do
      let (rest, behind) ← readCodePoints start (offset + 1) t
      return (c.toNat :: rest, behind)

/-- The first half of a character beyond the basic plane. -/
def isHighHalf (n : Nat) : Bool := 0xD800 ≤ n && n ≤ 0xDBFF

/-- The second half of a character beyond the basic plane. -/
def isLowHalf (n : Nat) : Bool := 0xDC00 ≤ n && n ≤ 0xDFFF

/-- The characters of some code points. Two halves make one character, and a half alone is replaced, whichever it is. -/
def joinHalves : List Nat → Text
  | [] => []
  | [n] => [if isHighHalf n || isLowHalf n then Char.ofNat 0xFFFD else Char.ofNat n]
  | m :: n :: t =>
    if isHighHalf m && isLowHalf n then Char.ofNat (0x10000 + (m - 0xD800) * 0x400 + (n - 0xDC00)) :: joinHalves t
    else (if isHighHalf m || isLowHalf m then Char.ofNat 0xFFFD else Char.ofNat m) :: joinHalves (n :: t)

/-- Reads a string behind its opening quote. -/
def readString (c : Cursor) : Except Refusal (Text × Cursor) := do
  let (codePoints, behind) ← readCodePoints (c.offset - 1) c.offset c.rest
  return (joinHalves codePoints, behind)

/-! ## Numbers -/

/-- The whole part of a number: `0`, or digits that do not start with one. -/
def wholeDigits (t : Text) : Text :=
  match t with
  | '0' :: _ => ['0']
  | _ => t.takeWhile Char.isDigit

/-- The digits behind a point at the start of a text. -/
def fractionDigits (t : Text) : Text :=
  match t with
  | '.' :: t => t.takeWhile Char.isDigit
  | _ => []

/-- The length of the exponent at the start of a text and its value; no length without digits. -/
def readExponent (t : Text) : Nat × Int :=
  match t with
  | e :: t =>
    if e = 'e' || e = 'E' then
      let (signLength, negative) :=
        match t with
        | '-' :: _ => (1, true)
        | '+' :: _ => (1, false)
        | _ => (0, false)
      let digits := (t.drop signLength).takeWhile Char.isDigit
      if digits.isEmpty then (0, 0)
      else (1 + signLength + digits.length, if negative then -decimalValue digits else decimalValue digits)
    else (0, 0)
  | [] => (0, 0)

/-- Reads a number. -/
def readNumber (c : Cursor) : Except Refusal (Json × Cursor) :=
  let negative := c.sees '-'
  let signLength := if negative then 1 else 0
  let whole := wholeDigits (c.rest.drop signLength)
  if whole.isEmpty then .error (.at .expectedValue c.offset)
  else
    let behindWhole := c.advance (signLength + whole.length)
    let fraction := fractionDigits behindWhole.rest
    let behindFraction := behindWhole.advance (if fraction.isEmpty then 0 else 1 + fraction.length)
    let (exponentLength, exponent) := readExponent behindFraction.rest
    if fraction.isEmpty && exponentLength = 0 then
      if whole.length > maxDigits then .error (.tooLong (.read whole.length))
      else
        let value := decimalValue whole
        .ok (.int (if negative then -(value : Int) else value), behindWhole)
    else
      .ok (.float (.ofDecimal negative (decimalValue (whole ++ fraction)) (exponent - fraction.length)),
        behindFraction.advance exponentLength)

/-! ## Values -/

/-- The words that are values or refused. -/
def constants : List (Text × Except Refusal Json) :=
  [("null", .ok .null), ("true", .ok (.bool true)), ("false", .ok (.bool false)),
   ("NaN", .error (.constant "NaN")), ("Infinity", .error (.constant "Infinity")),
   ("-Infinity", .error (.constant "-Infinity"))]

/-- Reads a value that holds no others. -/
def readScalar (c : Cursor) : Except Refusal (Json × Cursor) :=
  if c.sees '"' then (readString (c.advance 1)).map fun (s, behind) => (.string s, behind)
  else
    match constants.find? (startsWith c.rest ·.1) with
    | some (word, value) => value.map (·, c.advance word.length)
    | none => readNumber c

/-- Reads elements up to the closing bracket, where `readElement` reads one of them; at most `fuel` of them. -/
def readElements (readElement : Cursor → Except Refusal (Json × Cursor)) :
    (fuel : Nat) → Cursor → Except Refusal (List Json × Cursor)
  | 0, c => .error (.at .expectedValue c.offset)
  | fuel + 1, c => do
    let (element, behind) ← readElement c
    let behind := behind.skipSpace
    if behind.sees ']' then return ([element], behind.advance 1)
    else if behind.sees ',' then
      let (rest, behind) ← readElements readElement fuel (behind.advance 1).skipSpace
      return (element :: rest, behind)
    else .error (.at .expectedComma behind.offset)

/-- Reads members up to the closing brace into `members`, where `readValue` reads the value of one of them; at most
`fuel` of them. -/
def readMembers (readValue : Cursor → Except Refusal (Json × Cursor)) :
    (fuel : Nat) → List (Text × Json) → Cursor → Except Refusal (List (Text × Json) × Cursor)
  | 0, _, c => .error (.at .expectedName c.offset)
  | fuel + 1, members, c => do
    if !c.sees '"' then .error (.at .expectedName c.offset)
    let (key, behind) ← readString (c.advance 1)
    let behind := behind.skipSpace
    if !behind.sees ':' then .error (.at .expectedColon behind.offset)
    let (value, behind) ← readValue (behind.advance 1).skipSpace
    let behind := behind.skipSpace
    let members := insertMember key value members
    if behind.sees '\x7d' then return (members, behind.advance 1)
    else if behind.sees ',' then readMembers readValue fuel members (behind.advance 1).skipSpace
    else .error (.at .expectedComma behind.offset)

/-- Reads a value in which arrays and objects are nested at most `depth` deep, and have at most `size` elements or
members each. -/
def readValue (size : Nat) : (depth : Nat) → Cursor → Except Refusal (Json × Cursor)
  | 0, c => if c.sees '[' || c.sees '\x7b' then .error .tooDeep else readScalar c
  | depth + 1, c =>
    if c.sees '[' then
      let inside := (c.advance 1).skipSpace
      if inside.sees ']' then .ok (.array [], inside.advance 1)
      else
        (readElements (readValue size depth) size inside).map fun (elements, behind) => (.array elements, behind)
    else if c.sees '\x7b' then
      let inside := (c.advance 1).skipSpace
      if inside.sees '\x7d' then .ok (.object [], inside.advance 1)
      else
        (readMembers (readValue size depth) size [] inside).map fun (members, behind) => (.object members, behind)
    else readScalar c

/-! ## Documents -/

/-- The refusal with its place in the text. -/
def Refusal.toReadError (t : Text) : Refusal → ReadError
  | .at problem offset => .syntaxError problem (Place.at t offset)
  | .constant name => .constant name
  | .tooLong error => .tooLong error
  | .tooDeep => .tooDeep

/-- Reads the value that a text consists of. -/
def readDocument (t : Text) : Except Refusal Json := do
  if t.head? == some '\uFEFF' then .error (.at .byteOrderMark 0)
  let (value, behind) ← readValue t.length maxDepth (Cursor.mk 0 t).skipSpace
  let behind := behind.skipSpace
  if behind.rest.isEmpty then return value else .error (.at .extraData behind.offset)

/-- Reads a JSON text. -/
def read (t : Text) : Except ReadError Json := (readDocument t).mapError (Refusal.toReadError t)

end StructForge.Json
