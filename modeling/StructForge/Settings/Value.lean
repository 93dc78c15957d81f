import StructForge.Json.Value
import StructForge.Number.Shortest
import StructForge.Settings.Calendar
import StructForge.Text.Quoted

/-!
# Values of settings

What a setting can be given as, in a file or by a program. A value is shown inside messages in the notation of
`shown`, and as the name of a setting in that of `label`. `obstacle?` says of which values no message can be made: those
with more than `maxLevels` levels, and those with a number of more than `maxDigits` digits.
-/

namespace StructForge.Settings

open Text

/-- A value that a setting is given. -/
inductive Value where
  | null
  | bool (value : Bool)
  | int (value : Int)
  | float (value : Number.Double)
  | string (value : Text)
  | date (value : Date)
  | time (value : Time)
  | dateTime (value : DateTime)
  | array (elements : List Value)
  | table (entries : List (Text × Value))

namespace Value

mutual

/-- A value inside a message. -/
def shown : Value → Text
  | .null => "None"
  | .bool value => if value then "True" else "False"
  | .int value => ofInt value
  | .float value => value.text
  | .string value => quoted value
  | .date value => value.shown
  | .time value => value.shown
  | .dateTime value => value.shown
  | .array elements => "[" ++ join ", " (shownElements elements) ++ "]"
  | .table entries => "\x7b" ++ join ", " (shownEntries entries) ++ "\x7d"

/-- Some values inside a message. -/
def shownElements : List Value → List Text
  | [] => []
  | element :: rest => shown element :: shownElements rest

/-- Some entries of a table inside a message. -/
def shownEntries : List (Text × Value) → List Text
  | [] => []
  | (key, value) :: rest => (quoted key ++ ": " ++ shown value) :: shownEntries rest

end

/-- What keeps a value from being shown. -/
inductive Obstacle where
  | tooDeep
  | tooLong
  deriving DecidableEq

mutual

/-- What keeps a value from being shown with so many levels of values in each other: the first such level that is too
many, or number that is too long. -/
def obstacleAt? (levels : Nat) (value : Value) : Option Obstacle :=
  match levels, value with
  | 0, _ => some .tooDeep
  | _ + 1, .int value => if isTooLong value then some .tooLong else none
  | levels + 1, .array elements => obstacleInElements? levels elements
  | levels + 1, .table entries => obstacleInEntries? levels entries
  | _ + 1, _ => none

/-- What keeps some values from being shown. -/
def obstacleInElements? (levels : Nat) : List Value → Option Obstacle
  | [] => none
  | element :: rest => (obstacleAt? levels element).or (obstacleInElements? levels rest)

/-- What keeps some entries of a table from being shown. -/
def obstacleInEntries? (levels : Nat) : List (Text × Value) → Option Obstacle
  | [] => none
  | (_, value) :: rest => (obstacleAt? levels value).or (obstacleInEntries? levels rest)

end

/-- How many levels of values in each other a message shows. -/
def maxLevels : Nat := 991

/-- What keeps a value from being shown inside a message. -/
def obstacle? (value : Value) : Option Obstacle := obstacleAt? maxLevels value

/-- A value as the name of a setting: texts, dates and times as they are read, and all else as in a message. -/
def label : Value → Text
  | .string value => value
  | .date value => value.text
  | .time value => value.text
  | .dateTime value => value.text
  | value => shown value

/-- The whole number that a value is equal to. -/
def whole? : Value → Option Int
  | .bool value => some (if value then 1 else 0)
  | .int value => some value
  | .float (.finite negative mantissa exponent) =>
    if (Number.Double.finite negative mantissa exponent).isWhole then
      let size : Nat :=
        match exponent with
        | .ofNat k => mantissa * Nat.pow 2 k
        | .negSucc k => mantissa / Nat.pow 2 (k + 1)
      some (if negative then -(size : Int) else size)
    else none
  | _ => none

/-- Whether two values are the same name. Numbers are compared by their value, truth values being 0 and 1. -/
def sameName (a b : Value) : Bool :=
  match a.whole?, b.whole? with
  | some m, some n => m = n
  | none, none =>
    match a, b with
    | .null, .null => true
    | .float (.finite s m e), .float (.finite s' m' e') => s = s' && m = m' && e = e'
    | .float (.infinite s), .float (.infinite s') => s = s'
    | .string x, .string y => x = y
    | .date x, .date y => x = y
    | .time x, .time y => x = y
    | .dateTime x, .dateTime y => x.isSame y
    | _, _ => false
  | _, _ => false

mutual

/-- The value that a JSON value gives. -/
def ofJson : Json → Value
  | .null => .null
  | .bool value => .bool value
  | .int value => .int value
  | .float value => .float value
  | .string value => .string value
  | .array elements => .array (ofJsonElements elements)
  | .object members => .table (ofJsonMembers members)

/-- The values that some JSON values give. -/
def ofJsonElements : List Json → List Value
  | [] => []
  | element :: rest => ofJson element :: ofJsonElements rest

/-- The entries that some members give. -/
def ofJsonMembers : List (Text × Json) → List (Text × Value)
  | [] => []
  | (key, value) :: rest => (key, ofJson value) :: ofJsonMembers rest

end

end Value

end StructForge.Settings
