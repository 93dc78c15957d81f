import StructForge.Text.Figures

/-!
# YAML scalars

A text is written without quotes if it can be read back as that text: it must not look like a value of another type,
and not contain what has a meaning in YAML. Otherwise it is put in single quotes or, with characters that need an
escape, in double quotes. Long texts are folded at single spaces once a line has passed `lineWidth`.

`style` decides, and `render` writes a text that starts in a column and goes on at an indentation.
-/

namespace StructForge.Yaml

open Text

/-! ## Texts that look like other values -/

/-- The words for truth values, nothing, merging and defaults. -/
def reservedWords : List Text :=
  ["yes", "Yes", "YES", "no", "No", "NO", "true", "True", "TRUE", "false", "False", "FALSE", "on", "On", "ON",
   "off", "Off", "OFF", "~", "null", "Null", "NULL", "", "<<", "="]

/-- A decimal digit or an underscore between digits. -/
def isSpacedDigit (c : Char) : Bool := c.isDigit || c = '_'

/-- The text without a sign in front. -/
def dropSign : Text → Text
  | '+' :: t => t
  | '-' :: t => t
  | t => t

/-- Whether the text is not empty and all its characters satisfy `p`. -/
def isRun (p : Char → Bool) (t : Text) : Bool := !t.isEmpty && t.all p

/-- Whether the text is `0` to `59`, as a part of a number in base 60. -/
def isSixtieth : Text → Bool
  | [c] => c.isDigit
  | [c, d] => '0' ≤ c && c ≤ '5' && d.isDigit
  | _ => false

/-- Whether the text is a first part with digits and more parts in base 60. -/
def isSexagesimal (isFirst : Char → Bool) (t : Text) : Bool :=
  match splitOn ':' t with
  | (c :: digits) :: part :: parts => isFirst c && digits.all isSpacedDigit && (part :: parts).all isSixtieth
  | _ => false

/-- A digit other than zero. -/
def isPositiveDigit (c : Char) : Bool := '1' ≤ c && c ≤ '9'

/-- Whether the text looks like a whole number. -/
def isInteger (t : Text) : Bool :=
  let unsigned := dropSign t
  match unsigned with
  | ['0'] => true
  | '0' :: 'b' :: digits => isRun (fun c => c = '0' || c = '1' || c = '_') digits
  | '0' :: 'x' :: digits =>
    isRun (fun c => isSpacedDigit c || ('a' ≤ c && c ≤ 'f') || ('A' ≤ c && c ≤ 'F')) digits
  | '0' :: digits => isRun (fun c => ('0' ≤ c && c ≤ '7') || c = '_') digits
  | c :: digits => (isPositiveDigit c && digits.all isSpacedDigit) || isSexagesimal isPositiveDigit unsigned
  | [] => false

/-- Whether the text is empty or a signed exponent. -/
def isExponent : Text → Bool
  | [] => true
  | e :: sign :: digits => (e = 'e' || e = 'E') && (sign = '+' || sign = '-') && isRun Char.isDigit digits
  | _ => false

/-- Whether the text looks like a number with a point. -/
def isFraction (t : Text) : Bool :=
  let unsigned := dropSign t
  let whole := unsigned.takeWhile (· ≠ '.')
  match unsigned.dropWhile (· ≠ '.') with
  | [] => false
  | _ :: behind =>
    let power := behind.dropWhile isSpacedDigit
    match whole with
    | [] =>
      let special : List Text := ["inf", "Inf", "INF"]
      let nan : List Text := ["nan", "NaN", "NAN"]
      special.contains behind ||
        (t.length = unsigned.length &&
          (nan.contains behind || ((behind.take 1).any Char.isDigit && isExponent power)))
    | c :: digits =>
      (c.isDigit && digits.all isSpacedDigit && isExponent power) ||
        (isSexagesimal Char.isDigit whole && power.isEmpty)

/-- What follows one digit, or two if the second is one. -/
def skipOneOrTwoDigits? : Text → Option Text
  | c :: d :: t => if c.isDigit then some (if d.isDigit then t else d :: t) else none
  | [c] => if c.isDigit then some [] else none
  | [] => none

/-- What follows some digits. -/
def skipDigits? : (count : Nat) → Text → Option Text
  | 0, t => some t
  | count + 1, c :: t => if c.isDigit then skipDigits? count t else none
  | _ + 1, [] => none

/-- Whether the text is a date. -/
def isDate (t : Text) : Bool :=
  (do skipDigits? 2 (← afterPrefix? "-" (← skipDigits? 2 (← afterPrefix? "-" (← skipDigits? 4 t))))) = some []

/-- White space within a line. -/
def isSpaceOrTab (c : Char) : Bool := c = ' ' || c = '\t'

/-- Whether the text is a time zone, with white space in front, or empty. -/
def isZone (t : Text) : Bool :=
  t.isEmpty ||
    match t.dropWhile isSpaceOrTab with
    | ['Z'] => true
    | sign :: digits =>
      (sign = '+' || sign = '-') &&
        match skipOneOrTwoDigits? digits with
        | some [] => true
        | some (':' :: minutes) => skipDigits? 2 minutes = some []
        | _ => false
    | [] => false

/-- What follows the letter or white space between a date and a time. -/
def skipDateEnd? : Text → Option Text
  | c :: t =>
    if c = 'T' || c = 't' then some t else if isSpaceOrTab c then some (t.dropWhile isSpaceOrTab) else none
  | [] => none

/-- What follows a fraction of a second, if there is one. -/
def skipFraction : Text → Text
  | '.' :: t => t.dropWhile Char.isDigit
  | t => t

/-- Whether the text is a date with a time. -/
def isMoment (t : Text) : Bool :=
  let behindSeconds? : Option Text := do
    let behindYear ← skipDigits? 4 t
    let behindMonth ← skipOneOrTwoDigits? (← afterPrefix? "-" behindYear)
    let behindDay ← skipOneOrTwoDigits? (← afterPrefix? "-" behindMonth)
    let behindHour ← skipOneOrTwoDigits? (← skipDateEnd? behindDay)
    let behindMinute ← skipDigits? 2 (← afterPrefix? ":" behindHour)
    skipDigits? 2 (← afterPrefix? ":" behindMinute)
  match behindSeconds? with
  | some rest => isZone (skipFraction rest)
  | none => false

/-- Whether the text would be read as a value of another type. -/
def looksTyped (t : Text) : Bool := reservedWords.contains t || isInteger t || isFraction t || isDate t || isMoment t

/-! ## What a text contains -/

/-- The characters that end a line. -/
def isBreak (c : Char) : Bool := c = '\n' || c.toNat = 0x85 || c.toNat = 0x2028 || c.toNat = 0x2029

/-- The characters that separate, and the end of a text. -/
def isSeparator (c : Char) : Bool := isBreak c || c = ' ' || c = '\t' || c = '\r' || c.toNat = 0

/-- Whether the text starts with a separator or is empty. -/
def startsSeparated : Text → Bool
  | [] => true
  | c :: _ => isSeparator c

/-- The characters that mean something at the start of a text. -/
def isLeadingIndicator (c : Char) : Bool :=
  c = '#' || c = ',' || c = '[' || c = ']' || c = '\x7b' || c = '\x7d' || c = '&' || c = '*' || c = '!' ||
    c = '|' || c = '>' || c = '\'' || c = '"' || c = '%' || c = '@' || c = '\x60'

/-- Whether the start of a text means something in a block. -/
def hasLeadingIndicator : Text → Bool
  | [] => false
  | c :: t => isLeadingIndicator c || ((c = '?' || c = ':' || c = '-') && startsSeparated t)

/-- Whether a colon before white space or a hash behind white space stands in a text, where `separated` tells of
white space in front. -/
def hasInnerIndicator (separated : Bool) : Text → Bool
  | [] => false
  | c :: t => (c = ':' && startsSeparated t) || (c = '#' && separated) || hasInnerIndicator (isSeparator c) t

/-- Whether the text, without its quotes, means something in a block. -/
def hasIndicators (t : Text) : Bool :=
  startsWith t "---" || startsWith t "..." || hasLeadingIndicator t ||
    match t with
    | [] => false
    | c :: rest => hasInnerIndicator (isSeparator c) rest

/-- The characters that can only be written as an escape. -/
def isSpecial (c : Char) : Bool :=
  let n := c.toNat
  let isPlain := c = '\n' || (0x20 ≤ n && n ≤ 0x7E) || n = 0x85 || (0xA0 ≤ n && n ≤ 0xD7FF) ||
    (0xE000 ≤ n && n ≤ 0xFFFD && n ≠ 0xFEFF) || (0x10000 ≤ n && n < 0x10FFFF)
  !isPlain

/-- Whether a character that satisfies `p` stands right in front of one that satisfies `q`. -/
def hasPair (p q : Char → Bool) : Text → Bool
  | c :: d :: t => (p c && q d) || hasPair p q (d :: t)
  | _ => false

/-- Whether the text starts or ends with a space or line end. -/
def hasLooseEnds (t : Text) : Bool :=
  let isLoose (c : Char) : Bool := c = ' ' || isBreak c
  t.head?.any isLoose || t.getLast?.any isLoose

/-! ## Styles -/

/-- The ways to write a text. -/
inductive Style where
  | plain
  | singleQuoted
  | doubleQuoted
  deriving DecidableEq

/-- Whether the text needs no escapes: it has no special characters, and spaces and line ends do not meet. -/
def needsNoEscapes (t : Text) : Bool :=
  !t.any isSpecial && !hasPair (· = ' ') isBreak t && !hasPair isBreak (· = ' ') t

/-- The way in which a text is written. -/
def style (t : Text) : Style :=
  if !needsNoEscapes t then .doubleQuoted
  else if looksTyped t || hasLooseEnds t || t.any isBreak || hasIndicators t then .singleQuoted
  else .plain

/-! ## Writing -/

/-- The width behind which a line is folded. -/
def lineWidth : Nat := 80

/-- A line end and the indentation of the next line. -/
def newLine (indent : Nat) : Text := '\n' :: List.replicate indent ' '

/-- Writes a text without quotes from a column on; `behindSpace` tells of a space in front. -/
def plainFrom (indent : Nat) : (behindSpace : Bool) → (column : Nat) → Text → Text
  | _, _, [] => []
  | behindSpace, column, c :: t =>
    if c = ' ' && !behindSpace && t.head?.any (· ≠ ' ') && column > lineWidth then
      newLine indent ++ plainFrom indent true indent t
    else c :: plainFrom indent (c = ' ') (column + 1) t

/-- The breaks at the start of a text, as they are written between single quotes, where the first newline is
written twice. -/
def singleBreaks (indent : Nat) (breaks : Text) : Text :=
  (if breaks.head? = some '\n' then ['\n'] else []) ++ breaks ++ List.replicate indent ' '

/-- Writes a text in single quotes from a column on. A run of line ends is written at its first, and `before` is the
character in front. -/
def singleFrom (indent : Nat) : (before : Option Char) → (column : Nat) → Text → Text
  | _, _, [] => []
  | before, column, c :: t =>
    if c = '\'' then '\'' :: '\'' :: singleFrom indent (some c) (column + 2) t
    else if isBreak c then
      if before.any isBreak then singleFrom indent (some c) indent t
      else singleBreaks indent (c :: t.takeWhile isBreak) ++ singleFrom indent (some c) indent t
    else if c = ' ' && before.any (· ≠ ' ') && t.head?.any (· ≠ ' ') && column > lineWidth then
      newLine indent ++ singleFrom indent (some c) indent t
    else c :: singleFrom indent (some c) (column + 1) t

/-- At least `width` hexadecimal digits, in capitals. -/
def capitalHex (width n : Nat) : Text := (hex width n).map Char.toUpper

/-- The letters for some characters behind a backslash. -/
def escapeLetters : List (Nat × Char) :=
  [(0x0, '0'), (0x7, 'a'), (0x8, 'b'), (0x9, 't'), (0xA, 'n'), (0xB, 'v'), (0xC, 'f'), (0xD, 'r'), (0x1B, 'e'),
   (0x22, '"'), (0x5C, '\\'), (0x85, 'N'), (0xA0, '_'), (0x2028, 'L'), (0x2029, 'P')]

/-- Whether a character is escaped between double quotes. -/
def isEscaped (c : Char) : Bool :=
  let n := c.toNat
  let isPlain := (0x20 ≤ n && n ≤ 0x7E) || (0xA0 ≤ n && n ≤ 0xD7FF) || (0xE000 ≤ n && n ≤ 0xFFFD)
  c = '"' || c = '\\' || n = 0x2028 || n = 0x2029 || n = 0xFEFF || !isPlain

/-- A character as an escape. -/
def escape (c : Char) : Text :=
  let n := c.toNat
  match escapeLetters.lookup n with
  | some letter => ['\\', letter]
  | none =>
    if n ≤ 0xFF then "\\x" ++ capitalHex 2 n
    else if n ≤ 0xFFFF then "\\u" ++ capitalHex 4 n
    else "\\U" ++ capitalHex 8 n

/-- A fold between double quotes, in front of a character that must not get lost if it is a space. -/
def fold (indent : Nat) (next : Option Char) : Text :=
  "\\" ++ newLine indent ++ (if next = some ' ' then ['\\'] else [])

/-- Writes a text in double quotes. `pending` was read and is not written yet, `column` is where it starts; `first`
tells whether nothing was read before. -/
def doubleFrom (indent : Nat) : (first : Bool) → (column : Nat) → (pending : Text) → Text → Text
  | _, _, pending, [] => pending
  | first, column, pending, c :: t =>
    let behindFold (next : Option Char) : Nat := if next = some ' ' then indent + 1 else indent
    if isEscaped c then
      let written := pending ++ escape c
      if !first && !t.isEmpty && column + written.length > lineWidth + 1 then
        written ++ fold indent t.head? ++ doubleFrom indent false (behindFold t.head?) [] t
      else written ++ doubleFrom indent false (column + written.length) [] t
    else if !first && !t.isEmpty && (c = ' ' || pending.isEmpty) && column + pending.length > lineWidth then
      pending ++ fold indent (some c) ++ doubleFrom indent false (behindFold (some c)) [c] t
    else doubleFrom indent false column (pending ++ [c]) t

/-- A text that starts in a column and goes on at an indentation. -/
def render (indent column : Nat) (t : Text) : Text :=
  match style t with
  | .plain => plainFrom indent false column t
  | .singleQuoted => "'" ++ singleFrom indent none (column + 1) t ++ "'"
  | .doubleQuoted => "\"" ++ doubleFrom indent true (column + 1) [] t ++ "\""

end StructForge.Yaml
