import StructForge.Settings.Value

/-!
# Reading the parts of a TOML document

Keys, strings, numbers, dates, arrays and inline tables, each read from the start of a text and given with the rest.
Line ends are newlines here: a carriage return is a control character like any other, and controls other than tab
may stand nowhere.

`Tables` keeps the entries of a table, with those that may not be changed any more; a document and an inline table
are both built with it.
-/

namespace StructForge.Toml

open Text Settings

/-- Why a text is no TOML document. -/
inductive Error where
  | malformed
  | tooLong (error : TooLong)
  | tooDeep
  deriving DecidableEq

/-- The result of reading some part of a text. -/
abbrev Result := Except Error

/-! ## White space and comments -/

/-- White space within a line. -/
def isSpace (c : Char) : Bool := c = ' ' || c = '\t'

/-- Controls, which no text of a document may have; tab is allowed everywhere, the newline in some places. -/
def isControl (c : Char) : Bool := (c.toNat < 0x20 && c ≠ '\t') || c.toNat = 0x7F

/-- What follows the white space within a line. -/
def skipSpace (t : Text) : Text := t.dropWhile isSpace

/-- What follows the comment at the start of a text, if there is one: the rest from its line end. -/
def skipComment (t : Text) : Result Text :=
  match t with
  | '#' :: comment =>
    if (comment.takeWhile (· ≠ '\n')).any isControl then .error .malformed else .ok (comment.dropWhile (· ≠ '\n'))
  | _ => .ok t

/-- What follows white space, line ends and comments, of which at most `fuel` are skipped. -/
def skipLines : (fuel : Nat) → Text → Result Text
  | 0, t => .ok t
  | fuel + 1, t =>
    match t.dropWhile fun c => isSpace c || c = '\n' with
    | '#' :: comment => (skipComment ('#' :: comment)).bind (skipLines fuel)
    | rest => .ok rest

/-- What follows white space, line ends and comments. -/
def skipAll (t : Text) : Result Text := skipLines t.length t

/-! ## Strings -/

/-- The character with some hexadecimal digits, unless it is a surrogate or beyond the last. -/
def charOfHex? (digits : Text) : Option Char := do
  let n ← hexValue? digits
  if n < 0xD800 || (0xE000 ≤ n && n < 0x110000) then some (Char.ofNat n) else none

/-- The character that a letter behind a backslash stands for. -/
def escaped? : Char → Option Char
  | 'b' => some '\x08'
  | 't' => some '\t'
  | 'n' => some '\n'
  | 'f' => some '\x0c'
  | 'r' => some '\r'
  | '"' => some '"'
  | '\\' => some '\\'
  | _ => none

/-- The number of white-space characters that a backslash at a line end takes with it, which is none if there is
more on its line. -/
def joinedSpan (t : Text) : Nat :=
  match skipSpace t with
  | [] => t.length
  | '\n' :: rest => t.length - (rest.dropWhile fun c => isSpace c || c = '\n').length
  | _ => 0

/-- Reads a string in double quotes up to its end, of one quote or, in a string of several lines, of three. The first
`skip` characters do not count. -/
def readBasic (multiLine : Bool) : (skip : Nat) → Text → Result (Text × Text)
  | _, [] => .error .malformed
  | skip + 1, _ :: t => readBasic multiLine skip t
  | 0, '"' :: t =>
    if !multiLine then .ok ([], t)
    else
      match t with
      | '"' :: '"' :: rest => .ok ([], rest)
      | t => (readBasic multiLine 0 t).map fun (s, rest) => ('"' :: s, rest)
  | 0, '\\' :: t =>
    if multiLine && 0 < joinedSpan t then readBasic multiLine (joinedSpan t) t
    else
      match t with
      | [] => .error .malformed
      | 'u' :: digits => readHex 4 digits (readBasic multiLine 5 t)
      | 'U' :: digits => readHex 8 digits (readBasic multiLine 9 t)
      | c :: _ =>
        match escaped? c with
        | some char => (readBasic multiLine 1 t).map fun (s, rest) => (char :: s, rest)
        | none => .error .malformed
  | 0, c :: t =>
    if isControl c && !(multiLine && c = '\n') then .error .malformed
    else (readBasic multiLine 0 t).map fun (s, rest) => (c :: s, rest)
where
  /-- Puts the character with some digits in front of what follows. -/
  readHex (count : Nat) (digits : Text) (behind : Result (Text × Text)) : Result (Text × Text) :=
    match if digits.length < count then none else charOfHex? (digits.take count) with
    | some char => behind.map fun (s, rest) => (char :: s, rest)
    | none => .error .malformed

/-- Reads a string in single quotes behind the first, which has no escapes. -/
def readLiteral (t : Text) : Result (Text × Text) :=
  match t.dropWhile (· ≠ '\'') with
  | [] => .error .malformed
  | _ :: rest =>
    let content := t.takeWhile (· ≠ '\'')
    if content.any isControl then .error .malformed else .ok (content, rest)

/-- Reads a string of several lines in single quotes up to the first three of them. -/
def readLiteralLines : Text → Result (Text × Text)
  | [] => .error .malformed
  | '\'' :: '\'' :: '\'' :: rest => .ok ([], rest)
  | c :: t =>
    if isControl c && c ≠ '\n' then .error .malformed
    else (readLiteralLines t).map fun (s, rest) => (c :: s, rest)

/-- Behind three closing quotes, up to two more belong to the string. -/
def takeExtraQuotes (quote : Char) (s rest : Text) : Text × Text :=
  match rest with
  | a :: b :: more =>
    if a = quote && b = quote then (s ++ [quote, quote], more)
    else if a = quote then (s ++ [quote], b :: more)
    else (s, rest)
  | [a] => if a = quote then (s ++ [quote], []) else (s, rest)
  | [] => (s, [])

/-- The text without the newline it may start with. -/
def skipNewline : Text → Text
  | '\n' :: t => t
  | t => t

/-- Reads a string of any form; none where no quote comes first. -/
def readString? (t : Text) : Option (Result (Text × Text)) :=
  match t with
  | '"' :: '"' :: '"' :: t =>
    some ((readBasic true 0 (skipNewline t)).map fun (s, rest) => takeExtraQuotes '"' s rest)
  | '\'' :: '\'' :: '\'' :: t =>
    some ((readLiteralLines (skipNewline t)).map fun (s, rest) => takeExtraQuotes '\'' s rest)
  | '"' :: t => some (readBasic false 0 t)
  | '\'' :: t => some (readLiteral t)
  | _ => none

/-! ## Keys -/

/-- The characters of keys without quotes. -/
def isBare (c : Char) : Bool :=
  ('a' ≤ c && c ≤ 'z') || ('A' ≤ c && c ≤ 'Z') || ('0' ≤ c && c ≤ '9') || c = '-' || c = '_'

/-- Reads one part of a key. -/
def readKeyPart (t : Text) : Result (Text × Text) :=
  match t with
  | '"' :: t => readBasic false 0 t
  | '\'' :: t => readLiteral t
  | t =>
    match t.takeWhile isBare with
    | [] => .error .malformed
    | part => .ok (part, t.dropWhile isBare)

/-- Reads a key of at most `fuel + 1` parts with dots between them, and the white space behind it. -/
def readKeyParts : (fuel : Nat) → Text → Result (List Text × Text)
  | 0, t => (readKeyPart t).map fun (part, rest) => ([part], skipSpace rest)
  | fuel + 1, t => do
    let (part, rest) ← readKeyPart t
    match skipSpace rest with
    | '.' :: more =>
      let (parts, rest) ← readKeyParts fuel (skipSpace more)
      return (part :: parts, rest)
    | rest => return ([part], rest)

/-- Reads a key, and the white space behind it. -/
def readKey (t : Text) : Result (List Text × Text) := readKeyParts t.length t

/-! ## Dates and times -/

/-- Reads a number of exactly `width` digits between two bounds. -/
def readNumber? (width low high : Nat) (t : Text) : Option (Nat × Text) :=
  let digits := t.take width
  if digits.length = width && digits.all Char.isDigit && low ≤ decimalValue digits && decimalValue digits ≤ high then
    some (decimalValue digits, t.drop width)
  else none

/-- Reads one character. -/
def expect? (c : Char) (t : Text) : Option Text := afterPrefix? [c] t

/-- Reads a date, which need not be in the calendar. -/
def readDate? (t : Text) : Option (Date × Text) := do
  let (year, t) ← readNumber? 4 0 9999 t
  let (month, t) ← readNumber? 2 1 12 (← expect? '-' t)
  let (day, t) ← readNumber? 2 1 31 (← expect? '-' t)
  return (⟨year, month, day⟩, t)

/-- Reads the fraction of a second as microseconds; further digits are read and dropped. -/
def readFraction (t : Text) : Nat × Text :=
  match t with
  | '.' :: more =>
    match (more.takeWhile Char.isDigit).take 6 with
    | [] => (0, t)
    | digits => (decimalValue digits * Nat.pow 10 (6 - digits.length), more.dropWhile Char.isDigit)
  | _ => (0, t)

/-- Reads a time of a day. -/
def readTime? (t : Text) : Option (Time × Text) := do
  let (hour, t) ← readNumber? 2 0 23 t
  let (minute, t) ← readNumber? 2 0 59 (← expect? ':' t)
  let (second, t) ← readNumber? 2 0 59 (← expect? ':' t)
  let (microsecond, t) := readFraction t
  return (⟨hour, minute, second, microsecond⟩, t)

/-- Reads an offset from universal time, if there is one. -/
def readOffset (t : Text) : Option Int × Text :=
  let signed (sign : Int) (t more : Text) : Option Int × Text :=
    match (do
      let (hour, t) ← readNumber? 2 0 23 more
      let (minute, t) ← readNumber? 2 0 59 (← expect? ':' t)
      return (hour * 60 + minute, t) : Option (Nat × Text)) with
    | some (minutes, rest) => (some (sign * minutes), rest)
    | none => (none, t)
  match t with
  | 'Z' :: rest => (some 0, rest)
  | 'z' :: rest => (some 0, rest)
  | '+' :: more => signed 1 t more
  | '-' :: more => signed (-1) t more
  | _ => (none, t)

/-- Reads a date, perhaps with a time; none where no date comes first. -/
def readMoment? (t : Text) : Option (Result (Value × Text)) := do
  let (date, rest) ← readDate? t
  let time? : Option (Time × Text) :=
    match rest with
    | c :: more => if c = 'T' || c = 't' || c = ' ' then readTime? more else none
    | [] => none
  if !date.isValid then some (.error .malformed)
  else
    match time? with
    | some (time, rest) =>
      let (offset, rest) := readOffset rest
      some (.ok (.dateTime ⟨date, time, offset⟩, rest))
    | none => some (.ok (.date date, rest))

/-! ## Numbers -/

/-- The length of digits that satisfy `p`, with single underscores between them. -/
def digitsSpan (p : Char → Bool) : Text → Nat
  | [] => 0
  | c :: '_' :: d :: t => if p c then if p d then 2 + digitsSpan p (d :: t) else 1 else 0
  | c :: t => if p c then 1 + digitsSpan p t else 0

/-- The value of some digits in a base. -/
def valueIn (base : Nat) (digits : Text) : Nat := digits.foldl (fun n c => base * n + (hexDigit? c).getD 0) 0

/-- The base of numbers that start so, and their digits. -/
def basedForm? : Text → Option (Nat × (Char → Bool))
  | '0' :: 'x' :: _ => some (16, fun c => (hexDigit? c).isSome)
  | '0' :: 'o' :: _ => some (8, fun c => '0' ≤ c && c ≤ '7')
  | '0' :: 'b' :: _ => some (2, fun c => c = '0' || c = '1')
  | _ => none

/-- Reads a number in base 16, 8 or 2. -/
def readBased? (t : Text) : Option (Value × Text) := do
  let (base, isDigitOfBase) ← basedForm? t
  match digitsSpan isDigitOfBase (t.drop 2) with
  | 0 => none
  | span => some (.int (valueIn base (((t.drop 2).take span).filter (· ≠ '_'))), t.drop (2 + span))

/-- The length of a point and the digits behind it. -/
def fractionSpan (t : Text) : Nat :=
  match t with
  | '.' :: more => if digitsSpan Char.isDigit more = 0 then 0 else 1 + digitsSpan Char.isDigit more
  | _ => 0

/-- The length of an exponent. -/
def exponentSpan (t : Text) : Nat :=
  match t with
  | e :: more =>
    if e = 'e' || e = 'E' then
      let sign :=
        match more with
        | '+' :: _ => 1
        | '-' :: _ => 1
        | _ => 0
      let span := digitsSpan Char.isDigit (more.drop sign)
      if span = 0 then 0 else 1 + sign + span
    else 0
  | [] => 0

/-- The value of an exponent with its letter, or 0 for nothing. -/
def exponentValue (t : Text) : Int :=
  match t.drop 1 with
  | '-' :: digits => -decimalValue digits
  | '+' :: digits => decimalValue digits
  | digits => decimalValue digits

/-- Reads a number in base 10; none where no digit comes first. -/
def readDecimal? (t : Text) : Option (Result (Value × Text)) := do
  let (negative, sign) :=
    match t with
    | '-' :: _ => (true, 1)
    | '+' :: _ => (false, 1)
    | _ => (false, 0)
  let unsigned := t.drop sign
  let wholeSpan :=
    match unsigned with
    | '0' :: _ => 1
    | _ => digitsSpan Char.isDigit unsigned
  guard (wholeSpan ≠ 0)
  let behindWhole := unsigned.drop wholeSpan
  let pointSpan := fractionSpan behindWhole
  let powerSpan := exponentSpan (behindWhole.drop pointSpan)
  let rest := behindWhole.drop (pointSpan + powerSpan)
  let whole := (unsigned.take wholeSpan).filter (· ≠ '_')
  if pointSpan + powerSpan = 0 then
    if whole.length > maxDigits then some (.error (.tooLong (.read whole.length)))
    else
      let value := decimalValue whole
      some (.ok (.int (if negative then -(value : Int) else value), rest))
  else
    let fraction := ((behindWhole.take pointSpan).drop 1).filter (· ≠ '_')
    let power := ((behindWhole.drop pointSpan).take powerSpan).filter (· ≠ '_')
    some (.ok (.float (.ofDecimal negative (decimalValue (whole ++ fraction)) (exponentValue power - fraction.length)),
      rest))

/-- The words that are values. -/
def constants : List (Text × Value) :=
  [("true", .bool true), ("false", .bool false)]

/-- The words that are numbers. -/
def specialNumbers : List (Text × Value) :=
  [("inf", .float (.infinite false)), ("+inf", .float (.infinite false)), ("-inf", .float (.infinite true)),
   ("nan", .float .notANumber), ("+nan", .float .notANumber), ("-nan", .float .notANumber)]

/-- Reads one of some words. -/
def readWord? (words : List (Text × Value)) (t : Text) : Option (Value × Text) :=
  words.findSome? fun (word, value) => (afterPrefix? word t).map (value, ·)

/-- Reads a value that holds no others. -/
def readScalar (t : Text) : Result (Value × Text) :=
  match readString? t with
  | some read => read.map fun (s, rest) => (.string s, rest)
  | none =>
    match readWord? constants t with
    | some found => .ok found
    | none =>
      match readMoment? t with
      | some read => read
      | none =>
        match readTime? t with
        | some (time, rest) => .ok (.time time, rest)
        | none =>
          match readBased? t with
          | some found => .ok found
          | none =>
            match readDecimal? t with
            | some read => read
            | none =>
              match readWord? specialNumbers t with
              | some found => .ok found
              | none => .error .malformed

/-! ## Tables -/

/-- The entries of a table. -/
abbrev Entries := List (Text × Value)

/-- Changes the entries of the table under a path, which is made where it is missing. Behind an array the path goes
on in its last table; it does not go through other values. -/
def updateAt (change : Entries → Option Entries) : List Text → Entries → Option Entries
  | [], entries => change entries
  | key :: path, entries =>
    match entries.lookup key with
    | none => (updateAt change path []).map fun inner => entries ++ [(key, .table inner)]
    | some (.table inner) => (updateAt change path inner).map fun inner => Json.insertMember key (.table inner) entries
    | some (.array elements) =>
      match elements.getLast? with
      | some (.table inner) =>
        (updateAt change path inner).map fun inner =>
          Json.insertMember key (.array (elements.dropLast ++ [.table inner])) entries
      | _ => none
    | some _ => none

/-- Adds an entry that is not there yet. -/
def addEntry (key : Text) (value : Value) (entries : Entries) : Option Entries :=
  if (entries.lookup key).isSome then none else some (entries ++ [(key, value)])

/-- Adds an entry under a path of keys, which has at least one. -/
def addAt (path : List Text) (value : Value) (entries : Entries) : Option Entries :=
  match path.getLast? with
  | some key => updateAt (addEntry key value) path.dropLast entries
  | none => none

/-- Whether a path lies at or below one of some paths. -/
def isWithin (paths : List (List Text)) (path : List Text) : Bool := paths.any (·.isPrefixOf path)

/-- Whether a value has values in it. -/
def isContainer : Value → Bool
  | .array _ | .table _ => true
  | _ => false

/-! ## Values -/

/-- Reads the elements of an array up to its end, where `readElement` reads one; at most `fuel` of them. -/
def readElements (readElement : Text → Result (Value × Text)) : (fuel : Nat) → Text → Result (List Value × Text)
  | 0, _ => .error .malformed
  | fuel + 1, t => do
    let (element, rest) ← readElement t
    match ← skipAll rest with
    | ']' :: rest => return ([element], rest)
    | ',' :: rest =>
      match ← skipAll rest with
      | ']' :: rest => return ([element], rest)
      | rest =>
        let (more, rest) ← readElements readElement fuel rest
        return (element :: more, rest)
    | _ => .error .malformed

/-- Reads a key, an equals sign and a value. -/
def readEntry (readValue : Text → Result (Value × Text)) (t : Text) : Result (List Text × Value × Text) := do
  let (key, rest) ← readKey t
  match rest with
  | '=' :: rest =>
    let (value, rest) ← readValue (skipSpace rest)
    return (key, value, rest)
  | _ => .error .malformed

/-- Reads the entries of an inline table up to its end into `entries`; nothing may be added within the values under
the paths `closed`. At most `fuel` entries are read. -/
def readInline (readValue : Text → Result (Value × Text)) :
    (fuel : Nat) → (closed : List (List Text)) → Entries → Text → Result (Entries × Text)
  | 0, _, _, _ => .error .malformed
  | fuel + 1, closed, entries, t => do
    let (key, value, rest) ← readEntry readValue t
    if isWithin closed key then .error .malformed
    let some entries := addAt key value entries | .error .malformed
    match skipSpace rest with
    | '\x7d' :: rest => return (entries, rest)
    | ',' :: rest =>
      readInline readValue fuel (if isContainer value then key :: closed else closed) entries (skipSpace rest)
    | _ => .error .malformed

/-- Reads a value. The elements of an array are read by `readElement?` and the values of an inline table by
`readMember?`; where one of them is missing, there is no room for what it reads. Arrays and inline tables have at most
`size` parts. -/
def readWith (size : Nat) (readElement? readMember? : Option (Text → Result (Value × Text))) (t : Text) :
    Result (Value × Text) :=
  match t with
  | '[' :: inside => do
    let some readElement := readElement? | .error .tooDeep
    match ← skipAll inside with
    | ']' :: rest => return (.array [], rest)
    | first =>
      let (elements, rest) ← readElements readElement size first
      return (.array elements, rest)
  | '\x7b' :: inside => do
    let some readMember := readMember? | .error .tooDeep
    match skipSpace inside with
    | '\x7d' :: rest => return (.table [], rest)
    | first =>
      let (entries, rest) ← readInline readMember size [] [] first
      return (.table entries, rest)
  | _ => readScalar t

/-- The room for arrays and inline tables in each other. -/
def nestingRoom : Nat := 985

/-- Reads a value in some room, of which an array takes two places and an inline table three. -/
def readValue (size : Nat) : (room : Nat) → Text → Result (Value × Text)
  | 0, t => readWith size none none t
  | 1, t => readWith size none none t
  | 2, t => readWith size (some (readValue size 0)) none t
  | room + 3, t => readWith size (some (readValue size (room + 1))) (some (readValue size room)) t

end StructForge.Toml
