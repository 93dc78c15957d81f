import StructForge.Source
import StructForge.Text.Keyword

/-!
# The lexicon of a dialect

What differs between the dialects in the text of a statement: the quotes around names, how far a column type
reaches, the keywords of table constraints, the phrase for a generated key, and whether a column can have a
comment. Readers return what follows the part that they read.
-/

namespace StructForge.Sql

open Text

/-! ## Names -/

/-- The characters that may open a quoted name. -/
def nameOpeners : Sql → List Char
  | .mysql => ['\x60']
  | .postgresql => ['"']
  | .sqlite => ['\x60', '\'', '"', '[']

/-- The characters that may close a quoted name. -/
def nameClosers : Sql → List Char
  | .mysql => ['\x60']
  | .postgresql => ['"']
  | .sqlite => ['\x60', '\'', '"', ']']

/-- The text without a first character that is one of `cs`. -/
def skipOneOf (cs : List Char) : Text → Text
  | [] => []
  | c :: t => if cs.contains c then t else c :: t

/-- Reads a name, with or without quotes. The quotes need not be a pair. -/
def readName? (dialect : Sql) (t : Text) : Option (Text × Text) :=
  match takeWord (skipOneOf dialect.nameOpeners t) with
  | ([], _) => none
  | (name, rest) => some (name, skipOneOf dialect.nameClosers rest)

/-! ## Column types -/

/-- What follows the parameters of a type, up to the first closing parenthesis; the whole text without them. -/
def skipParameters (t : Text) : Text :=
  match t with
  | '(' :: inner =>
    match inner.dropWhile (· ≠ ')') with
    | _ :: rest => rest
    | [] => t
  | _ => t

/-- What follows the second word of a type such as `DOUBLE PRECISION`; the whole text without one. -/
def skipSecondWord (t : Text) : Text :=
  match afterBlanks? t with
  | none => t
  | some r => (afterKeyword? "precision" r <|> afterKeyword? "varying" r).getD t

/-- What follows `WITH TIME ZONE` or `WITHOUT TIME ZONE`; the whole text without it. -/
def skipTimeZone (t : Text) : Text :=
  match afterBlanks? t with
  | none => t
  | some r => (afterPhrase? ["without", "time", "zone"] r <|> afterPhrase? ["with", "time", "zone"] r).getD t

/-- What follows one array suffix, `[` digits `]`. -/
def afterArraySuffix? : Text → Option Text
  | '[' :: t =>
    match t.dropWhile isDecimal with
    | ']' :: rest => some rest
    | _ => none
  | _ => none

/-- What follows the array suffixes of a type, of which at most `fuel` are read. -/
def skipArraySuffixes : (fuel : Nat) → Text → Text
  | 0, t => t
  | fuel + 1, t =>
    match afterArraySuffix? t with
    | some rest => skipArraySuffixes fuel rest
    | none => t

/-- What follows the word of a type, where only PostgreSQL has more than parameters. -/
def skipTypeTail (dialect : Sql) (t : Text) : Text :=
  match dialect with
  | .mysql | .sqlite => skipParameters t
  | .postgresql =>
    let rest := skipTimeZone (skipParameters (skipSecondWord t))
    skipArraySuffixes rest.length rest

/-- Reads a column type. -/
def readTypeText? (dialect : Sql) (t : Text) : Option (Text × Text) :=
  match takeWord t with
  | ([], _) => none
  | (_, rest) =>
    let behind := skipTypeTail dialect rest
    some (consumed t behind, behind)

/-! ## Keywords -/

/-- The phrases that open a table constraint. -/
def constraintPhrases : Sql → List (List Text)
  | .mysql =>
    [["primary", "key"], ["key"], ["unique"], ["index"], ["constraint"], ["foreign", "key"], ["fulltext"],
     ["spatial"], ["check"]]
  | .postgresql => [["primary", "key"], ["unique"], ["check"], ["constraint"], ["foreign", "key"], ["exclude"]]
  | .sqlite => [["primary", "key"], ["unique"], ["check"], ["constraint"], ["foreign", "key"]]

/-- Whether a line is a table constraint. -/
def isConstraint (dialect : Sql) (line : Text) : Bool :=
  dialect.constraintPhrases.any fun phrase => (afterWholePhrase? phrase line).isSome

/-- Whether the first word of the text ends in `serial`. -/
def startsWithSerial (t : Text) : Bool := endsWith ((takeWord t).1.map foldChar) "serial"

/-- Whether a column definition without its name, `type rest`, asks for generated values. -/
def isAutoIncrement (dialect : Sql) (definition : Text) : Bool :=
  match dialect with
  | .mysql => hasPhrase ["auto_increment"] definition
  | .sqlite => hasPhrase ["autoincrement"] definition
  | .postgresql =>
    startsWithSerial definition || hasPhrase ["generated", "always", "as", "identity"] definition ||
      hasPhrase ["generated", "by", "default", "as", "identity"] definition

/-- Whether a generated value makes the column a primary key. -/
def autoIncrementIsKey : Sql → Bool
  | .mysql => true
  | .postgresql | .sqlite => false

/-! ## Comments -/

/-- The text up to the closing quote, which has no backslash in front; `before` is the character in front of the
text. -/
def upToQuote? (quote : Char) : (before : Char) → Text → Option Text
  | _, [] => none
  | before, c :: t => if c = quote && before ≠ '\\' then some [] else (upToQuote? quote c t).map (c :: ·)

/-- Reads `COMMENT` and a literal in single or double quotes, and returns the content. -/
def readComment? (afterWord : Bool) (t : Text) : Option Text :=
  if afterWord then none
  else
    match (afterKeyword? "comment" t).bind afterBlanks? with
    | some (quote :: content) => if quote = '\'' || quote = '"' then upToQuote? quote quote content else none
    | _ => none

/-- The comment of a column, in one line: its own where the dialect has comments and it is not blank, and the
column's name otherwise. -/
def comment (dialect : Sql) (column rest : Text) : Text :=
  match dialect with
  | .postgresql | .sqlite => column
  | .mysql =>
    match (search readComment? false rest).map words with
    | some (word :: more) => join " " (word :: more)
    | _ => column

end StructForge.Sql
