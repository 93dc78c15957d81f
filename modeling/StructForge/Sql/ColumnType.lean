import StructForge.Go.TypeName
import StructForge.Nesting
import StructForge.Source
import StructForge.Text.Word

/-!
# Column types

Every dialect has a table from the words of its column types to Go types. A type is looked up by the longest
key that is *eligible*: a prefix of the type that no letter continues, so that `INTEGER(10)` is found under
`INTEGER` and `INTERVAL` is not found under `INT`. PostgreSQL types may end in array suffixes, which become
slices, up to `maxArrayDepth` of them; SQLite types without a key go by their affinity; what is left is `string`.
-/

namespace StructForge.Sql

open Text Go.TypeName

/-! ## Type tables -/

/-- The Go types of MySQL's column types. -/
def mysqlTypes : List (Text × Text) :=
  [("TINYINT(1)", bool), ("TINYINT", int64), ("SMALLINT", int64), ("MEDIUMINT", int64), ("INT", int64),
   ("INTEGER", int64), ("BIGINT", int64), ("VARCHAR", string), ("CHAR", string), ("TEXT", string),
   ("TINYTEXT", string), ("MEDIUMTEXT", string), ("LONGTEXT", string), ("FLOAT", float64), ("DOUBLE", float64),
   ("DECIMAL", float64), ("NUMERIC", float64), ("DATE", time), ("DATETIME", time), ("TIMESTAMP", time),
   ("TIME", time), ("YEAR", int), ("JSON", rawJson), ("BLOB", bytes), ("TINYBLOB", bytes), ("MEDIUMBLOB", bytes),
   ("LONGBLOB", bytes), ("BINARY", bytes), ("VARBINARY", bytes), ("ENUM", string), ("SET", string)]

/-- The Go types of PostgreSQL's column types. -/
def postgresqlTypes : List (Text × Text) :=
  [("SMALLINT", int64), ("INTEGER", int64), ("INT", int64), ("BIGINT", int64), ("SERIAL", int64),
   ("BIGSERIAL", int64), ("SMALLSERIAL", int), ("BOOLEAN", bool), ("BOOL", bool), ("VARCHAR", string),
   ("CHAR", string), ("CHARACTER", string), ("TEXT", string), ("UUID", string), ("REAL", float64),
   ("DOUBLE PRECISION", float64), ("NUMERIC", float64), ("DECIMAL", float64), ("DATE", time), ("TIME", time),
   ("TIMESTAMP", time), ("TIMESTAMPTZ", time), ("JSON", rawJson), ("JSONB", rawJson), ("BYTEA", bytes)]

/-- The Go types of SQLite's column types. -/
def sqliteTypes : List (Text × Text) :=
  [("INTEGER", int64), ("INT", int64), ("TINYINT", int64), ("SMALLINT", int64), ("MEDIUMINT", int64),
   ("BIGINT", int64), ("TEXT", string), ("CHAR", string), ("VARCHAR", string), ("CLOB", string),
   ("REAL", float64), ("FLOAT", float64), ("DOUBLE", float64), ("NUMERIC", float64), ("DECIMAL", float64),
   ("BOOLEAN", bool), ("DATE", string), ("DATETIME", string), ("BLOB", bytes)]

/-- The type table of a dialect. -/
def types : Sql → List (Text × Text)
  | .mysql => mysqlTypes
  | .postgresql => postgresqlTypes
  | .sqlite => sqliteTypes

/-! ## Lookup -/

/-- Whether the key is a prefix of the type that no letter continues. -/
def eligible (key type : Text) : Bool :=
  match afterPrefix? key type with
  | none => false
  | some [] => true
  | some (c :: _) => !isLetter c

/-- The entry with the longer key; the first of two equally long ones. -/
def longerEntry {α : Type} (best : Option (Text × α)) (entry : Text × α) : Option (Text × α) :=
  match best with
  | none => some entry
  | some b => if b.1.length < entry.1.length then some entry else some b

/-- The value of the longest eligible key. -/
def longestEligible? {α : Type} (table : List (Text × α)) (type : Text) : Option α :=
  ((table.filter (eligible ·.1 type)).foldl longerEntry none).map (·.2)

/-- SQLite's affinities, in order: what has to occur in a type, and the Go type it then has. -/
def affinityRules : List (List Text × Text) :=
  [(["INT"], int64), (["CHAR", "CLOB", "TEXT"], string), (["BLOB"], bytes), (["REAL", "FLOA", "DOUB"], float64),
   (["NUMERIC", "DECIMAL", "BOOLEAN", "DATE"], float64)]

/-- The Go type of the first affinity that the type has. -/
def affinity? (type : Text) : Option Text :=
  (affinityRules.find? (·.1.any (occursIn · type))).map (·.2)

/-- The Go type of a type in normal form without array suffixes. -/
def lookup? (dialect : Sql) (type : Text) : Option Text :=
  match longestEligible? dialect.types type with
  | some goType => some goType
  | none => if dialect = .sqlite then affinity? type else none

/-! ## Array suffixes -/

/-- A type in normal form: trimmed, in upper case, with one space for every run of blanks. -/
def normalType (type : Text) : Text := collapseBlanks (upper (trim type))

/-- What stands in front of a final array suffix, `[` digits `]`. -/
def dropArraySuffix? (type : Text) : Option Text :=
  match type.reverse with
  | ']' :: back =>
    match back.dropWhile isDecimal with
    | '[' :: base => some base.reverse
    | _ => none
  | _ => none

/-- The number of array suffixes, blanks between them allowed, and what stands in front of them; at most `fuel`
suffixes are taken off. -/
def peelArrays : (fuel : Nat) → Text → Nat × Text
  | 0, type => (0, type)
  | fuel + 1, type =>
    match dropArraySuffix? (trim type) with
    | some base => let (depth, element) := peelArrays fuel base; (depth + 1, element)
    | none => (0, type)

/-! ## The Go type of a column -/

/-- What is known of a column type: the number of slices, the type of their elements as it is written (in normal
form behind slices), and the Go type of the elements, if there is one for them. -/
structure TypeReading where
  depth : Nat
  element : Text
  goType? : Option Text

/-- Reads a column type of a dialect. -/
def readType (dialect : Sql) (type : Text) : TypeReading :=
  let normal := normalType type
  if dialect = .postgresql then
    match peelArrays normal.length normal with
    | (0, _) => ⟨0, type, lookup? dialect normal⟩
    | (depth, element) => ⟨depth, element, lookup? dialect (trim element)⟩
  else ⟨0, type, lookup? dialect normal⟩

/-- How many array suffixes a type may have. -/
def maxArrayDepth : Nat := 990

/-- The Go type that was read: `string` for unknown elements. -/
def TypeReading.goType (r : TypeReading) : Except TooDeep Text :=
  if r.depth > maxArrayDepth then .error .tooDeep else .ok (slices r.depth (r.goType?.getD string))

/-- The Go type of a column type. -/
def goType (dialect : Sql) (type : Text) : Except TooDeep Text := (readType dialect type).goType

end StructForge.Sql
