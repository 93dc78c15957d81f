import StructForge.Naming
import StructForge.Schema
import StructForge.Sql.ColumnType
import StructForge.Sql.Lexicon
import StructForge.Sql.Splitter

/-!
# Reading a `CREATE TABLE` statement

A statement is found anywhere in a text. It is read as the name of the table, and a body between the first
opening and the last closing parenthesis behind the name. The lines of the body are columns, table constraints,
and lines that are neither; only the columns become fields.
-/

namespace StructForge.Sql

open Text

/-! ## The head -/

/-- Reads the name of a table, and drops a qualifier in front of it. -/
def readTableName? (dialect : Sql) (t : Text) : Option (Text × Text) :=
  match dialect.readName? t with
  | some (name, '.' :: rest) => (dialect.readName? rest).or (some (name, '.' :: rest))
  | other => other

/-- Reads `CREATE TABLE`, perhaps `IF NOT EXISTS`, and the name of the table. -/
def readHead? (dialect : Sql) (t : Text) : Option (Text × Text) := do
  let rest ← (afterPhrase? ["create", "table"] t).bind afterBlanks?
  let guarded := (afterPhrase? ["if", "not", "exists"] rest).bind afterBlanks?
  (guarded.bind dialect.readTableName?).or (dialect.readTableName? rest)

/-- The name of the table in the first statement of a text, and what follows it. -/
def findHead? (dialect : Sql) (t : Text) : Option (Text × Text) := search (fun _ => dialect.readHead?) false t

/-- What stands between the first opening and the last closing parenthesis, unless that is nothing. -/
def body? (t : Text) : Option Text :=
  match t.dropWhile (· ≠ '(') with
  | [] => none
  | _ :: inner =>
    match (dropEndWhile (· ≠ ')') inner).dropLast with
    | [] => none
    | c :: body => some (c :: body)

/-! ## Columns -/

/-- A column definition: its name, its type as written, and what follows the type. -/
structure ColumnText where
  name : Text
  type : Text
  rest : Text
  deriving DecidableEq

/-- Reads a line as a column definition. -/
def readColumn? (dialect : Sql) (line : Text) : Option ColumnText := do
  let (name, behindName) ← dialect.readName? line
  let (type, rest) ← dialect.readTypeText? (← afterBlanks? behindName)
  return ⟨name, type, rest.dropWhile isBlank⟩

/-- The field of a column with a Go type. A primary key is never null. -/
def ColumnText.fieldOf (dialect : Sql) (c : ColumnText) (goType : Text) : Field :=
  let isAutoIncrement := dialect.isAutoIncrement (c.type ++ " " ++ c.rest)
  let isPrimaryKey := hasPhrase ["primary", "key"] c.rest || (isAutoIncrement && dialect.autoIncrementIsKey)
  { sourceName := c.name
    targetName := Naming.camel c.name
    sourceType := c.type
    targetType := goType
    nullable := !(isPrimaryKey || hasPhrase ["not", "null"] c.rest)
    isPrimaryKey := isPrimaryKey
    isAutoIncrement := isAutoIncrement
    comment := some (dialect.comment c.name c.rest)
    serializedName := c.name
    storageColumn := some c.name }

/-- The field of a column. -/
def ColumnText.toField (dialect : Sql) (c : ColumnText) : Except TooDeep Field :=
  (dialect.goType c.type).map (c.fieldOf dialect)

/-! ## Statements -/

/-- A line of the body. -/
inductive Line where
  | column (column : ColumnText)
  | tableConstraint (text : Text)
  | other (text : Text)
  deriving DecidableEq

/-- Reads a line of the body. -/
def Line.read (dialect : Sql) (line : Text) : Line :=
  if dialect.isConstraint line then .tableConstraint line
  else
    match dialect.readColumn? line with
    | some c => .column c
    | none => .other line

/-- The column on a line. -/
def Line.column? : Line → Option ColumnText
  | .column c => some c
  | .tableConstraint _ | .other _ => none

/-- The name of a table and the lines of its body. -/
structure Statement where
  tableName : Text
  lines : List Line
  deriving DecidableEq

/-- Why a text has no statement that can be read. -/
inductive StatementError where
  | noTableName
  | noBody
  | typeTooDeep
  deriving DecidableEq

/-- The complaint about a text without a statement. -/
def StatementError.message : StatementError → Text
  | .noTableName => "cannot parse table name"
  | .noBody => "cannot parse field definitions"
  | .typeTooDeep => "column type nested too deep"

/-- Reads the first statement of a text. -/
def Statement.read (dialect : Sql) (t : Text) : Except StatementError Statement :=
  match dialect.findHead? t with
  | none => .error .noTableName
  | some (tableName, rest) =>
    match body? rest with
    | none => .error .noBody
    | some body => .ok ⟨tableName, (bodyLines body).map (Line.read dialect)⟩

/-- The columns of a statement, in order. -/
def Statement.columns (s : Statement) : List ColumnText := s.lines.filterMap Line.column?

/-- The schema of a statement. -/
def Statement.toSchema (dialect : Sql) (s : Statement) : Except TooDeep Schema :=
  (s.columns.mapM (ColumnText.toField dialect)).map fun fields => { tableName := some s.tableName, fields }

/-- The schema of the first statement of a text. -/
def readSchema (dialect : Sql) (t : Text) : Except StatementError Schema :=
  (Statement.read dialect t).bind fun s => (s.toSchema dialect).mapError fun _ => .typeTooDeep

end StructForge.Sql
