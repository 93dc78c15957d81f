import StructForge.Detection
import StructForge.Go.File
import StructForge.Go.Imports
import StructForge.Go.Struct
import StructForge.Json.Shape
import StructForge.Sql.Table

/-!
# From a text to Go code

The source of a text is detected or asked for by name; the text is then read as a schema, and the schema becomes Go
code with its imports. Everything that can go wrong on the way is a `Conversion.Error`.
-/

namespace StructForge

/-! ## Type tables -/

/-- The types or kinds that a source has a Go type for. -/
def Source.types : Source → List (Text × Text)
  | .sql dialect => dialect.types
  | .json => Json.kindTypes

/-- The Go type that a source gives a column type. Documents have no columns, so that every type is text there. -/
def Source.columnGoType : Source → Text → Except TooDeep Text
  | .sql dialect, type => dialect.goType type
  | .json, _ => .ok Go.TypeName.string

/-! ## Readers -/

/-- What reads a text as a schema: one for each source, where the one for JSON knows the name for the struct. -/
inductive Reader where
  | sql (dialect : Sql)
  | json (structName : Text)
  deriving DecidableEq

/-- Why a text cannot be read as a schema. -/
inductive SchemaError where
  | statement (error : Sql.StatementError)
  | document (error : Json.DocumentError)
  deriving DecidableEq

/-- The complaint about a text. -/
def SchemaError.message : SchemaError → Text
  | .statement error => error.message
  | .document error => error.message

/-- The name for the struct of a JSON document that nothing else names. -/
def defaultStructName : Text := "Response"

namespace Reader

/-- The reader of a source. -/
def ofSource (structName : Text) : Source → Reader
  | .sql dialect => .sql dialect
  | .json => .json structName

/-- Reads a text as a schema. -/
def read (t : Text) : Reader → Except SchemaError Schema
  | .sql dialect => (Sql.readSchema dialect t).mapError .statement
  | .json structName => (Json.readSchema structName t).mapError .document

/-- What is left of a schema that could not be read: the name for the struct, if the reader knows one. -/
def emptySchema : Reader → Schema
  | .sql _ => {}
  | .json structName => { structName := some structName }

end Reader

/-- The result of reading a text: a schema, which is empty if there is an error. -/
structure Reading where
  schema : Schema := {}
  error : Option SchemaError := none
  deriving DecidableEq

/-- Reads a text, and keeps what is left if that fails. Nothing is left where a column type is too deep. -/
def Reader.reading (t : Text) (r : Reader) : Except TooDeep Reading :=
  match r.read t with
  | .ok schema => .ok ⟨schema, none⟩
  | .error (.statement .typeTooDeep) => .error .tooDeep
  | .error error => .ok ⟨r.emptySchema, some error⟩

/-! ## Requests -/

/-- How the source of a text is asked for. -/
inductive Request where
  | detect
  | byName (name : Text)
  | given (source : Option Source)
  deriving DecidableEq

/-- Why a reader cannot be had. -/
structure NoReader where
  name : Text
  deriving DecidableEq

/-- The complaint about a name without a reader. -/
def NoReader.message (e : NoReader) : Text := "No parser available for dialect: " ++ e.name

/-- The reader for a source that has one. -/
def Reader.forSource (structName : Text) : Option Source → Except NoReader Reader
  | some source => .ok (ofSource structName source)
  | none => .error ⟨Source.nameOr none⟩

/-- The reader for a source of that name, in any letter case. -/
def Reader.forName (structName name : Text) : Except NoReader Reader :=
  match Source.ofAnyCase? name with
  | some source => Reader.forSource structName source
  | none => .error ⟨name⟩

namespace Conversion

/-- Why a text is not converted. -/
inductive Error where
  | unsupportedDialect (name : Text)
  | unknownInput
  | unreadable (error : SchemaError)
  | tooDeep
  deriving DecidableEq

/-- The complaint about a conversion. -/
def Error.message : Error → Text
  | .unsupportedDialect name => "Unsupported dialect: " ++ name
  | .unknownInput => "Could not detect input type: expected a CREATE TABLE statement or a JSON object"
  | .unreadable error => error.message
  | .tooDeep => "nested too deep"

/-- The name that asks for detection. -/
def autoName : Text := "auto"

/-- The request that a name makes. -/
def requestOfName (name : Text) : Request := if name == autoName then .detect else .byName name

/-- The source that a request asks for. -/
def resolve (t : Text) : Request → Except Error (Option Source)
  | .detect => .ok (Detection.detect t)
  | .given source => .ok source
  | .byName name =>
    match Source.ofAnyCase? name with
    | some source => .ok source
    | none => .error (.unsupportedDialect name)

/-- Reads a text under a request; the struct of a JSON document is given a name. What cannot be read is left to the
caller. -/
def parse (t : Text) (request : Request) (structName : Text) : Except Error (Source × Reading) := do
  match ← resolve t request with
  | none => .error .unknownInput
  | some source =>
    let reading ← ((Reader.ofSource structName source).reading t).mapError fun _ => .tooDeep
    return (source, reading)

/-- Converted code, and what is known of it. -/
structure Result where
  source : Source
  schema : Schema
  structName : Text
  code : Text
  imports : List Text
  packageName : Text
  deriving DecidableEq

/-- The complete Go file of a result. -/
def Result.file (r : Result) : Text := Go.file r.code r.packageName r.imports

/-- The name for the struct of a JSON document: the one that is given, the override of the options, or `Response`.
Empty names count as missing. -/
def documentName (given : Option Text) (o : Go.Options) : Text :=
  ((given.filter (!·.isEmpty)).or (o.structName.filter (!·.isEmpty))).getD defaultStructName

/-- Converts a text under a request, where the struct of a JSON document may be given a name. -/
def convert (t : Text) (request : Request) (o : Go.Options) (structName : Option Text) : Except Error Result := do
  let (source, reading) ← parse t request (documentName structName o)
  match reading.error with
  | some error => .error (.unreadable error)
  | none =>
    let schema := reading.schema
    let code ← (Go.code schema o).mapError fun _ => .tooDeep
    return {
      source, schema, code
      structName := Go.structName schema o
      imports := Go.imports schema.allFields
      packageName := o.packageName }

end Conversion

end StructForge
