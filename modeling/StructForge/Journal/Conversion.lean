import StructForge.Conversion
import StructForge.Journal

/-!
# What a conversion tells of itself

The journal of detecting a source, of reading a schema and of generating code, as a function of the same texts.
-/

namespace StructForge.Journal

open Text

/-- The detail entries of a part of the program. -/
def detail (part message : Text) : Entry := ⟨.debug, part, message⟩

/-! ## Detection -/

/-- The part that detects sources. -/
def detectorPart : Text := "structify.parser.detector"

/-- The journal of detecting the source of a text: the marker that decides on a dialect. -/
def ofDetection (t : Text) : List Entry :=
  let trimmed := trim t
  if Detection.hasStatement trimmed then
    match Detection.markedDialect? trimmed with
    | some (dialect, marker) =>
      [detail detectorPart ("Detected " ++ dialect.name ++ " from token '" ++ marker ++ "'")]
    | none => []
  else []

/-- The part that converts texts. -/
def converterPart : Text := "structify.converter"

/-- The journal of resolving a request: nothing where the source is given. -/
def ofRequest (t : Text) : Request → List Entry
  | .detect =>
    ofDetection t ++
      [detail converterPart ("Detected input type: " ++ Source.nameOr (Detection.detect t))]
  | .byName _ | .given _ => []

/-! ## Statements -/

/-- The part that reads statements. -/
def statementPart : Text := "structify.parser.parsers.ddl_parser"

/-- The part that knows column types. -/
def typePart : Text := "structify.parser.type_mapper"

/-- The journal of a column type: one that is not known. -/
def ofColumnType (dialect : Sql) (type : Text) : List Entry :=
  let r := dialect.readType type
  match r.goType? with
  | some _ => []
  | none =>
    [detail typePart ("No " ++ dialect.name ++ " mapping for type '" ++ r.element ++ "', using string")]

/-- The journal of a line. -/
def ofLine (dialect : Sql) : Sql.Line → List Entry
  | .column c => ofColumnType dialect c.type
  | .tableConstraint t => [detail statementPart ("Skipping constraint line: " ++ t)]
  | .other t => [detail statementPart ("Skipping unrecognized line: " ++ t)]

/-- The journal of reading a statement. -/
def ofStatement (dialect : Sql) (t : Text) : List Entry :=
  match Sql.Statement.read dialect t with
  | .error e => [detail statementPart (dialect.name ++ " DDL rejected: " ++ e.message)]
  | .ok s =>
    s.lines.flatMap (ofLine dialect) ++
      [detail statementPart ("Parsed " ++ ofNat s.columns.length ++ " fields from " ++ dialect.name ++ " table '" ++
        s.tableName ++ "'")]

/-! ## Documents -/

/-- The part that reads documents. -/
def documentPart : Text := "structify.parser.parsers.json_parser"

/-- The journal of reading a document. -/
def ofDocument (structName t : Text) : List Entry :=
  match Json.readSchema structName t with
  | .error e => [detail documentPart ("JSON rejected: " ++ e.message)]
  | .ok s =>
    [detail documentPart ("Inferred " ++ ofNat s.fields.length ++ " fields and " ++ ofNat s.nestedTypes.length ++
      " nested types")]

/-- The journal of a reader. -/
def ofReader (t : Text) : Reader → List Entry
  | .sql dialect => ofStatement dialect t
  | .json structName => ofDocument structName t

/-! ## Conversions -/

/-- The journal of reading a text under a request. -/
def ofParse (t : Text) (request : Request) (structName : Text) : List Entry :=
  ofRequest t request ++
    match Conversion.resolve t request with
    | .ok (some source) => ofReader t (Reader.ofSource structName source)
    | _ => []

/-- The part that generates structs. -/
def generatorPart : Text := "structify.generator.struct_generator"

/-- The journal of a result. -/
def ofResult (r : Conversion.Result) : List Entry :=
  let fields := ofNat r.schema.fields.length
  [detail generatorPart ("Generated struct " ++ r.structName ++ " with " ++ fields ++ " fields"),
   ⟨.info, converterPart, "Converted " ++ r.source.name ++ " input to struct " ++ r.structName ++ " (" ++ fields ++
     " fields)"⟩]

/-- The part that writes files. -/
def exporterPart : Text := "structify.generator.exporter"

/-- The journal of a file that was written. -/
def ofExport (path : Text) : Entry := ⟨.info, exporterPart, "Go file saved to " ++ path⟩

end StructForge.Journal
