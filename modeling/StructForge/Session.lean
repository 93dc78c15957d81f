import StructForge.Conversion

/-!
# Sessions

A session keeps a reader, options and the schema that was read last, and works on them step by step: it changes the
reader, the options or parts of the schema, and generates code from what it has. Every step has an answer, also one
that asks for an unknown reader, which changes nothing; at a step that breaks down the session ends without any.
-/

namespace StructForge

open Text

/-- What a session works on. A schema that could not be read is empty and has a complaint. -/
structure Session where
  reader : Reader := .sql .mysql
  options : Go.Options := {}
  schema : Schema := {}
  complaint : Option Text := none
  deriving DecidableEq

namespace Session

/-- A new value for an option. -/
inductive OptionChange where
  | structName (value : Option Text)
  | packageName (value : Text)
  | emitStorageAccessor (value : Bool)
  | inlineNestedTypes (value : Bool)
  deriving DecidableEq

/-- A new value for a part of a field. -/
inductive FieldChange where
  | sourceName (value : Text)
  | targetName (value : Text)
  | sourceType (value : Text)
  | targetType (value : Text)
  | nullable (value : Bool)
  | isPrimaryKey (value : Bool)
  | isAutoIncrement (value : Bool)
  | comment (value : Option Text)
  | serializedName (value : Text)
  | storageColumn (value : Option Text)
  | noNestedType
  deriving DecidableEq

/-- A new value for a part of a schema. -/
inductive SchemaChange where
  | tableName (value : Option Text)
  | structName (value : Option Text)
  | complaint (value : Option Text)
  | noFields
  | noNestedTypes
  deriving DecidableEq

/-- The steps of a session. -/
inductive Step where
  | useReader (name structName : Text)
  | read (text : Text)
  | changeOption (change : OptionChange)
  | changeField (number : Int) (change : FieldChange)
  | changeSchema (change : SchemaChange)
  | code
  | structName
  | imports
  | file
  deriving DecidableEq

/-- The answers to steps. -/
inductive Answer where
  | reader (reader : Reader)
  | noReader (error : NoReader)
  | schema (schema : Schema) (complaint : Option Text)
  | options (options : Go.Options)
  | field (field : Field)
  | text (text : Text)
  | texts (texts : List Text)
  deriving DecidableEq

/-- Why a session ends without answers. -/
inductive Breakdown where
  | noField (number : Int)
  | tooDeep
  deriving DecidableEq

/-! ## Changes -/

/-- The options with a new value. -/
def OptionChange.apply (o : Go.Options) : OptionChange → Go.Options
  | structName value => { o with structName := value }
  | packageName value => { o with packageName := value }
  | emitStorageAccessor value => { o with emitStorageAccessor := value }
  | inlineNestedTypes value => { o with inlineNestedTypes := value }

/-- A field with a new value, which is not checked. -/
def FieldChange.apply (f : Field) : FieldChange → Field
  | sourceName value => { f with sourceName := value }
  | targetName value => { f with targetName := value }
  | sourceType value => { f with sourceType := value }
  | targetType value => { f with targetType := value }
  | nullable value => { f with nullable := value }
  | isPrimaryKey value => { f with isPrimaryKey := value }
  | isAutoIncrement value => { f with isAutoIncrement := value }
  | comment value => { f with comment := value }
  | serializedName value => { f with serializedName := value }
  | storageColumn value => { f with storageColumn := value }
  | noNestedType => { f with nested := none }

/-- A session with a new value for a part of its schema. -/
def SchemaChange.apply (s : Session) : SchemaChange → Session
  | tableName value => { s with schema := { s.schema with tableName := value } }
  | structName value => { s with schema := { s.schema with structName := value } }
  | complaint value => { s with complaint := value }
  | noFields => { s with schema := { s.schema with fields := [] } }
  | noNestedTypes => { s with schema := s.schema.unlist }

/-! ## Steps -/

/-- The code for the schema. -/
def generated (s : Session) : Except Breakdown Text := (Go.code s.schema s.options).mapError fun _ => .tooDeep

/-- The imports that the schema needs. -/
def neededImports (s : Session) : List Text := Go.imports s.schema.allFields

/-- The session behind a step, and the answer to it. -/
def step (s : Session) : Step → Except Breakdown (Session × Answer)
  | .useReader name structName =>
    match Reader.forName structName name with
    | .ok reader => .ok ({ s with reader }, .reader reader)
    | .error e => .ok (s, .noReader e)
  | .read text => do
    let reading ← (s.reader.reading text).mapError fun _ => .tooDeep
    let complaint := reading.error.map SchemaError.message
    return ({ s with schema := reading.schema, complaint }, .schema reading.schema complaint)
  | .changeOption change =>
    let options := change.apply s.options
    .ok ({ s with options }, .options options)
  | .changeField number change =>
    match s.schema.fieldAt? number with
    | none => .error (.noField number)
    | some (place, f) =>
      let field := change.apply f
      .ok ({ s with schema := { s.schema with fields := s.schema.fields.set place field } }, .field field)
  | .changeSchema change =>
    let s := change.apply s
    .ok (s, .schema s.schema s.complaint)
  | .code => s.generated.map fun code => (s, .text code)
  | .structName => .ok (s, .text (Go.structName s.schema s.options))
  | .imports => .ok (s, .texts s.neededImports)
  | .file => s.generated.map fun code => (s, .text (Go.file code s.options.packageName s.neededImports))

/-- The answers to steps that are taken one after another. -/
def run (s : Session) : List Step → Except Breakdown (List Answer)
  | [] => .ok []
  | first :: rest => do
    let (s, answer) ← s.step first
    return answer :: (← s.run rest)

end Session

end StructForge
