import StructForge.Proofs.Conversion
import StructForge.Proofs.Go.ColumnLines
import StructForge.Proofs.Go.InPlace
import StructForge.Proofs.Sql.ArraySuffixes
import StructForge.Proofs.Sql.Fields

/-!
# What a conversion can fail with

The steps of a conversion can fail in more ways than the conversion does: a source may have no type table or no reader,
a field may be written down without a name, a text may be no JSON. `Checked` has the steps with all of these failures,
caught where they are caught, and comes to what the conversion does (`Checked.convert_eq`): no failure is left but that
a text is refused, or that one of its column types is nested too deep. The latter happens exactly if a column of
PostgreSQL has too many array suffixes (`convert_eq_tooDeep_iff`).
-/

namespace StructForge

open Conversion

/-- What a step of a conversion can fail with. -/
inductive Failure where
  | refused (error : Conversion.Error)
  | unnamedField (error : UnnamedField)
  | noTypeTable
  | noReader (error : NoReader)
  | notJson (error : Json.ReadError)
  | badDocument (error : Json.DocumentError)
  | tooDeep

/-- The failure of a conversion with an error. -/
def Failure.ofError : Conversion.Error → Failure
  | .tooDeep => .tooDeep
  | .unsupportedDialect name => .refused (.unsupportedDialect name)
  | .unknownInput => .refused .unknownInput
  | .unreadable error => .refused (.unreadable error)

namespace Checked

/-! ## Fields and types -/

/-- Makes a field, which needs a name. -/
def field (f : Field) : Except Failure Field := f.check.mapError .unnamedField

/-- The type tables there are. -/
def typeTables : List (Source × List (Text × Text)) := Source.all.map fun source => (source, source.types)

/-- The type table of a source. -/
def typeTable (source : Option Source) : Except Failure (List (Text × Text)) :=
  match source.bind fun known => typeTables.lookup known with
  | some table => .ok table
  | none => .error .noTypeTable

/-- The Go type of a type in normal form without array suffixes. -/
def lookup? (dialect : Sql) (type : Text) : Except Failure (Option Text) := do
  let table ← typeTable (some (.sql dialect))
  match Sql.longestEligible? table type with
  | some goType => return some goType
  | none => return if dialect = .sqlite then Sql.affinity? type else none

/-- The Go type of a column type. -/
def goType (dialect : Sql) (type : Text) : Except Failure Text := do
  let normal := Sql.normalType type
  let (depth, element) := if dialect = .postgresql then Sql.peelArrays normal.length normal else (0, normal)
  if depth > Sql.maxArrayDepth then .error .tooDeep
  else
    let found ← lookup? dialect (if depth = 0 then normal else Text.trim element)
    return Go.TypeName.slices depth (found.getD Go.TypeName.string)

/-- The field of a column. -/
def columnField (dialect : Sql) (c : Sql.ColumnText) : Except Failure Field := do
  field (c.fieldOf dialect (← goType dialect c.type))

/-! ## Documents -/

mutual

/-- The shape of a value. -/
def shapeOf (depth : Nat) (goName : Text) (inArray : Bool) (found : List NestedType) :
    Json → Except Failure (Json.Shape × List NestedType)
  | .object members =>
    if depth ≥ Json.maxNesting then .error (.badDocument .tooDeep)
    else do
      let (fields, found) ← fieldsOf (depth + 1) found members
      let name := Json.nestedName goName inArray
      return (⟨name, some found.length⟩, found ++ [⟨name, fields⟩])
  | .array elements =>
    if depth ≥ Json.maxNesting then .error (.badDocument .tooDeep)
    else do
      let (shape, found) ← elementShape (depth + 1) goName found elements
      return (⟨Go.TypeName.slice shape.goType, shape.nested⟩, found)
  | .null => .ok (⟨Json.Kind.null.goType, none⟩, found)
  | .bool _ => .ok (⟨Json.Kind.boolean.goType, none⟩, found)
  | .int _ => .ok (⟨Json.Kind.int.goType, none⟩, found)
  | .float x => .ok (⟨(Json.float x).kind.goType, none⟩, found)
  | .string _ => .ok (⟨Json.Kind.string.goType, none⟩, found)

/-- The shape of the elements of an array. -/
def elementShape (depth : Nat) (goName : Text) (found : List NestedType) :
    List Json → Except Failure (Json.Shape × List NestedType)
  | [] => .ok (⟨Go.TypeName.any, none⟩, found)
  | element :: _ => shapeOf depth goName true found element

/-- The fields of the members of an object. -/
def fieldsOf (depth : Nat) (found : List NestedType) :
    List (Text × Json) → Except Failure (List Field × List NestedType)
  | [] => .ok ([], found)
  | (key, value) :: rest => do
    let (shape, found) ← shapeOf depth (Naming.camel key) false found value
    let first ← field (Json.memberField key value shape)
    let (fields, found) ← fieldsOf depth found rest
    return (first :: fields, found)

end

/-- Decodes a text. -/
def load (t : Text) : Except Failure Json := (Json.read t).mapError .notJson

/-- Decodes a text that has to be an object. A text that is no JSON is a bad document. -/
def loadObject (t : Text) : Except Failure (List (Text × Json)) := do
  let document ← (load t).tryCatch fun
    | .notJson .tooDeep => .error (.badDocument .tooDeep)
    | .notJson error => .error (.badDocument (.notJson error))
    | other => .error other
  match document with
  | .object members => return members
  | _ => .error (.badDocument .notAnObject)

/-! ## Readings -/

/-- Reads a statement. -/
def readStatement (dialect : Sql) (t : Text) : Except Failure Reading :=
  match Sql.Statement.read dialect t with
  | .error error => return { error := some (.statement error) }
  | .ok s => do
    let fields ← s.columns.mapM (columnField dialect)
    return { schema := { tableName := some s.tableName, fields } }

/-- Reads a document. What is bad about it is left on the reading. -/
def readDocument (structName t : Text) : Except Failure Reading :=
  Except.tryCatch
    (do
      let members ← loadObject t
      let (fields, nestedTypes) ← fieldsOf 0 [] members
      return { schema := { structName := some structName, fields, nestedTypes } })
    fun
    | .badDocument error => .ok { schema := { structName := some structName }, error := some (.document error) }
    | other => .error other

/-- Reads a text. -/
def reading (t : Text) : Reader → Except Failure Reading
  | .sql dialect => readStatement dialect t
  | .json structName => readDocument structName t

/-! ## Conversions -/

/-- Whether a text is a JSON object or array. A text that is no JSON is none. -/
def isJsonContainer (t : Text) : Except Failure Bool :=
  Except.tryCatch
    (do
      match ← load t with
      | .object _ | .array _ => return true
      | _ => return false)
    fun
    | .notJson _ => .ok false
    | other => .error other

/-- The source of a text. -/
def detect (t : Text) : Except Failure (Option Source) := do
  let trimmed := Text.trim t
  if Detection.hasStatement trimmed then return some (.sql (Detection.sqlDialect trimmed))
  else return if ← isJsonContainer trimmed then some .json else none

/-- The source that a request asks for. -/
def resolve (t : Text) : Request → Except Failure (Option Source)
  | .detect => detect t
  | .given source => .ok source
  | .byName name =>
    match Source.ofAnyCase? name with
    | some source => .ok source
    | none => .error (.refused (.unsupportedDialect name))

/-- Reads a text under a request. -/
def parse (t : Text) (request : Request) (structName : Text) : Except Failure (Source × Reading) := do
  match ← resolve t request with
  | none => .error (.refused .unknownInput)
  | some source =>
    let reader ← (Reader.forSource structName (some source)).mapError .noReader
    return (source, ← reading t reader)

/-- Converts a text under a request. -/
def convert (t : Text) (request : Request) (o : Go.Options) (given : Option Text) : Except Failure Result := do
  let (source, reading) ← parse t request (documentName given o)
  match reading.error with
  | some error => .error (.refused (.unreadable error))
  | none =>
    let code ← (Go.code reading.schema o).mapError fun _ => .tooDeep
    return resultOf source reading.schema o code

/-! ## What does not happen -/

/-- A field that is serialised under its source name comes out of its check as it is. -/
theorem check_eq_ok {f : Field} (hname : f.targetName ≠ []) (hserialized : f.serializedName = f.sourceName) :
    f.check = .ok f := by
  have hempty : ¬f.targetName.isEmpty = true := by rwa [List.isEmpty_iff]
  have hsame : { f with serializedName := f.sourceName } = f := by
    cases f
    cases hserialized
    rfl
  rw [Field.check, if_neg hempty, hsame, ite_self]

theorem camel_ne_nil (name : Text) : Naming.camel name ≠ [] := by
  obtain ⟨c, t, h, -⟩ := (Naming.isGoName_camel name).start
  rw [h]
  exact List.cons_ne_nil c t

/-- The field of a column has a name. -/
theorem field_fieldOf (dialect : Sql) (c : Sql.ColumnText) (goType : Text) :
    field (c.fieldOf dialect goType) = .ok (c.fieldOf dialect goType) := by
  rw [field, check_eq_ok (camel_ne_nil c.name) rfl]
  rfl

/-- The field of a member has a name, also if the key is empty. -/
theorem field_memberField (key : Text) (value : Json) (shape : Json.Shape) :
    field (Json.memberField key value shape) = .ok (Json.memberField key value shape) := by
  rw [field, check_eq_ok (camel_ne_nil key) rfl]
  rfl

/-- Every source has a type table. -/
theorem typeTable_some (source : Source) : typeTable (some source) = .ok source.types := by
  have hlookup : typeTables.lookup source = some source.types := by
    rcases source with (_ | _ | _) | _ <;> rfl
  rw [typeTable, Option.bind_some, hlookup]

theorem lookup?_eq (dialect : Sql) (type : Text) : lookup? dialect type = .ok (dialect.lookup? type) := by
  rw [lookup?, Sql.lookup?, typeTable_some]
  show (match Sql.longestEligible? dialect.types type with
    | some goType => .ok (some goType)
    | none => .ok (if dialect = .sqlite then Sql.affinity? type else none)) = Except.ok _
  cases Sql.longestEligible? dialect.types type <;> rfl

theorem goType_eq (dialect : Sql) (type : Text) :
    goType dialect type = (dialect.goType type).mapError fun _ => .tooDeep := by
  rw [goType, Sql.goType, Sql.TypeReading.goType, Sql.readType]
  simp only [lookup?_eq]
  by_cases hdialect : dialect = .postgresql
  · simp only [if_pos hdialect]
    rcases Sql.peelArrays (Sql.normalType type).length (Sql.normalType type) with ⟨_ | depth, element⟩
    · rfl
    · simp only [Nat.add_eq_zero_iff, Nat.one_ne_zero, and_false, if_false]
      split <;> rfl
  · simp only [if_neg hdialect]
    rfl

theorem columnField_eq (dialect : Sql) (c : Sql.ColumnText) :
    columnField dialect c = (c.toField dialect).mapError fun _ => .tooDeep := by
  rw [columnField, goType_eq, Sql.ColumnText.toField]
  cases dialect.goType c.type with
  | error e => rfl
  | ok goType => exact field_fieldOf dialect c goType

/-- Work that fails alike on every element fails alike on all of them. -/
theorem mapM_mapError {α β : Type} {f : α → Except TooDeep β} {g : α → Except Failure β}
    (h : ∀ a, g a = (f a).mapError fun _ => .tooDeep) (as : List α) :
    as.mapM g = (as.mapM f).mapError fun _ => .tooDeep := by
  induction as with
  | nil => rfl
  | cons a as ih =>
    rw [List.mapM_cons, List.mapM_cons, h, ih]
    cases f a with
    | error e => rfl
    | ok b => cases as.mapM f <;> rfl

theorem readStatement_eq (dialect : Sql) (t : Text) :
    readStatement dialect t = ((Reader.sql dialect).reading t).mapError fun _ => .tooDeep := by
  rw [readStatement, Reader.reading, Reader.read, Sql.readSchema]
  cases hread : Sql.Statement.read dialect t with
  | error e =>
    cases e with
    | noTableName => rfl
    | noBody => rfl
    | typeTooDeep => exact absurd hread (Sql.Statement.read_ne_typeTooDeep dialect t)
  | ok s =>
    simp only [mapM_mapError (columnField_eq dialect), Except.bind, Sql.Statement.toSchema]
    rcases s.columns.mapM (Sql.ColumnText.toField dialect) with ⟨⟨⟩⟩ | fields <;> rfl

/-- What has no result is nested too deep. -/
def orTooDeep {α : Type} : Option α → Except Failure α
  | some a => .ok a
  | none => .error (.badDocument .tooDeep)

/-! A shape that is missing is the only failure in a document, as the fields of members always have names. -/

mutual

theorem shapeOf_eq : ∀ (value : Json) (depth : Nat) (goName : Text) (inArray : Bool) (found : List NestedType),
    shapeOf depth goName inArray found value = orTooDeep (Json.shapeOf depth goName inArray found value)
  | .object members, depth, goName, inArray, found => by
    rw [shapeOf, Json.shapeOf, fieldsOf_eq members]
    split
    · rfl
    · cases Json.fieldsOf (depth + 1) found members <;> rfl
  | .array elements, depth, goName, inArray, found => by
    rw [shapeOf, Json.shapeOf, elementShape_eq elements]
    split
    · rfl
    · cases Json.elementShape (depth + 1) goName found elements <;> rfl
  | .null, _, _, _, _ | .bool _, _, _, _, _ | .int _, _, _, _, _ | .float _, _, _, _, _ | .string _, _, _, _, _ => rfl

theorem elementShape_eq : ∀ (elements : List Json) (depth : Nat) (goName : Text) (found : List NestedType),
    elementShape depth goName found elements = orTooDeep (Json.elementShape depth goName found elements)
  | [], _, _, _ => rfl
  | first :: _, depth, goName, found => shapeOf_eq first depth goName true found

theorem fieldsOf_eq : ∀ (members : List (Text × Json)) (depth : Nat) (found : List NestedType),
    fieldsOf depth found members = orTooDeep (Json.fieldsOf depth found members)
  | [], _, _ => rfl
  | (key, value) :: rest, depth, found => by
    rw [fieldsOf, Json.fieldsOf, shapeOf_eq value]
    cases Json.shapeOf depth (Naming.camel key) false found value with
    | none => rfl
    | some r =>
      obtain ⟨shape, found'⟩ := r
      simp only [orTooDeep, bind, Except.bind, field_memberField, fieldsOf_eq rest]
      cases Json.fieldsOf depth found' rest <;> rfl

end

theorem readDocument_eq (structName t : Text) :
    readDocument structName t = ((Reader.json structName).reading t).mapError fun _ => .tooDeep := by
  rw [readDocument, loadObject, load, Reader.reading, Reader.read, Json.readSchema]
  cases Json.read t with
  | error e => cases e <;> rfl
  | ok document =>
    cases document with
    | object members =>
      show Except.tryCatch (fieldsOf 0 [] members >>= _) _ = _
      rw [fieldsOf_eq]
      simp only [Json.schemaOf]
      cases Json.fieldsOf 0 [] members <;> rfl
    | _ => rfl

theorem reading_eq (t : Text) (reader : Reader) :
    reading t reader = (reader.reading t).mapError fun _ => .tooDeep := by
  cases reader with
  | sql dialect => exact readStatement_eq dialect t
  | json structName => exact readDocument_eq structName t

theorem isJsonContainer_eq (t : Text) : isJsonContainer t = .ok (Detection.isJsonContainer t) := by
  rw [isJsonContainer, load, Detection.isJsonContainer]
  cases Json.read t with
  | error e => rfl
  | ok document => cases document <;> rfl

theorem resolve_eq (t : Text) (request : Request) :
    resolve t request = (Conversion.resolve t request).mapError .ofError := by
  cases request with
  | detect =>
    show detect t = .ok (Detection.detect t)
    simp only [detect, Detection.detect, isJsonContainer_eq]
    split
    · rfl
    · cases Detection.isJsonContainer (Text.trim t) <;> rfl
  | given source => rfl
  | byName name =>
    rw [resolve, Conversion.resolve]
    cases Source.ofAnyCase? name <;> rfl

theorem parse_eq (t : Text) (request : Request) (structName : Text) :
    parse t request structName = (Conversion.parse t request structName).mapError .ofError := by
  rw [parse, resolve_eq, Conversion.parse]
  cases Conversion.resolve t request with
  | error e => rfl
  | ok found =>
    cases found with
    | none => rfl
    | some source =>
      show reading t (Reader.ofSource structName source) >>= _ = _
      rw [reading_eq]
      cases hreading : (Reader.ofSource structName source).reading t with
      | error e => simp only [bind, Except.bind, Except.mapError, hreading, Failure.ofError]
      | ok reading => simp only [bind, Except.bind, Except.mapError, hreading]; rfl

/-- Nothing is left of the failures of the steps but the errors of a conversion. -/
theorem convert_eq (t : Text) (request : Request) (o : Go.Options) (given : Option Text) :
    convert t request o given = (Conversion.convert t request o given).mapError .ofError := by
  rw [convert, parse_eq, Conversion.convert]
  cases Conversion.parse t request (documentName given o) with
  | error e => rfl
  | ok r =>
    -- an error on the reading is refused on both sides, so that only the code can still fail
    obtain ⟨source, schema, _ | e⟩ := r
    · simp only [bind, Except.bind, Except.mapError]
      cases Go.code schema o <;> rfl
    · rfl

end Checked

/-! ## What happens -/

namespace Conversion

variable {t : Text} {request : Request} {o : Go.Options} {given : Option Text}

/-- There is code for all that is read from a text. -/
theorem exists_code_of_read {source : Source} {structName : Text} {schema : Schema}
    (h : (Reader.ofSource structName source).read t = .ok schema) (o : Go.Options) :
    ∃ code, Go.code schema o = .ok code := by
  cases source with
  | sql dialect =>
    obtain ⟨table, -, hschema, hfields⟩ := Sql.schema_of_readSchema (Reader.read_sql_eq_ok.mp h)
    have htypes : schema.nestedTypes = [] := by rw [hschema]
    have hlines := Go.fieldLines_of_unnested htypes (fun f hf => (hfields f hf).unnested) o
    exact ⟨_, by rw [Go.code, hlines]; rfl⟩
  | json =>
    obtain ⟨members, entries, -, hs⟩ := Json.exists_isSchemaOf (Reader.read_json_eq_ok.mp h)
    exact Go.exists_code hs o

/-- A text is converted exactly if the request has a source under which the text is read without an error. -/
theorem exists_convert_iff :
    (∃ r, convert t request o given = .ok r) ↔
      ∃ source schema, resolve t request = .ok (some source) ∧
        (Reader.ofSource (documentName given o) source).reading t = .ok ⟨schema, none⟩ := by
  constructor
  · rintro ⟨r, hr⟩
    obtain ⟨hresolve, hread, -⟩ := exists_read_of_convert hr
    exact ⟨r.source, r.schema, hresolve, Reader.reading_of_read hread⟩
  · rintro ⟨source, schema, hresolve, hreading⟩
    have hread := Reader.reading_eq_ok_none_iff.mp hreading
    obtain ⟨code, hcode⟩ := exists_code_of_read hread o
    exact ⟨resultOf source schema o code, by rw [convert_of_read hresolve hread, hcode]; rfl⟩

theorem resolve_ne_tooDeep (t : Text) (request : Request) : resolve t request ≠ .error .tooDeep := by
  cases request with
  | detect => nofun
  | given source => nofun
  | byName name =>
    rw [resolve]
    split <;> nofun

/-- A conversion is too deep exactly if nothing can be left of the reading. -/
theorem convert_eq_tooDeep_iff_reading :
    convert t request o given = .error .tooDeep ↔
      ∃ source, resolve t request = .ok (some source) ∧
        (Reader.ofSource (documentName given o) source).reading t = .error .tooDeep := by
  refine ⟨fun h => ?_, fun ⟨source, hresolve, hreading⟩ => convert_of_reading_tooDeep hresolve hreading⟩
  cases hresolve : resolve t request with
  | error e =>
    rw [convert_of_resolve_error hresolve] at h
    cases h
    exact absurd hresolve (resolve_ne_tooDeep t request)
  | ok found =>
    cases found with
    | none =>
      rw [convert_of_resolve_none hresolve] at h
      cases h
    | some source =>
      refine ⟨source, rfl, ?_⟩
      rcases hreading : (Reader.ofSource (documentName given o) source).reading t with ⟨⟨⟩⟩ | ⟨schema, _ | e⟩
      · rfl
      · obtain ⟨r, hr⟩ := exists_convert_iff.mpr ⟨source, schema, hresolve, hreading⟩
        rw [hr] at h
        cases h
      · rw [convert_of_reading_error hresolve hreading] at h
        cases h

/-- Only a statement can have types that are too deep. -/
theorem read_typeTooDeep_iff {source : Source} {structName : Text} :
    (Reader.ofSource structName source).read t = .error (.statement .typeTooDeep) ↔
      ∃ dialect, source = .sql dialect ∧ Sql.readSchema dialect t = .error .typeTooDeep := by
  cases source with
  | sql dialect =>
    simp only [Source.sql.injEq, exists_eq_left']
    refine mapError_eq_error_iff.trans ⟨fun ⟨e, he, hsame⟩ => ?_, fun h => ⟨_, h, rfl⟩⟩
    cases hsame
    exact he
  | json =>
    refine iff_of_false (fun h => ?_) (fun ⟨dialect, hsource, _⟩ => by cases hsource)
    obtain ⟨e, -, hsame⟩ := mapError_eq_error_iff.mp h
    cases hsame

/-- A statement of PostgreSQL is asked for, and one of its columns has too many array suffixes. -/
def HasDeepColumn (t : Text) (request : Request) : Prop :=
  resolve t request = .ok (some (.sql .postgresql)) ∧ ∃ s, Sql.Statement.read .postgresql t = .ok s ∧
    ∃ c ∈ s.columns, Sql.HasSuffixes (Sql.maxArrayDepth + 1) (Sql.normalType c.type)

theorem convert_eq_tooDeep_iff : convert t request o given = .error .tooDeep ↔ HasDeepColumn t request := by
  rw [convert_eq_tooDeep_iff_reading]
  constructor
  · rintro ⟨source, hresolve, hreading⟩
    obtain ⟨dialect, rfl, hschema⟩ := read_typeTooDeep_iff.mp (Reader.reading_eq_tooDeep_iff.mp hreading)
    obtain ⟨s, hstatement, c, hc, hdeep⟩ := Sql.readSchema_tooDeep_iff.mp hschema
    obtain ⟨rfl, hsuffixes⟩ := Sql.goType_tooDeep_iff.mp hdeep
    exact ⟨hresolve, s, hstatement, c, hc, hsuffixes⟩
  · rintro ⟨hresolve, s, hstatement, c, hc, hsuffixes⟩
    have hschema := Sql.readSchema_tooDeep_iff.mpr ⟨s, hstatement, c, hc, Sql.goType_tooDeep_iff.mpr ⟨rfl, hsuffixes⟩⟩
    exact ⟨_, hresolve, Reader.reading_eq_tooDeep_iff.mpr (read_typeTooDeep_iff.mpr ⟨_, rfl, hschema⟩)⟩

end Conversion

namespace Checked

/-- A text is converted or refused, and no other failure is left. -/
def Settled (r : Except Failure Result) : Prop := (∃ result, r = .ok result) ∨ ∃ error, r = .error (.refused error)

/-- An error is a refusal unless something is too deep. -/
theorem settled_mapError_iff {r : Except Conversion.Error Result} :
    Settled (r.mapError .ofError) ↔ r ≠ .error .tooDeep := by
  cases r with
  | ok result => exact iff_of_true (.inl ⟨result, rfl⟩) nofun
  | error e =>
    cases e with
    | tooDeep => exact iff_of_false (fun h => by rcases h with ⟨_, h⟩ | ⟨_, h⟩ <;> cases h) fun h => h rfl
    | unsupportedDialect name => exact iff_of_true (.inr ⟨_, rfl⟩) nofun
    | unknownInput => exact iff_of_true (.inr ⟨_, rfl⟩) nofun
    | unreadable e => exact iff_of_true (.inr ⟨_, rfl⟩) nofun

/-- With all failures of its steps, a conversion is what it is, and has a result exactly if the request has a source
under which the text is read without an error. It converts a text or refuses it, unless a column of PostgreSQL has too
many array suffixes. -/
theorem settled_convert_iff (t : Text) (request : Request) (o : Go.Options) (given : Option Text) :
    convert t request o given = (Conversion.convert t request o given).mapError .ofError ∧
      ((∃ r, convert t request o given = .ok r) ↔
        ∃ source schema, Conversion.resolve t request = .ok (some source) ∧
          (Reader.ofSource (documentName given o) source).reading t = .ok ⟨schema, none⟩) ∧
      (Settled (convert t request o given) ↔ ¬HasDeepColumn t request) := by
  refine ⟨convert_eq t request o given, ?_, ?_⟩
  · rw [convert_eq, ← exists_convert_iff]
    exact exists_congr fun r => mapError_eq_ok_iff
  · rw [convert_eq, settled_mapError_iff, Ne, convert_eq_tooDeep_iff]

theorem hasDeepColumn_arrayTable {n : Nat} (h : Sql.maxArrayDepth < n) :
    HasDeepColumn (Sql.arrayTable n) (.byName "postgresql") := by
  have hname : Source.ofAnyCase? "postgresql" = some (some (.sql .postgresql)) := by decide +kernel
  refine ⟨by rw [Conversion.resolve, hname], _, Sql.read_arrayTable n, _, List.mem_singleton_self _, ?_⟩
  exact (Sql.goType_tooDeep_iff.mp (Sql.goType_arrayType h)).2

/-- A column of 1500 nested arrays is neither converted nor refused. -/
theorem not_settled_arrayTable :
    ¬Settled (convert (Sql.arrayTable 1500) (.byName "postgresql") {} none) := by
  rw [convert_eq, settled_mapError_iff, Ne, convert_eq_tooDeep_iff, not_not]
  exact hasDeepColumn_arrayTable (by decide)

end Checked

end StructForge
