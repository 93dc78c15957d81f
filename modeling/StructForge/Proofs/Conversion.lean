import StructForge.Conversion

/-!
# Conversions step by step

Parsing resolves the request and then reads the text under the source that was found (`parse_of_resolve`). A conversion
that succeeds has done so, and has the code for the schema that was read (`exists_read_of_convert`) and nothing else
(`eq_resultOf_of_convert`); where these steps succeed, the conversion does (`convert_of_read`), and where one fails, it
fails with the error of that step (`convert_of_resolve_error`, `convert_of_reading_error`). Of a request, only the
source that it resolves to matters (`convert_congr`).
-/

namespace StructForge

/-! ## Readers -/

/-- Another error makes no result. -/
theorem mapError_eq_ok_iff {ε δ α : Type} {f : ε → δ} {r : Except ε α} {a : α} : r.mapError f = .ok a ↔ r = .ok a := by
  cases r with
  | error e => exact ⟨fun h => (by cases h), fun h => (by cases h)⟩
  | ok b => exact ⟨fun h => (by cases h; rfl), fun h => (by cases h; rfl)⟩

theorem mapError_eq_error_iff {ε δ α : Type} {f : ε → δ} {r : Except ε α} {d : δ} :
    r.mapError f = .error d ↔ ∃ e, r = .error e ∧ f e = d := by
  cases r with
  | error e =>
    constructor
    · intro h
      exact ⟨e, rfl, Except.error.inj h⟩
    · rintro ⟨e', he, rfl⟩
      cases he
      rfl
  | ok a => exact iff_of_false nofun nofun

theorem map_eq_ok_iff {ε α β : Type} {f : α → β} {r : Except ε α} {b : β} :
    r.map f = .ok b ↔ ∃ a, r = .ok a ∧ f a = b := by
  cases r with
  | error e => exact iff_of_false nofun nofun
  | ok a => exact ⟨fun h => ⟨a, rfl, Except.ok.inj h⟩, fun ⟨a', ha, hb⟩ => by cases ha; rw [← hb]; rfl⟩

/-- What is said of the result, where there is one. -/
theorem exists_ok_of_toOption {ε α β : Type} {f : α → β} {r : Except ε α} {b : β} (h : r.toOption.map f = some b) :
    ∃ a, r = .ok a ∧ f a = b := by
  cases r with
  | error e => cases h
  | ok a => exact ⟨a, rfl, Option.some.inj h⟩

namespace Reader

variable {structName t : Text} {schema : Schema}

theorem read_sql_eq_ok {dialect : Sql} :
    (ofSource structName (.sql dialect)).read t = .ok schema ↔ Sql.readSchema dialect t = .ok schema := by
  show (Sql.readSchema dialect t).mapError SchemaError.statement = .ok schema ↔ _
  exact mapError_eq_ok_iff

theorem read_json_eq_ok :
    (ofSource structName .json).read t = .ok schema ↔ Json.readSchema structName t = .ok schema := by
  show (Json.readSchema structName t).mapError SchemaError.document = .ok schema ↔ _
  exact mapError_eq_ok_iff

variable {reader : Reader}

theorem reading_of_read (h : reader.read t = .ok schema) : reader.reading t = .ok ⟨schema, none⟩ := by
  rw [reading, h]

/-- Where a text cannot be read, the reading has the error, or a type is too deep. -/
theorem reading_of_read_error {e : SchemaError} (h : reader.read t = .error e) :
    reader.reading t = .error .tooDeep ∨ reader.reading t = .ok ⟨reader.emptySchema, some e⟩ := by
  rw [reading, h]
  rcases e with ⟨_ | _ | _⟩ | e
  · exact .inr rfl
  · exact .inr rfl
  · exact .inl rfl
  · exact .inr rfl

/-- A reading without an error has the schema that is read. -/
theorem reading_eq_ok_none_iff : reader.reading t = .ok ⟨schema, none⟩ ↔ reader.read t = .ok schema := by
  refine ⟨fun h => ?_, reading_of_read⟩
  cases hread : reader.read t with
  | error e =>
    rcases reading_of_read_error hread with hreading | hreading <;> rw [hreading] at h <;> cases h
  | ok schema' =>
    rw [reading_of_read hread] at h
    cases h
    rfl

/-- Nothing is left of a text exactly if a column type is too deep. -/
theorem reading_eq_tooDeep_iff :
    reader.reading t = .error .tooDeep ↔ reader.read t = .error (.statement .typeTooDeep) := by
  rw [reading]
  cases reader.read t with
  | ok schema' => exact iff_of_false nofun nofun
  | error e =>
    rcases e with ⟨_ | _ | _⟩ | e
    · exact iff_of_false nofun nofun
    · exact iff_of_false nofun nofun
    · exact iff_of_true rfl rfl
    · exact iff_of_false nofun nofun

end Reader

/-! ## Conversions -/

namespace Conversion

variable {t : Text} {request : Request} {o : Go.Options} {given : Option Text}

/-- The result with the code for a schema. -/
def resultOf (source : Source) (schema : Schema) (o : Go.Options) (code : Text) : Result where
  source := source
  schema := schema
  structName := Go.structName schema o
  code := code
  imports := Go.imports schema.allFields
  packageName := o.packageName

theorem convert_congr {request' : Request} (h : resolve t request = resolve t request') (o : Go.Options)
    (given : Option Text) : convert t request o given = convert t request' o given := by
  rw [convert, convert, parse, parse, h]

theorem convert_of_resolve_error {e : Error} (h : resolve t request = .error e) :
    convert t request o given = .error e := by
  rw [convert, parse, h]
  rfl

/-- A text without a source is not converted. -/
theorem convert_of_resolve_none (h : resolve t request = .ok none) :
    convert t request o given = .error .unknownInput := by
  rw [convert, parse, h]
  rfl

/-- Parsing is reading under the source of the request. -/
theorem parse_of_resolve {source : Source} (h : resolve t request = .ok (some source)) (structName : Text) :
    parse t request structName =
      (((Reader.ofSource structName source).reading t).mapError fun _ => .tooDeep).map fun reading =>
        (source, reading) := by
  rw [parse, h]
  show (((Reader.ofSource structName source).reading t).mapError fun _ => Error.tooDeep) >>= _ = _
  cases (Reader.ofSource structName source).reading t <;> rfl

/-- What is read from the text under the source of the request is what the code is for. -/
theorem convert_of_read {source : Source} {schema : Schema} (hresolve : resolve t request = .ok (some source))
    (hread : (Reader.ofSource (documentName given o) source).read t = .ok schema) :
    convert t request o given = ((Go.code schema o).mapError fun _ => .tooDeep).map (resultOf source schema o) := by
  rw [convert, parse_of_resolve hresolve, Reader.reading_of_read hread]
  show ((Go.code schema o).mapError fun _ => Error.tooDeep) >>= _ = _
  cases Go.code schema o <;> rfl

/-- The error of a reading is the reason for the refusal. -/
theorem convert_of_reading_error {source : Source} {schema : Schema} {e : SchemaError}
    (hresolve : resolve t request = .ok (some source))
    (hreading : (Reader.ofSource (documentName given o) source).reading t = .ok ⟨schema, some e⟩) :
    convert t request o given = .error (.unreadable e) := by
  rw [convert, parse_of_resolve hresolve, hreading]
  rfl

theorem convert_of_reading_tooDeep {source : Source} (hresolve : resolve t request = .ok (some source))
    (hreading : (Reader.ofSource (documentName given o) source).reading t = .error .tooDeep) :
    convert t request o given = .error .tooDeep := by
  rw [convert, parse_of_resolve hresolve, hreading]
  rfl

/-- A text that cannot be read is not converted. -/
theorem convert_of_read_error {source : Source} {e : SchemaError} (hresolve : resolve t request = .ok (some source))
    (hread : (Reader.ofSource (documentName given o) source).read t = .error e) :
    ∃ error, convert t request o given = .error error := by
  rcases Reader.reading_of_read_error hread with hreading | hreading
  · exact ⟨.tooDeep, convert_of_reading_tooDeep hresolve hreading⟩
  · exact ⟨.unreadable e, convert_of_reading_error hresolve hreading⟩

/-- A conversion has the code for a schema that was read from the text. -/
theorem exists_read_of_convert {r : Result} (h : convert t request o given = .ok r) :
    resolve t request = .ok (some r.source) ∧
      (Reader.ofSource (documentName given o) r.source).read t = .ok r.schema ∧ Go.code r.schema o = .ok r.code ∧
      r.structName = Go.structName r.schema o := by
  cases hresolve : resolve t request with
  | error e =>
    rw [convert_of_resolve_error hresolve] at h
    cases h
  | ok found =>
    cases found with
    | none =>
      rw [convert_of_resolve_none hresolve] at h
      cases h
    | some source =>
      cases hread : (Reader.ofSource (documentName given o) source).read t with
      | error e =>
        obtain ⟨error, herror⟩ := convert_of_read_error hresolve hread
        rw [herror] at h
        cases h
      | ok schema =>
        rw [convert_of_read hresolve hread] at h
        cases hcode : Go.code schema o with
        | error e =>
          rw [hcode] at h
          cases h
        | ok code =>
          rw [hcode] at h
          cases h
          exact ⟨rfl, hread, hcode, rfl⟩

/-- A result has nothing but what is made from its schema, the options and the code. -/
theorem eq_resultOf_of_convert {r : Result} (h : convert t request o given = .ok r) :
    r = resultOf r.source r.schema o r.code := by
  obtain ⟨hresolve, hread, hcode, -⟩ := exists_read_of_convert h
  rw [convert_of_read hresolve hread, hcode] at h
  exact (Except.ok.inj h).symm

end Conversion

end StructForge
