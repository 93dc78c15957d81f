import StructForge.Proofs.Json.Keys
import StructForge.Proofs.Naming.Spelling
import StructForge.Proofs.Sql.Fields

/-!
# The names of Go fields

Every field that is read has the Go name of its source name, and nothing else looks at the names of a record. So the
names of its Go fields are distinct exactly if no two source names are alike (`nodup_targetName_iff`). For the keys of
one object that does not follow from their being distinct, nor does it for columns; it does within one convention.
-/

namespace StructForge

/-! ## Go names of fields -/

/-- The Go name of a field is that of its source name. -/
def IsNamedAfterSource (f : Field) : Prop := f.targetName = Naming.camel f.sourceName

theorem Sql.isNamedAfterSource_of_readSchema {dialect : Sql} {t : Text} {schema : Schema}
    (h : Sql.readSchema dialect t = .ok schema) {f : Field} (hf : f ∈ schema.allFields) : IsNamedAfterSource f := by
  obtain ⟨s, -, hfields, hschema⟩ := exists_columns_of_readSchema h
  rw [hschema] at hf
  obtain ⟨column, -, hfield⟩ := exists_mem_of_mapM hfields (by simpa [Schema.allFields] using hf)
  obtain ⟨goType, -, rfl⟩ := exists_goType_of_toField hfield
  rfl

theorem Json.isNamedAfterSource_of_readSchema {structName t : Text} {schema : Schema}
    (h : Json.readSchema structName t = .ok schema) {f : Field} (hf : f ∈ schema.allFields) : IsNamedAfterSource f := by
  obtain ⟨key, value, shape, rfl⟩ := (Json.isMemberField_of_readSchema h hf).made
  rfl

theorem isNamedAfterSource_of_read {source : Source} {structName t : Text} {schema : Schema}
    (h : (Reader.ofSource structName source).read t = .ok schema) {f : Field} (hf : f ∈ schema.allFields) :
    IsNamedAfterSource f := by
  cases source with
  | sql dialect => exact Sql.isNamedAfterSource_of_readSchema (Reader.read_sql_eq_ok.mp h) hf
  | json => exact Json.isNamedAfterSource_of_readSchema (Reader.read_json_eq_ok.mp h) hf

/-! ## Names of records -/

/-- The fields of a record are fields of the schema. -/
theorem mem_allFields_of_mem_records {s : Schema} {record : List Field} (h : record ∈ s.records) {f : Field}
    (hf : f ∈ record) : f ∈ s.allFields := by
  rcases List.mem_cons.mp h with rfl | h
  · exact List.mem_append_left _ hf
  · obtain ⟨n, hn, rfl⟩ := List.mem_map.mp h
    exact List.mem_append_right _ (List.mem_flatMap.mpr ⟨n, hn, hf⟩)

/-- The Go names of a record, from its source names. -/
theorem map_targetName_of_read {source : Source} {structName t : Text} {schema : Schema}
    (h : (Reader.ofSource structName source).read t = .ok schema) {record : List Field}
    (hrecord : record ∈ schema.records) :
    record.map (·.targetName) = (record.map (·.sourceName)).map Naming.camel := by
  rw [List.map_map]
  exact List.map_congr_left fun f hf =>
    isNamedAfterSource_of_read h (mem_allFields_of_mem_records hrecord hf)

end StructForge
