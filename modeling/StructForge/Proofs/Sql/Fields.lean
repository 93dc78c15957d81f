import StructForge.Proofs.Go.Rows
import StructForge.Proofs.Naming
import StructForge.Proofs.Sql.Options

/-!
# The fields of a statement

Whatever a statement looks like, its table and its columns are named by words (`IsWord`), the type of a field is slices
of a Go type of columns (`isColumnType_of_readSchema`), and its comment is one line that ends in ink, as blanks of all
kinds become single spaces (`IsColumnField`, `schema_of_readSchema`).
-/

namespace StructForge.Sql

open Text

/-! ## Names -/

/-- A name: at least one character, and word characters only. -/
structure IsWord (name : Text) : Prop where
  ne_nil : name ≠ []
  chars : ∀ c ∈ name, isWordChar c = true

theorem IsWord.newline_not_mem {name : Text} (h : IsWord name) : '\n' ∉ name := fun hmem =>
  absurd (h.chars _ hmem) (by decide +kernel)

theorem IsWord.endsInk {name : Text} (h : IsWord name) : EndsInk name := endsInk_of_isWordChar h.ne_nil h.chars

theorem isWord_of_readName? {dialect : Sql} {t : Text} {x : Text × Text} (h : dialect.readName? t = some x) :
    IsWord x.1 := by
  refine ⟨?_, isWordChar_of_readName? h⟩
  rw [readName?] at h
  split at h
  · cases h
  · rename_i name rest hne _
    cases h
    rintro rfl
    exact hne rfl

theorem isWord_of_readTableName? {dialect : Sql} {t : Text} {x : Text × Text}
    (h : dialect.readTableName? t = some x) : IsWord x.1 := by
  rw [readTableName?] at h
  split at h
  · rename_i name rest hname
    rcases Option.or_eq_some_iff.mp h with h | ⟨_, h⟩
    · exact isWord_of_readName? h
    · cases h
      exact isWord_of_readName? hname
  · exact isWord_of_readName? h

theorem isWord_of_readHead? {dialect : Sql} {t : Text} {x : Text × Text} (h : dialect.readHead? t = some x) :
    IsWord x.1 := by
  simp only [readHead?, Option.bind_eq_bind, Option.bind_eq_some_iff, Option.or_eq_some_iff] at h
  obtain ⟨_, _, ⟨_, _, hname⟩ | ⟨_, hname⟩⟩ := h
  · exact isWord_of_readTableName? hname
  · exact isWord_of_readTableName? hname

theorem isWord_of_findHead? {dialect : Sql} {t : Text} {x : Text × Text} (h : dialect.findHead? t = some x) :
    IsWord x.1 := by
  obtain ⟨_, _, hread⟩ := exists_read_of_search h
  exact isWord_of_readHead? hread

/-! ## Types -/

theorem longerEntry_eq {α : Type} (best : Option (Text × α)) (entry : Text × α) :
    longerEntry best entry = some entry ∨ longerEntry best entry = best := by
  cases best with
  | none => exact .inl rfl
  | some b =>
    rw [longerEntry]
    split
    · exact .inl rfl
    · exact .inr rfl

/-- The best entry is one of the table, if it was not there before. -/
theorem mem_of_foldl_longerEntry {α : Type} {entry : Text × α} {table : List (Text × α)} {best : Option (Text × α)}
    (h : table.foldl longerEntry best = some entry) : best = some entry ∨ entry ∈ table := by
  induction table generalizing best with
  | nil => exact .inl h
  | cons first rest ih =>
    rcases ih h with h | h
    · rcases longerEntry_eq best first with hfirst | hfirst
      · rw [hfirst] at h
        cases h
        exact .inr List.mem_cons_self
      · exact .inl (hfirst ▸ h)
    · exact .inr (List.mem_cons_of_mem first h)

/-- A type that is looked up is one of the table or of the affinities. -/
theorem exists_of_lookup? {dialect : Sql} {type goType : Text} (h : dialect.lookup? type = some goType) :
    (∃ key, (key, goType) ∈ dialect.types) ∨ ∃ words, (words, goType) ∈ affinityRules := by
  rw [lookup?] at h
  split at h
  · rename_i found hfound
    cases h
    obtain ⟨⟨key, _⟩, hfold, rfl⟩ := Option.map_eq_some_iff.mp hfound
    have hmem := (mem_of_foldl_longerEntry hfold).resolve_left (Option.some_ne_none _).symm
    exact .inl ⟨key, List.mem_of_mem_filter hmem⟩
  · split at h
    · obtain ⟨⟨words, _⟩, hfind, rfl⟩ := Option.map_eq_some_iff.mp h
      exact .inr ⟨words, List.mem_of_find?_eq_some hfind⟩
    · cases h

/-- The Go types of columns. -/
def columnTypes : List Text :=
  [Go.TypeName.string, Go.TypeName.int, Go.TypeName.int64, Go.TypeName.float64, Go.TypeName.bool, Go.TypeName.bytes,
   Go.TypeName.time, Go.TypeName.rawJson]

/-- Slices of a Go type of columns. -/
def IsColumnType (goType : Text) : Prop := ∃ depth, ∃ base ∈ columnTypes, goType = Go.TypeName.slices depth base

/-- What is looked up, or is text because nothing is found, is a type of columns. -/
theorem lookup?_mem_columnTypes (dialect : Sql) (type : Text) :
    (dialect.lookup? type).getD Go.TypeName.string ∈ columnTypes := by
  have htable : ∀ e ∈ dialect.types, e.2 ∈ columnTypes := by cases dialect <;> decide
  have haffinities : ∀ e ∈ affinityRules, e.2 ∈ columnTypes := by decide
  cases hfound : dialect.lookup? type with
  | none => exact List.mem_cons_self
  | some found =>
    rcases exists_of_lookup? hfound with ⟨key, hmem⟩ | ⟨words, hmem⟩
    · exact htable _ hmem
    · exact haffinities _ hmem

theorem goType?_mem_columnTypes (dialect : Sql) (type : Text) :
    (readType dialect type).goType?.getD Go.TypeName.string ∈ columnTypes := by
  rw [readType]
  split
  · split <;> exact lookup?_mem_columnTypes dialect _
  · exact lookup?_mem_columnTypes dialect _

theorem isColumnType_of_goType {dialect : Sql} {type goType : Text} (h : dialect.goType type = .ok goType) :
    IsColumnType goType := by
  rw [Sql.goType, TypeReading.goType] at h
  split at h
  · cases h
  · cases h
    exact ⟨_, _, goType?_mem_columnTypes dialect type, rfl⟩

/-- The type of a field is one line. -/
theorem newline_not_mem_goType {dialect : Sql} {type goType : Text} (h : dialect.goType type = .ok goType) :
    '\n' ∉ goType := by
  have hlines : ∀ base ∈ columnTypes, '\n' ∉ base := by decide
  obtain ⟨depth, base, hbase, rfl⟩ := isColumnType_of_goType h
  exact Go.newline_not_mem_slices (hlines base hbase) depth

/-! ## Comments -/

/-- A comment is one line that ends in ink: the name of the column, or words with single spaces between them. -/
theorem comment_line {dialect : Sql} {name : Text} (hname : IsWord name) (rest : Text) :
    '\n' ∉ dialect.comment name rest ∧ EndsInk (dialect.comment name rest) := by
  have hcolumn : '\n' ∉ name ∧ EndsInk name := ⟨hname.newline_not_mem, hname.endsInk⟩
  cases dialect with
  | postgresql | sqlite => exact hcolumn
  | mysql =>
    rw [comment]
    split
    · rename_i word more hwords
      obtain ⟨literal, _, hliteral⟩ := Option.map_eq_some_iff.mp hwords
      have hword : ∀ w ∈ word :: more, w ≠ [] ∧ ∀ c ∈ w, isBlank c = false := fun w hw =>
        isBlank_of_mem_words (hliteral ▸ hw)
      refine ⟨not_mem_join (by decide) fun w hw hmem => ?_, .join (List.cons_ne_nil word more) fun w hw => ?_⟩
      · exact absurd ((hword w hw).2 _ hmem) (by decide)
      · exact endsInk_of_forall (hword w hw).1 (hword w hw).2
    · exact hcolumn

/-! ## Fields -/

/-- A field that was made for a column. -/
structure IsColumnField (f : Field) : Prop where
  name : IsWord f.serializedName
  targetName : f.targetName = Naming.camel f.serializedName
  stored : f.storageColumn = some f.serializedName
  unnested : f.nested = none
  type_line : '\n' ∉ f.targetType
  comment_line : ∃ comment, f.comment = some comment ∧ '\n' ∉ comment ∧ EndsInk comment

theorem isColumnField_of_toField {dialect : Sql} {column : ColumnText} {f : Field} (hname : IsWord column.name)
    (h : column.toField dialect = .ok f) : IsColumnField f := by
  obtain ⟨goType, htype, rfl⟩ := exists_goType_of_toField h
  exact ⟨hname, rfl, rfl, rfl, newline_not_mem_goType htype, _, rfl, Sql.comment_line hname column.rest⟩

/-- The column on a line is named by a word. -/
theorem isWord_of_column? {dialect : Sql} {line : Text} {column : ColumnText}
    (h : (Line.read dialect line).column? = some column) : IsWord column.name := by
  rw [column?_read] at h
  split at h
  · cases h
  · obtain ⟨_, _, _, hname, _⟩ := readColumn?_eq_some.mp h
    exact isWord_of_readName? hname

/-- The table and the columns of a statement are named by words. -/
theorem isWord_of_read {dialect : Sql} {t : Text} {s : Statement} (h : Statement.read dialect t = .ok s) :
    IsWord s.tableName ∧ ∀ column ∈ s.columns, IsWord column.name := by
  rw [Statement.read] at h
  split at h
  · cases h
  · rename_i table rest hhead
    split at h
    · cases h
    · cases h
      refine ⟨isWord_of_findHead? hhead, fun column hcolumn => ?_⟩
      obtain ⟨l, hl, hline⟩ := List.mem_filterMap.mp hcolumn
      obtain ⟨line, _, rfl⟩ := List.mem_map.mp hl
      exact isWord_of_column? hline

/-- What is read from a text is the schema of its statement, with a field for every column and nothing else. -/
theorem exists_columns_of_readSchema {dialect : Sql} {t : Text} {schema : Schema}
    (h : readSchema dialect t = .ok schema) :
    ∃ s, Statement.read dialect t = .ok s ∧ s.columns.mapM (ColumnText.toField dialect) = .ok schema.fields ∧
      schema = { tableName := some s.tableName, fields := schema.fields } := by
  rw [readSchema] at h
  cases hread : Statement.read dialect t with
  | error e =>
    rw [hread] at h
    cases h
  | ok s =>
    rw [hread] at h
    simp only [Except.bind, Statement.toSchema] at h
    cases hfields : s.columns.mapM (ColumnText.toField dialect) with
    | error e =>
      rw [hfields] at h
      cases h
    | ok fields =>
      rw [hfields] at h
      cases h
      exact ⟨s, rfl, hfields, rfl⟩

theorem schema_of_readSchema {dialect : Sql} {t : Text} {schema : Schema} (h : readSchema dialect t = .ok schema) :
    ∃ table, IsWord table ∧ schema = { tableName := some table, fields := schema.fields } ∧
      ∀ f ∈ schema.fields, IsColumnField f := by
  obtain ⟨s, hread, hfields, hschema⟩ := exists_columns_of_readSchema h
  obtain ⟨htable, hcolumns⟩ := isWord_of_read hread
  refine ⟨s.tableName, htable, hschema, fun f hf => ?_⟩
  obtain ⟨column, hcolumn, hfield⟩ := exists_mem_of_mapM hfields hf
  exact isColumnField_of_toField (hcolumns column hcolumn) hfield

/-- The type of a field is slices of a type of columns. -/
theorem isColumnType_of_readSchema {dialect : Sql} {t : Text} {schema : Schema}
    (h : readSchema dialect t = .ok schema) {f : Field} (hf : f ∈ schema.allFields) : IsColumnType f.targetType := by
  obtain ⟨s, -, hfields, hschema⟩ := exists_columns_of_readSchema h
  rw [hschema] at hf
  obtain ⟨column, -, hfield⟩ := exists_mem_of_mapM hfields (by simpa [Schema.allFields] using hf)
  obtain ⟨goType, htype, rfl⟩ := exists_goType_of_toField hfield
  exact isColumnType_of_goType htype

end StructForge.Sql
