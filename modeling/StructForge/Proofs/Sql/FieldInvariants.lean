import Mathlib.Data.List.Chain
import StructForge.Proofs.Conversion
import StructForge.Proofs.Go.SourceNames
import StructForge.Proofs.Sql.ArraySuffixes
import StructForge.Proofs.Sql.TypeEnds

/-!
# What holds of every field of a table

However malformed a text is, nothing is left of it where its statement cannot be read, and otherwise every field is a
table field (`IsTableField`): its marks agree with each other, it has one name throughout, its source type and comment
are tidy, and its Go type is one of the dialect. The tag of such a field promises what the marks promise
(`TagAgrees`). Only where a type of PostgreSQL has too many array suffixes is there no reading at all
(`reading_isSound_iff`).
-/

namespace StructForge.Sql

open Text Go.TypeName

/-! ## Comments -/

/-- No blank behind a blank. -/
def Spaced (c d : Char) : Prop := isBlank c = true → isBlank d = false

/-- Words in one line with single spaces between them. -/
structure IsTidy (t : Text) : Prop where
  ne_nil : t ≠ []
  trimmed : trim t = t
  spaces : ∀ c ∈ t, isBlank c = true → c = ' '
  single : t.IsChain Spaced

theorem isTidy_of_forall {t : Text} (hne : t ≠ []) (h : ∀ c ∈ t, isBlank c = false) : IsTidy t where
  ne_nil := hne
  trimmed := trim_of_forall h
  spaces c hc hblank := by
    rw [h c hc] at hblank
    cases hblank
  single := (List.pairwise_of_forall_mem_list (r := Spaced) fun _ _ d hd _ => h d hd).isChain

/-- Words without blanks, joined with spaces: where they start, and what stands next to each other in them. -/
theorem join_words : ∀ {ws : List Text}, ws ≠ [] → (∀ w ∈ ws, w ≠ [] ∧ ∀ c ∈ w, isBlank c = false) →
    (∀ c ∈ (join " " ws).head?, isBlank c = false) ∧ (join " " ws).IsChain Spaced
  | [w], _, h => by
    obtain ⟨hne, hw⟩ := h w List.mem_cons_self
    exact ⟨fun c hc => hw c (List.mem_of_mem_head? hc), (isTidy_of_forall hne hw).single⟩
  | w :: next :: rest, _, h => by
    obtain ⟨hne, hw⟩ := h w List.mem_cons_self
    obtain ⟨hfirst, hchain⟩ := join_words (List.cons_ne_nil next rest) fun v hv => h v (List.mem_cons_of_mem w hv)
    have hjoin : join " " (w :: next :: rest) = w ++ ' ' :: join " " (next :: rest) := by simp [join]
    rw [hjoin]
    constructor
    · obtain ⟨c, u, rfl⟩ := List.exists_cons_of_ne_nil hne
      intro d hd
      obtain rfl : c = d := Option.some.inj hd
      exact hw c List.mem_cons_self
    · have hspace : (' ' :: join " " (next :: rest)).IsChain Spaced :=
        List.isChain_cons.mpr ⟨fun c hc _ => hfirst c hc, hchain⟩
      refine (isTidy_of_forall hne hw).single.append hspace fun c hc d _ hblank => ?_
      rw [hw c (List.mem_of_mem_getLast? hc)] at hblank
      cases hblank

theorem isTidy_join {ws : List Text} (hne : ws ≠ []) (h : ∀ w ∈ ws, w ≠ [] ∧ ∀ c ∈ w, isBlank c = false) :
    IsTidy (join " " ws) := by
  obtain ⟨hfirst, hchain⟩ := join_words hne h
  have hink : EndsInk (join " " ws) := .join hne fun w hw => endsInk_of_forall (h w hw).1 (h w hw).2
  refine ⟨hink.ne_nil, trim_of_ends hfirst hink, fun c hc hblank => ?_, hchain⟩
  rcases mem_join hc with hc | ⟨w, hw, hc⟩
  · exact List.mem_singleton.mp hc
  · rw [(h w hw).2 c hc] at hblank
    cases hblank

/-- A comment is the name of the column, or words with single spaces between them. -/
theorem isTidy_comment (dialect : Sql) {name : Text} (hname : IsWord name) (rest : Text) :
    IsTidy (dialect.comment name rest) := by
  have hcolumn : IsTidy name := isTidy_of_forall hname.ne_nil fun c hc => isBlank_of_isWordChar (hname.chars c hc)
  cases dialect with
  | postgresql | sqlite => exact hcolumn
  | mysql =>
    rw [comment]
    split
    · rename_i word more hwords
      obtain ⟨literal, -, hliteral⟩ := Option.map_eq_some_iff.mp hwords
      exact isTidy_join (List.cons_ne_nil word more) fun w hw => isBlank_of_mem_words (hliteral ▸ hw)
    · exact hcolumn

/-! ## Types -/

/-- The Go types of columns without array suffixes. -/
def elementTypes (dialect : Sql) : List Text := dialect.types.map (·.2) ++ [int64, string, bytes, float64]

theorem lookup?_mem_elementTypes (dialect : Sql) (type : Text) :
    (dialect.lookup? type).getD string ∈ dialect.elementTypes := by
  have haffinities : ∀ e ∈ affinityRules, e.2 ∈ [int64, string, bytes, float64] := by decide
  cases hfound : dialect.lookup? type with
  | none => exact List.mem_append_right _ (by decide)
  | some found =>
    rcases exists_of_lookup? hfound with ⟨key, hmem⟩ | ⟨words, hmem⟩
    · exact List.mem_append_left _ (List.mem_map_of_mem hmem)
    · exact List.mem_append_right _ (haffinities _ hmem)

/-- The Go type of a column is one of its dialect, and slices of it in PostgreSQL. -/
theorem exists_slices_of_goType {dialect : Sql} {type goType : Text} (h : dialect.goType type = .ok goType) :
    ∃ depth, ∃ base ∈ dialect.elementTypes, goType = slices depth base ∧ (depth ≠ 0 → dialect = .postgresql) := by
  have helement : (readType dialect type).goType?.getD string ∈ dialect.elementTypes := by
    rw [readType]
    split
    · split <;> exact lookup?_mem_elementTypes dialect _
    · exact lookup?_mem_elementTypes dialect _
  have hdepth : (readType dialect type).depth ≠ 0 → dialect = .postgresql :=
    fun hne => Classical.byContradiction fun hother => hne (depth_of_ne_postgresql hother type)
  rw [Sql.goType, TypeReading.goType] at h
  split at h
  · cases h
  · cases h
    exact ⟨_, _, helement, rfl, hdepth⟩

/-! ## Fields -/

/-- What holds of a field of a table. -/
structure IsTableField (dialect : Sql) (f : Field) : Prop where
  key_not_null : f.isPrimaryKey = true → f.nullable = false
  generated_key : dialect = .mysql → f.isAutoIncrement = true → f.isPrimaryKey = true
  name : IsWord f.sourceName
  serialized : f.serializedName = f.sourceName
  stored : f.storageColumn = some f.sourceName
  sourceType : f.sourceType ≠ [] ∧ trim f.sourceType = f.sourceType
  targetType : ∃ depth, ∃ base ∈ dialect.elementTypes, f.targetType = slices depth base ∧
    (depth ≠ 0 → dialect = .postgresql)
  comment : ∃ comment, f.comment = some comment ∧ IsTidy comment
  unnested : f.nested = none

/-- The columns of a statement have names, and types without blanks at their ends. -/
theorem of_mem_columns {dialect : Sql} {t : Text} {s : Statement} (h : Statement.read dialect t = .ok s)
    {column : ColumnText} (hcolumn : column ∈ s.columns) :
    IsWord column.name ∧ column.type ≠ [] ∧ trim column.type = column.type := by
  refine ⟨(isWord_of_read h).2 column hcolumn, ?_⟩
  rw [Statement.read] at h
  split at h
  · cases h
  · split at h
    · cases h
    · cases h
      obtain ⟨l, hl, hline⟩ := List.mem_filterMap.mp hcolumn
      obtain ⟨line, -, rfl⟩ := List.mem_map.mp hl
      rw [column?_read] at hline
      split at hline
      · cases hline
      · obtain ⟨_, _, _, -, -, htype, -⟩ := readColumn?_eq_some.mp hline
        exact trim_of_readTypeText? htype

theorem isTableField_of_toField {dialect : Sql} {column : ColumnText} {f : Field} (hname : IsWord column.name)
    (htype : column.type ≠ [] ∧ trim column.type = column.type) (h : column.toField dialect = .ok f) :
    IsTableField dialect f := by
  obtain ⟨goType, hgoType, rfl⟩ := exists_goType_of_toField h
  exact {
    key_not_null := fun hkey => (Bool.not_eq_false' _).mpr (Bool.or_eq_true_iff.mpr (.inl hkey))
    generated_key := by
      rintro rfl hgenerated
      exact Bool.or_eq_true_iff.mpr (.inr (Bool.and_eq_true_iff.mpr ⟨hgenerated, rfl⟩))
    name := hname
    serialized := rfl
    stored := rfl
    sourceType := htype
    targetType := exists_slices_of_goType hgoType
    comment := ⟨_, rfl, isTidy_comment dialect hname column.rest⟩
    unnested := rfl }

theorem isTableField_of_readSchema {dialect : Sql} {t : Text} {schema : Schema}
    (h : readSchema dialect t = .ok schema) {f : Field} (hf : f ∈ schema.fields) : IsTableField dialect f := by
  obtain ⟨s, hread, hfields, -⟩ := exists_columns_of_readSchema h
  obtain ⟨column, hcolumn, hfield⟩ := exists_mem_of_mapM hfields hf
  obtain ⟨hname, htype⟩ := of_mem_columns hread hcolumn
  exact isTableField_of_toField hname htype hfield

end StructForge.Sql

/-! ## Tags -/

namespace StructForge.Go

open Text Text.Utf8

/-- The items that a tag has for the storage of a field. -/
theorem splitOn_storageText (f : Field) {column : Text} (h : ∀ c ∈ column, isWordChar c = true) :
    splitOn ';' (storageText f column) = storageItems f column := by
  have hflag : ∀ {isSet : Bool} {item : Text}, ';' ∉ item → ∀ g ∈ flag isSet item, ';' ∉ g := by
    intro isSet item hitem g hg
    cases isSet with
    | false => cases hg
    | true => exact List.mem_singleton.mp hg ▸ hitem
  refine splitOn_join (by simp [storageItems]) fun item hitem => ?_
  simp only [storageItems, List.mem_append, List.mem_singleton] at hitem
  obtain ((rfl | hitem) | hitem) | hitem := hitem
  · intro hmem
    rcases List.mem_append.mp hmem with hmem | hmem
    · exact absurd hmem (by decide)
    · exact absurd (h _ hmem) (by decide)
  · exact hflag (by decide) item hitem
  · exact hflag (by decide) item hitem
  · exact hflag (by decide) item hitem

/-- Which marks a tag has. -/
theorem mem_storageItems (f : Field) (column : Text) :
    ("primaryKey".toList ∈ storageItems f column ↔ f.isPrimaryKey = true) ∧
    ("autoIncrement".toList ∈ storageItems f column ↔ f.isAutoIncrement = true) ∧
    ("not null".toList ∈ storageItems f column ↔ f.nullable = false) := by
  have hflag : ∀ {isSet : Bool} {item other : Text}, item ∈ flag isSet other ↔ isSet = true ∧ item = other := by
    intro isSet item other
    cases isSet <;> simp [flag]
  simp only [storageItems, List.mem_append, List.mem_singleton, hflag]
  exact ⟨by simp, by simp, by simp⟩

/-- What a tag says of the storage of a field, item by item: a primary key is not null and, where generated values make
a key, they are a primary key. -/
structure TagAgrees (dialect : Sql) (f : Field) : Prop where
  gorm : ∃ text, valueOf? "gorm" (tag f true) = some (encode text) ∧
    ("primaryKey".toList ∈ splitOn ';' text → "not null".toList ∈ splitOn ';' text) ∧
    (dialect = .mysql → "autoIncrement".toList ∈ splitOn ';' text → "primaryKey".toList ∈ splitOn ';' text)

/-- The tag of a table field says of the storage what the field does. -/
theorem tagAgrees_of_isTableField {dialect : Sql} {f : Field} (h : dialect.IsTableField f) : TagAgrees dialect f := by
  have hstored : f.storageColumn = some f.serializedName := by rw [h.serialized, h.stored]
  have hword : ∀ c ∈ f.serializedName, isWordChar c = true := by
    rw [h.serialized]
    exact h.name.chars
  refine ⟨_, valueOf?_gorm_of_stored hstored (isPlain_of_isWordChar hword), ?_⟩
  obtain ⟨hkey, hgenerated, hnull⟩ := mem_storageItems f f.serializedName
  rw [splitOn_storageText f hword, hkey, hgenerated, hnull]
  exact ⟨h.key_not_null, h.generated_key⟩

end StructForge.Go

/-! ## Readings -/

namespace StructForge.Sql

/-- A statement of PostgreSQL with a column that has too many array suffixes. -/
def HasDeepType (dialect : Sql) (t : Text) : Prop :=
  dialect = .postgresql ∧ ∃ s, Statement.read dialect t = .ok s ∧
    ∃ c ∈ s.columns, HasSuffixes (maxArrayDepth + 1) (normalType c.type)

/-- Either an error and nothing else, or no error and table fields only. -/
def IsSound (dialect : Sql) (r : Reading) : Prop :=
  (r.error ≠ none ∧ r.schema.tableName = none ∧ r.schema.fields = [] ∧ r.schema.nestedTypes = []) ∨
  (r.error = none ∧ ∀ f ∈ r.schema.fields, dialect.IsTableField f ∧ Go.TagAgrees dialect f)

theorem reading_tooDeep_iff {dialect : Sql} {t : Text} :
    (Reader.sql dialect).reading t = .error .tooDeep ↔ HasDeepType dialect t := by
  have hread : (Reader.sql dialect).read t = .error (.statement .typeTooDeep) ↔
      readSchema dialect t = .error .typeTooDeep := by
    refine mapError_eq_error_iff.trans ⟨fun ⟨e, he, hsame⟩ => ?_, fun h => ⟨_, h, rfl⟩⟩
    cases hsame
    exact he
  rw [Reader.reading_eq_tooDeep_iff, hread, readSchema_tooDeep_iff]
  constructor
  · rintro ⟨s, hs, c, hc, hdeep⟩
    obtain ⟨hdialect, hsuffixes⟩ := goType_tooDeep_iff.mp hdeep
    exact ⟨hdialect, s, hs, c, hc, hsuffixes⟩
  · rintro ⟨hdialect, s, hs, c, hc, hsuffixes⟩
    exact ⟨s, hs, c, hc, goType_tooDeep_iff.mpr ⟨hdialect, hsuffixes⟩⟩

theorem isSound_of_reading {dialect : Sql} {t : Text} {r : Reading} (h : (Reader.sql dialect).reading t = .ok r) :
    IsSound dialect r := by
  cases hread : (Reader.sql dialect).read t with
  | error e =>
    rcases Reader.reading_of_read_error hread with hreading | hreading
    · rw [hreading] at h
      cases h
    · rw [hreading] at h
      cases h
      exact .inl ⟨nofun, rfl, rfl, rfl⟩
  | ok schema =>
    rw [Reader.reading_of_read hread] at h
    cases h
    have hschema : readSchema dialect t = .ok schema := mapError_eq_ok_iff.mp hread
    refine .inr ⟨rfl, fun f hf => ?_⟩
    have htable := isTableField_of_readSchema hschema hf
    exact ⟨htable, Go.tagAgrees_of_isTableField htable⟩

/-- Whatever a text is, it has a reading that is sound, unless a column of PostgreSQL has too many array suffixes; then
it has none. -/
theorem reading_isSound_iff (dialect : Sql) (t : Text) :
    ((∃ r, (Reader.sql dialect).reading t = .ok r ∧ IsSound dialect r) ↔ ¬HasDeepType dialect t) ∧
    ((Reader.sql dialect).reading t = .error .tooDeep ↔ HasDeepType dialect t) := by
  refine ⟨?_, reading_tooDeep_iff⟩
  rw [← reading_tooDeep_iff]
  constructor
  · rintro ⟨r, hr, -⟩ hdeep
    rw [hr] at hdeep
    cases hdeep
  · intro hdeep
    cases hreading : (Reader.sql dialect).reading t with
    | error e =>
      cases e
      exact absurd hreading hdeep
    | ok r => exact ⟨r, rfl, isSound_of_reading hreading⟩

/-- A column of 1500 nested arrays leaves no reading, with an error or without. -/
theorem not_exists_reading_arrayTable : ¬∃ r, (Reader.sql .postgresql).reading (arrayTable 1500) = .ok r := by
  have hdeep : HasDeepType .postgresql (arrayTable 1500) :=
    ⟨rfl, _, read_arrayTable 1500, _, List.mem_singleton_self _,
      (goType_tooDeep_iff.mp (goType_arrayType (by decide))).2⟩
  rintro ⟨r, hr⟩
  rw [reading_tooDeep_iff.mpr hdeep] at hr
  cases hr

end StructForge.Sql
