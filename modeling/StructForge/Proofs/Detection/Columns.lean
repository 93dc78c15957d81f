import StructForge.Proofs.Conversion
import StructForge.Proofs.Detection.Documents
import StructForge.Proofs.Sql.QuotedNames

/-!
# Columns under the detected dialect

A statement may be detected as one of a dialect other than that it is written in, and then its names may be in quotes
that the reader does not know. The table and the columns stay the same if the detected dialect *keeps* the statement
(`QuotedTable.Keeps`): it sees the name of the table, has the quotes of the columns, and reads no other line as a
column. Among dialects with quotes in common, only one that keeps the statement does so (`agrees_iff_keeps`).
-/

namespace StructForge.Detection

open Text

/-! ## Statements with quoted names -/

/-- A statement in which the names of the table and of the columns are in the quotes of a dialect. No other statement
starts in front of it. -/
structure QuotedTable (dialect : Sql) where
  front : Text
  head : Sql.Head dialect
  front_eq : ∀ p u, front = p ++ u → u ≠ [] → afterPhrase? ["create", "table"] (u ++ head.text) = none
  body : Text
  body_ne_nil : body ≠ []
  tail : Text
  tail_closed : ')' ∉ tail
  columns_quoted : ∀ line ∈ Sql.bodyLines body, (Sql.columnName? dialect line).isSome = true →
    ∃ (n : Sql.QuotedName dialect) (u : Text), line = n.text ++ u

namespace QuotedTable

variable {dialect : Sql} (s : QuotedTable dialect)

/-- The name of the table. -/
def table : Text := s.head.name.name.name.text

/-- The body in its parentheses, and what stands behind it. -/
def behind : Text := '(' :: (s.body ++ ')' :: s.tail)

/-- The text with the statement. -/
def text : Text := s.front ++ (s.head.text ++ s.behind)

/-- The lines of the body. -/
def lines : List Text := Sql.bodyLines s.body

/-- The dialect that is detected for the text. -/
def detected : Sql := sqlDialect (trim s.text)

/-- No statement starts behind the start of the statement either. -/
def Single : Prop := hasStatement (s.head.text ++ s.behind).tail = false

instance : Decidable s.Single := inferInstanceAs (Decidable (_ = false))

/-! ## How another dialect reads them -/

/-- The statement starts where its head does. -/
theorem isSome_afterPhrase?_head : (afterPhrase? ["create", "table"] (s.head.text ++ s.behind)).isSome = true := by
  have hcreate := Sql.afterPhrase?_blanks_append isPhrase_createTable s.head.create_eq s.head.dropWhile_isBlank_guard
  obtain ⟨r, hr, _⟩ := Option.bind_eq_some_iff.mp hcreate
  have hhead : afterPhrase? ["create", "table"] s.head.text = some r := hr
  rw [behind, afterPhrase?_stop (by decide) (by decide), hhead]
  rfl

/-- In front of the head, no statement starts. -/
theorem afterPhrase?_front (p u : Text) (hu : s.front = p ++ u) (hne : u ≠ []) :
    afterPhrase? ["create", "table"] (u ++ (s.head.text ++ s.behind)) = none := by
  rw [← List.append_assoc, behind, afterPhrase?_stop (by decide) (by decide), s.front_eq p u hu hne]
  rfl

/-- The text is one of SQL. -/
theorem detect_text : detect s.text = some (.sql s.detected) := by
  have hstatement : hasStatement s.text = true := by
    obtain ⟨r, hr⟩ := Option.isSome_iff_exists.mp s.isSome_afterPhrase?_head
    rw [hasStatement, text, search_of_front s.afterPhrase?_front, search_of_read hr]
    rfl
  rw [detect]
  simp only [hasStatement_trim, hstatement, if_true]
  rfl

/-- A dialect that sees a name for the table reads the columns of the body. -/
theorem readSchema_text {reader : Sql} {name : Text} (h : s.head.seen? reader = some name) :
    Sql.readSchema reader s.text =
      Sql.schemaOf name ((Sql.columnsOf reader s.lines).mapM (Sql.ColumnText.toField reader)) := by
  rw [← s.head.readHead?_text] at h
  obtain ⟨x, hread, rfl⟩ := Option.map_eq_some_iff.mp h
  have hfind : reader.findHead? (s.front ++ s.head.text) = some (x.1, x.2) := by
    rw [Sql.findHead?, search_of_front fun p u hu hne => Sql.readHead?_of_afterPhrase? (s.front_eq p u hu hne)]
    exact search_of_read hread
  have hclosed : '(' ∉ x.2 := fun hmem => s.head.closed ((Sql.suffix_of_readHead? hread).subset hmem)
  have htext : s.text = (s.front ++ s.head.text) ++ '(' :: (s.body ++ ')' :: s.tail) := by simp [text, behind]
  rw [htext, Sql.readSchema_of_parts hfind hclosed s.body_ne_nil s.tail_closed]
  rfl

/-- A dialect that sees no name for the table reads nothing, if there is no further statement. -/
theorem readSchema_text_of_single (hsingle : s.Single) {reader : Sql} (h : s.head.seen? reader = none) :
    Sql.readSchema reader s.text = .error .noTableName := by
  have hread : reader.readHead? (s.head.text ++ s.behind) = none := by
    rw [← s.head.readHead?_text, Option.map_eq_none_iff] at h
    rw [behind, Sql.readHead?_stop, h]
    rfl
  have hfind : reader.findHead? s.text = none := by
    rw [Sql.findHead?, text,
      search_of_front fun p u hu hne => Sql.readHead?_of_afterPhrase? (s.afterPhrase?_front p u hu hne)]
    rw [Single, hasStatement, Option.isSome_eq_false_iff, Option.isNone_iff_eq_none] at hsingle
    cases ht : s.head.text ++ s.behind with
    | nil => rfl
    | cons c v =>
      rw [ht] at hread hsingle
      have htail : search (fun _ => reader.readHead?) (isWordChar c) ([] ++ v) = _ := search_of_front (by simp) _
      rw [search, hread]
      exact htail.trans (search_eq_none (fun _ => Sql.readHead?_of_afterPhrase?) hsingle)
  rw [Sql.readSchema, Sql.Statement.read, hfind]
  rfl

/-- A dialect that sees a name for the table fails at a type only. -/
theorem exists_schema {reader : Sql} {name : Text} (hseen : s.head.seen? reader = some name)
    (htypes : Sql.readSchema reader s.text ≠ .error .typeTooDeep) :
    ∃ schema, Sql.readSchema reader s.text = .ok schema := by
  rw [s.readSchema_text hseen] at htypes ⊢
  cases hfields : (Sql.columnsOf reader s.lines).mapM (Sql.ColumnText.toField reader) with
  | error _ =>
    rw [hfields] at htypes
    exact absurd rfl htypes
  | ok fields => exact ⟨_, rfl⟩

/-! ## Keeping a statement -/

/-- What makes a dialect read a statement of another as that does. -/
structure Keeps (reader : Sql) : Prop where
  table : s.head.seen? reader = some s.table
  quotes : ∀ (n : Sql.QuotedName dialect) (u : Text), n.text ++ u ∈ s.lines →
    (Sql.columnName? dialect (n.text ++ u)).isSome = true → n.IsQuotedFor reader
  others : ∀ line ∈ s.lines, Sql.columnName? dialect line = none → Sql.columnName? reader line = none
  types : Sql.readSchema reader s.text ≠ .error .typeTooDeep

/-- A dialect has the quotes of all columns and reads no other line as one exactly if it agrees on every line. -/
theorem columnName?_eq_iff (reader : Sql) :
    (∀ line ∈ s.lines, Sql.columnName? reader line = Sql.columnName? dialect line) ↔
      (∀ (n : Sql.QuotedName dialect) (u : Text), n.text ++ u ∈ s.lines →
        (Sql.columnName? dialect (n.text ++ u)).isSome = true → n.IsQuotedFor reader) ∧
      ∀ line ∈ s.lines, Sql.columnName? dialect line = none → Sql.columnName? reader line = none := by
  constructor
  · intro h
    refine ⟨fun n u hmem hsome => ?_, fun line hmem hnone => by rw [h line hmem, hnone]⟩
    rw [← h _ hmem, Sql.columnName?_quoted] at hsome
    by_cases hn : n.IsQuotedFor reader
    · exact hn
    · simp [hn] at hsome
  · rintro ⟨hquotes, hothers⟩ line hmem
    cases hname : Sql.columnName? dialect line with
    | none => exact hothers line hmem hname
    | some name =>
      have hsome : (Sql.columnName? dialect line).isSome = true := by rw [hname]; rfl
      obtain ⟨n, u, rfl⟩ := s.columns_quoted line hmem hsome
      have hself := n.isQuotedFor_self
      have hreader := hquotes n u hmem hsome
      rw [← hname, Sql.columnName?_quoted, Sql.columnName?_quoted]
      simp [hself, hreader]

/-- The schema that a dialect reads has the table that it sees and the columns that it finds on the lines. -/
theorem schema_eq {reader : Sql} {name : Text} (hseen : s.head.seen? reader = some name) {schema : Schema}
    (h : Sql.readSchema reader s.text = .ok schema) :
    schema.tableName = some name ∧
      schema.fields.map (·.sourceName) = s.lines.filterMap (Sql.columnName? reader) := by
  rw [s.readSchema_text hseen] at h
  cases hfields : (Sql.columnsOf reader s.lines).mapM (Sql.ColumnText.toField reader) with
  | error e =>
    rw [hfields] at h
    cases h
  | ok fields =>
    rw [hfields] at h
    cases h
    exact ⟨rfl, (Sql.map_sourceName_of_mapM hfields).trans (Sql.map_name_columnsOf reader s.lines)⟩

/-- A dialect keeps its own statements. -/
theorem keeps_self {schema : Schema} (h : Sql.readSchema dialect s.text = .ok schema) : s.Keeps dialect where
  table := s.head.seen?_self
  quotes := fun n _ _ _ => n.isQuotedFor_self
  others := fun _ _ hnone => hnone
  types := by rw [h]; nofun

end QuotedTable

/-! ## The detected dialect -/

/-- Whether a text is read under its detected dialect as a schema with the table and the columns of another. -/
def Agrees (t structName : Text) (schema : Schema) : Prop :=
  ∃ source reading, Conversion.parse t .detect structName = .ok (source, reading) ∧ reading.error = none ∧
    reading.schema.tableName = schema.tableName ∧
    reading.schema.fields.map (·.sourceName) = schema.fields.map (·.sourceName)

/-- Reading under a detected dialect is reading under this dialect. -/
theorem agrees_iff {t : Text} {reader : Sql} (h : detect t = some (.sql reader)) (structName : Text) (schema : Schema) :
    Agrees t structName schema ↔ ∃ schema', Sql.readSchema reader t = .ok schema' ∧
      schema'.tableName = schema.tableName ∧
      schema'.fields.map (·.sourceName) = schema.fields.map (·.sourceName) := by
  have hresolve : Conversion.resolve t .detect = .ok (some (.sql reader)) := congrArg Except.ok h
  rw [Agrees, Conversion.parse_of_resolve hresolve]
  cases hread : (Reader.ofSource structName (.sql reader)).read t with
  | ok schema' =>
    rw [Reader.reading_of_read hread, Reader.read_sql_eq_ok.mp hread]
    constructor
    · rintro ⟨_, _, hreading, _, h⟩
      cases hreading
      exact ⟨schema', rfl, h⟩
    · rintro ⟨_, hschema, h⟩
      cases hschema
      exact ⟨_, _, rfl, rfl, h⟩
  | error e =>
    refine iff_of_false ?_ ?_
    · rintro ⟨_, _, hreading, hnone, _⟩
      rcases Reader.reading_of_read_error hread with h | h
      · rw [h] at hreading
        cases hreading
      · rw [h] at hreading
        cases hreading
        cases hnone
    · rintro ⟨_, hschema, _⟩
      rw [Reader.read_sql_eq_ok.mpr hschema] at hread
      cases hread

/-- Whether two dialects have a pair of quotes in common. -/
def SharesQuotes (dialect reader : Sql) : Prop := ∃ q ∈ dialect.quotePairs, q ∈ reader.quotePairs

theorem sharesQuotes_iff {dialect reader : Sql} :
    SharesQuotes dialect reader ↔ dialect = reader ∨ dialect = .sqlite ∨ reader = .sqlite := by
  rw [SharesQuotes]
  cases dialect <;> cases reader <;> decide

/-- If one partial function goes on with another, the same results on a list are the same results on its elements. -/
theorem filterMap_eq_iff {α β : Type} {f g : α → Option β} (hle : ∀ a b, g a = some b → f a = some b) {l : List α} :
    l.filterMap g = l.filterMap f ↔ ∀ a ∈ l, g a = f a := by
  refine ⟨fun h => ?_, List.filterMap_congr⟩
  have hsub : ∀ l : List α, (l.filterMap g).Sublist (l.filterMap f) := by
    intro l
    induction l with
    | nil => exact List.Sublist.slnil
    | cons a l ih =>
      rw [List.filterMap_cons, List.filterMap_cons]
      cases hg : g a with
      | some b =>
        rw [hle a b hg]
        exact ih.cons_cons b
      | none =>
        cases f a with
        | none => exact ih
        | some b => exact ih.cons b
  induction l with
  | nil => exact fun _ hmem => nomatch hmem
  | cons a l ih =>
    rw [List.filterMap_cons, List.filterMap_cons] at h
    have hhead : g a = f a ∧ l.filterMap g = l.filterMap f := by
      cases hg : g a with
      | some b =>
        rw [hg, hle a b hg] at h
        exact ⟨(hle a b hg).symm, List.tail_eq_of_cons_eq h⟩
      | none =>
        cases hf : f a with
        | none =>
          rw [hg, hf] at h
          exact ⟨rfl, h⟩
        | some b =>
          -- then there would be more results of the one than of the other
          rw [hg, hf] at h
          have hlength := congrArg List.length h
          have hle := (hsub l).length_le
          simp only [List.length_cons] at hlength
          omega
    exact List.forall_mem_cons.mpr ⟨hhead.1, ih hhead.2⟩

/-- Dialects with quotes in common read the same columns only if they agree on every line. -/
theorem columnName?_eq_of_sharesQuotes {dialect reader : Sql} (hshared : SharesQuotes dialect reader)
    {lines : List Text}
    (h : lines.filterMap (Sql.columnName? reader) = lines.filterMap (Sql.columnName? dialect)) :
    ∀ line ∈ lines, Sql.columnName? reader line = Sql.columnName? dialect line := by
  have hsqlite : ∀ (other : Sql) line name, Sql.columnName? other line = some name →
      Sql.columnName? .sqlite line = some name := fun _ _ _ => Sql.columnName?_sqlite
  rcases sharesQuotes_iff.mp hshared with rfl | rfl | rfl
  · exact fun _ _ => rfl
  · exact (filterMap_eq_iff (hsqlite reader)).mp h
  · exact fun line hmem => ((filterMap_eq_iff (hsqlite dialect)).mp h.symm line hmem).symm

/-- A detected dialect that keeps a statement reads the same table and the same columns without error. The dialect of
the statement keeps it, and among dialects with quotes in common only one that keeps a single statement does so. -/
theorem agrees_iff_keeps {dialect : Sql} (s : QuotedTable dialect) {schema : Schema}
    (h : Sql.readSchema dialect s.text = .ok schema) (structName : Text) :
    (s.Keeps s.detected → Agrees s.text structName schema) ∧
      (s.detected = dialect → s.Keeps s.detected) ∧
      (s.Single → SharesQuotes dialect s.detected → Agrees s.text structName schema → s.Keeps s.detected) := by
  obtain ⟨htable, hcolumns⟩ := s.schema_eq s.head.seen?_self h
  rw [agrees_iff s.detect_text, htable, hcolumns]
  refine ⟨fun hkeeps => ?_, fun heq => ?_, ?_⟩
  · have hlines := (s.columnName?_eq_iff s.detected).mpr ⟨hkeeps.quotes, hkeeps.others⟩
    obtain ⟨schema', hread⟩ := s.exists_schema hkeeps.table hkeeps.types
    obtain ⟨htable', hcolumns'⟩ := s.schema_eq hkeeps.table hread
    exact ⟨schema', hread, htable', hcolumns'.trans (List.filterMap_congr hlines)⟩
  · rw [heq]
    exact s.keeps_self h
  · rintro hsingle hshared ⟨schema', hread, htable', hcolumns'⟩
    cases hseen : s.head.seen? s.detected with
    | none =>
      rw [s.readSchema_text_of_single hsingle hseen] at hread
      cases hread
    | some name =>
      obtain ⟨hname, hnames⟩ := s.schema_eq hseen hread
      have hlines := columnName?_eq_of_sharesQuotes hshared (hnames.symm.trans hcolumns')
      obtain ⟨hquotes, hothers⟩ := (s.columnName?_eq_iff s.detected).mp hlines
      have htypes : Sql.readSchema s.detected s.text ≠ .error .typeTooDeep := by rw [hread]; nofun
      exact ⟨hseen.trans (hname.symm.trans htable'), hquotes, hothers, htypes⟩

/-- A statement of SQLite with the quotes of MySQL. -/
def quotedNotes : QuotedTable .sqlite where
  front := []
  head := {
    create := "CREATE TABLE "
    create_eq := by decide
    guard := "if not exists "
    guard_eq := .inr (by decide)
    name := {
      qualifier := some (.bare ⟨"main", by decide, by decide⟩)
      name := ⟨⟨"notes", by decide, by decide⟩, ('\x60', '\x60'), by decide⟩ }
    rest := " "
    rest_eq := nofun
    closed := by decide }
  front_eq := fun p u hu hne => absurd (List.append_eq_nil_iff.mp hu.symm).2 hne
  body := "\x60id\x60 INTEGER, PRIMARY KEY (id)"
  body_ne_nil := by decide
  tail := []
  tail_closed := List.not_mem_nil
  columns_quoted := by
    intro line hline hcolumn
    have hlines : Sql.bodyLines "\x60id\x60 INTEGER, PRIMARY KEY (id)" =
        (["\x60id\x60 INTEGER", "PRIMARY KEY (id)"] : List Text) := by decide
    rw [hlines, List.mem_cons, List.mem_singleton] at hline
    rcases hline with rfl | rfl
    · exact ⟨⟨⟨"id", by decide, by decide⟩, ('\x60', '\x60'), by decide⟩, " INTEGER", by rfl⟩
    · exact absurd hcolumn (by decide)

/-- The statement is detected as one of MySQL, which keeps it. -/
theorem agrees_quotedNotes :
    quotedNotes.text = "CREATE TABLE if not exists main.\x60notes\x60 (\x60id\x60 INTEGER, PRIMARY KEY (id))" ∧
      quotedNotes.detected = .mysql ∧
      ∃ schema, Sql.readSchema .sqlite quotedNotes.text = .ok schema ∧ Agrees quotedNotes.text "Response" schema := by
  have hdetected : quotedNotes.detected = .mysql := by decide
  have hlines : ∀ line ∈ quotedNotes.lines, Sql.columnName? .mysql line = Sql.columnName? .sqlite line := by decide
  obtain ⟨hquotes, hothers⟩ := (quotedNotes.columnName?_eq_iff .mysql).mp hlines
  have hkeeps : quotedNotes.Keeps quotedNotes.detected := by
    rw [hdetected]
    exact ⟨by decide, hquotes, hothers, by decide⟩
  obtain ⟨schema, h⟩ := quotedNotes.exists_schema quotedNotes.head.seen?_self (by decide)
  exact ⟨by decide, hdetected, schema, h, (agrees_iff_keeps quotedNotes h "Response").1 hkeeps⟩

/-- A statement of PostgreSQL without a marker. -/
def quotedUsers : QuotedTable .postgresql where
  front := []
  head := {
    create := "CREATE TABLE "
    create_eq := by decide
    guard := []
    guard_eq := .inl rfl
    name := {
      qualifier := none
      name := ⟨⟨"users", by decide, by decide⟩, ('"', '"'), by decide⟩ }
    rest := " "
    rest_eq := fun _ => by decide
    closed := by decide }
  front_eq := fun p u hu hne => absurd (List.append_eq_nil_iff.mp hu.symm).2 hne
  body := "\"id\" INTEGER"
  body_ne_nil := by decide
  tail := []
  tail_closed := List.not_mem_nil
  columns_quoted := by
    intro line hline _
    have hlines : Sql.bodyLines "\"id\" INTEGER" = (["\"id\" INTEGER"] : List Text) := by decide
    rw [hlines, List.mem_singleton] at hline
    exact ⟨⟨⟨"id", by decide, by decide⟩, ('"', '"'), by decide⟩, " INTEGER", by rw [hline]; rfl⟩

/-- The statement is detected as one of MySQL, where it has no table. -/
theorem not_agrees_quotedUsers :
    quotedUsers.text = "CREATE TABLE \"users\" (\"id\" INTEGER)" ∧ quotedUsers.Single ∧
      ∃ schema, Sql.readSchema .postgresql quotedUsers.text = .ok schema ∧
        schema.tableName = some "users" ∧ schema.fields.map (·.sourceName) = ["id"] ∧
        ¬Agrees quotedUsers.text "Response" schema := by
  have hdetected : quotedUsers.detected = .mysql := by decide
  have hnone : Sql.readSchema .mysql quotedUsers.text = .error .noTableName := by decide
  obtain ⟨schema, h⟩ := quotedUsers.exists_schema quotedUsers.head.seen?_self (by decide)
  obtain ⟨htable, hcolumns⟩ := quotedUsers.schema_eq quotedUsers.head.seen?_self h
  refine ⟨by decide, by decide, schema, h, htable, hcolumns.trans (by decide), ?_⟩
  rw [agrees_iff quotedUsers.detect_text, hdetected, hnone]
  rintro ⟨_, hread, _⟩
  cases hread

end StructForge.Detection
