import StructForge.Proofs.Sql.ColumnReading
import StructForge.Proofs.Text.Lines

/-!
# Declarations come back as fields

The text of a statement is read as its declarations, whatever the layout: every column of the body becomes the field
that it asks for, in order, and the table constraints become nothing (`readSchema_createTable`). The body falls apart
into its parts (`bodyLines_joinPieces`), each of which is a column or a constraint as declared, also without the
blanks that a constraint may end in (`Element.read_text`).
-/

namespace StructForge.Sql

open Text

/-! ## The parts of the body as lines -/

namespace ColumnDecl

variable {dialect : Sql} (d : ColumnDecl dialect)

theorem endsInk_type : EndsInk d.type := by
  rcases d.parameters_ok with h | ⟨list, h, _⟩
  · rw [type, h, List.append_nil]
    rcases typeWord_cases dialect d.word d.word_mem with ⟨hne, hword⟩ | ⟨_, hw⟩
    · exact endsInk_of_isWordChar hne hword
    · rw [hw]
      exact ⟨"DOUBLE PRECISIO", 'N', rfl, rfl⟩
  · exact ⟨d.word ++ '(' :: list, ')', by simp [type, h], by decide⟩

theorem endsInk_text : EndsInk d.text := by
  rw [text, ← List.append_assoc]
  refine EndsInk.append ?_ _
  rw [clauseText]
  obtain hk | ⟨ks, k, hk⟩ := List.eq_nil_or_concat d.keywords
  · rw [hk, List.flatMap_nil, List.append_nil]
    exact d.endsInk_type
  · have hmem : k ∈ d.keywords := by rw [hk, List.concat_eq_append]; exact List.mem_append_right ks List.mem_cons_self
    obtain ⟨hne, hword⟩ := d.isPhrase_keywords k.text (List.mem_map_of_mem hmem)
    have hwritten := (endsInk_of_isWordChar hne hword).append k.gap.text
    rw [hk, List.concat_eq_append, List.flatMap_append, List.flatMap_singleton, ← List.append_assoc]
    exact hwritten.append _

theorem trim_text : trim d.text = d.text := by
  obtain ⟨c, u, ht, hc⟩ := d.piece.start
  rw [ht]
  exact trim_eq_self hc (ht ▸ d.endsInk_text)

end ColumnDecl

/-- A table constraint is one without the blanks at its end. -/
theorem ConstraintDecl.isConstraint_trim {dialect : Sql} (d : ConstraintDecl dialect) :
    dialect.isConstraint (trim d.text) = true := by
  obtain ⟨c, u, ht, hc⟩ := d.start
  have htrim : trim d.text = dropEndWhile isBlank d.text := by rw [trim, ht, dropWhile_isBlank_of_isWordChar hc]
  obtain ⟨b, hb, hblank⟩ := dropEndWhile_append isBlank d.text
  have hopened := d.opened
  rw [hb, afterWholePhrase?_append_blanks hblank (constraintPhrases_spec dialect d.phrase d.phrase_mem).2] at hopened
  rw [htrim]
  exact List.any_eq_true.mpr ⟨d.phrase, d.phrase_mem, hopened⟩

namespace Element

variable {dialect : Sql}

/-- A part of the body as a line of a statement. -/
def line : Element dialect → Line
  | column d => .column ⟨d.name.text, d.type, d.rest⟩
  | tableConstraint d => .tableConstraint (trim d.text)

/-- A part of the body is read as what it is. -/
theorem read_text : ∀ e : Element dialect, Line.read dialect (trim e.text) = e.line
  | column d => by
    rw [text, d.trim_text, Line.read, if_neg (by rw [d.not_isConstraint]; exact Bool.false_ne_true), d.readColumn?_text,
      line]
  | tableConstraint d => by rw [text, Line.read, if_pos d.isConstraint_trim, line]

/-- The columns of a body become the fields that they ask for. -/
theorem mapM_toField : ∀ es : List (Element dialect),
    ((es.map line).filterMap Line.column?).mapM (ColumnText.toField dialect) = .ok (es.filterMap field?)
  | [] => rfl
  | column d :: es => by
    have ih := mapM_toField es
    rw [List.map_cons, List.filterMap_cons, List.filterMap_cons]
    show List.mapM _ (_ :: List.filterMap Line.column? (es.map line)) = _
    rw [List.mapM_cons, d.toField_read, ih]
    rfl
  | tableConstraint d :: es => by
    rw [List.map_cons, List.filterMap_cons, List.filterMap_cons]
    exact mapM_toField es

end Element

/-! ## Statements -/

section Statement

variable {dialect : Sql} (table : Name) (first : Element dialect) (rest : List (Blanks × Element dialect))

/-- A statement that was put together from declarations is read as these. -/
theorem Statement.read_createTable :
    Statement.read dialect (createTable table first rest) =
      .ok ⟨table.text, (first :: rest.map (·.2)).map Element.line⟩ := by
  have hhead := findHead?_plain dialect table.nonempty table.word
  have hpieces : ∀ x ∈ rest.map (fun x => (x.1.text, x.2.text)), (∀ c ∈ x.1, isBlank c = true) ∧ Piece x.2 := by
    intro x hx
    obtain ⟨y, _, rfl⟩ := List.mem_map.mp hx
    exact ⟨y.1.blank, y.2.piece⟩
  have hbody := bodyLines_joinPieces first.piece hpieces
  obtain ⟨c, u, hcu, _⟩ := joinPieces_start first.piece (rest.map fun x => (x.1.text, x.2.text))
  have hne : joinPieces first.text (rest.map fun x => (x.1.text, x.2.text)) ≠ [] := by
    rw [hcu]
    exact List.cons_ne_nil c u
  have hread := Statement.read_of_parts hhead paren_not_mem_space hne List.not_mem_nil
  rw [hbody] at hread
  refine hread.trans ?_
  simp [Element.read_text, Function.comp_def]

/-- A statement that was put together from declarations has the fields of its columns, in order, and no others. -/
theorem readSchema_createTable :
    readSchema dialect (createTable table first rest) =
      .ok { tableName := some table.text, fields := (first :: rest.map (·.2)).filterMap Element.field? } := by
  rw [readSchema, Statement.read_createTable]
  simp only [Except.bind, Statement.toSchema, Statement.columns, Element.mapM_toField]
  rfl

end Statement

theorem users_ne_nil : ("users" : Text) ≠ [] := by decide

theorem isWordChar_of_mem_users : ∀ c ∈ ("users" : Text), isWordChar c = true := by decide

/-- The name of a table. -/
def usersName : Name := ⟨"users", users_ne_nil, isWordChar_of_mem_users⟩

/-- The column of a number that counts itself. -/
def idColumn : ColumnDecl .mysql where
  name := ⟨"id", by decide, by decide⟩
  quotes := ('\x60', '\x60')
  quotes_mem := by decide
  gap := ⟨⟨" ", by decide⟩, by decide⟩
  word := "BIGINT"
  word_mem := by decide
  parameters := "(20)"
  parameters_ok := .inr ⟨"20", rfl, by decide⟩
  clauses := [.notNull, .generated ⟨["auto_increment"], by decide⟩]
  keywords := [⟨⟨⟨" ", by decide⟩, by decide⟩, "not"⟩, ⟨⟨⟨"\n  ", by decide⟩, by decide⟩, "NULL"⟩,
    ⟨⟨⟨"\t", by decide⟩, by decide⟩, "Auto_Increment"⟩]
  spelling := by decide

/-- A key over two columns. -/
def pairKey : ConstraintDecl .mysql :=
  .ofCuts "KEY pair (id, name)" ["key"] (by decide) (by decide) (by decide) (by decide) (by decide)

/-- A column with its keywords on two lines, and a key whose comma separates nothing. -/
theorem readSchema_createTable_keyed :
    readSchema .mysql "CREATE TABLE users (\x60id\x60 BIGINT(20) not\n  NULL\tAuto_Increment, KEY pair (id, name))" =
      .ok {
        tableName := some "users"
        fields := [{
          sourceName := "id", targetName := "Id", sourceType := "BIGINT(20)", targetType := "int64", nullable := false
          isPrimaryKey := true, isAutoIncrement := true, comment := some "id", serializedName := "id"
          storageColumn := some "id" }] } := by
  have htext : createTable usersName (.column idColumn) [(⟨" ", by decide⟩, .tableConstraint pairKey)] =
      "CREATE TABLE users (\x60id\x60 BIGINT(20) not\n  NULL\tAuto_Increment, KEY pair (id, name))" := by decide
  have hfield : idColumn.field = {
      sourceName := "id", targetName := "Id", sourceType := "BIGINT(20)", targetType := "int64", nullable := false
      isPrimaryKey := true, isAutoIncrement := true, comment := some "id", serializedName := "id"
      storageColumn := some "id" } := by decide
  rw [← htext, ← hfield]
  exact readSchema_createTable usersName (.column idColumn) [(⟨" ", by decide⟩, .tableConstraint pairKey)]

end StructForge.Sql
